import GraphContracts.Graph.Literal
import GraphContracts.Index.Entry

namespace GraphContracts.Literal

def relationship (r : Relationship) : String :=
  record "Relationship" [("symbol", Text.quoted r.symbol),
    ("is_reference", Datum.boolLiteral r.isReference),
    ("is_implementation", Datum.boolLiteral r.isImplementation),
    ("is_type_definition", Datum.boolLiteral r.isTypeDefinition),
    ("is_definition", Datum.boolLiteral r.isDefinition)]

def symbol (s : SymbolEntry) : String :=
  record "Symbol" [("name", Text.quoted s.name), ("kind", text? s.kind),
    ("documentation", tuple (s.documentation.map Text.quoted)),
    ("relationships", tuple (s.relationships.map relationship))]

def occurrence (o : Occurrence) : String :=
  record "Occurrence" [("symbol", Text.quoted o.symbol), ("file", Text.quoted o.file),
    ("start_line", toString o.startLine), ("start_col", toString o.startCol),
    ("end_line", toString o.endLine), ("end_col", toString o.endCol),
    ("roles", toString o.roles)]

end GraphContracts.Literal
