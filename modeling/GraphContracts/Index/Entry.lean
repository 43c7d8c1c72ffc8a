import GraphContracts.Index.Roles
import GraphContracts.Text.LetterCase

namespace GraphContracts

open Schema

structure Relationship where
  symbol : String
  isReference : Bool
  isImplementation : Bool
  isTypeDefinition : Bool
  isDefinition : Bool
  deriving DecidableEq, Repr

structure SymbolEntry where
  name : String
  kind : Option String
  documentation : List String
  relationships : List Relationship
  deriving DecidableEq, Repr

/-- A place where a symbol is defined or used. Lines and columns count from zero here. -/
structure Occurrence where
  symbol : String
  file : String
  startLine : Int
  startCol : Int
  endLine : Int
  endCol : Int
  roles : Int
  deriving DecidableEq, Repr

namespace Relationship

def ofEntries (es : Entries) : Checked Relationship :=
  Relationship.mk <$> required "symbol" text es <*>
    withDefault ["is_reference", "isReference"] false boolean es <*>
    withDefault ["is_implementation", "isImplementation"] false boolean es <*>
    withDefault ["is_type_definition", "isTypeDefinition"] false boolean es <*>
    withDefault ["is_definition", "isDefinition"] false boolean es

def ofDatum : Datum → Checked Relationship :=
  record "Relationship" ofEntries

def hasKind (r : Relationship) (kind : String) : Bool :=
  if kind = "reference" then r.isReference
  else if kind = "implementation" then r.isImplementation
  else if kind = "type_definition" then r.isTypeDefinition
  else if kind = "definition" then r.isDefinition
  else false

end Relationship

namespace SymbolEntry

def readKind : Datum → Checked (Option String)
  | .text s => .valid (if s = "" then none else some (Text.lower s))
  | _ => .valid none

def readDocumentation : Datum → Checked (List String)
  | .text s => .valid (if s = "" then [] else [s])
  | d => if d.isTruthy then items .tuple text d else .valid []

def ofEntries (es : Entries) : Checked SymbolEntry :=
  SymbolEntry.mk <$> required "name" text es <*> withDefault ["kind"] none readKind es <*>
    withDefault ["documentation"] [] readDocumentation es <*>
    withDefault ["relationships"] [] (items .tuple Relationship.ofDatum) es

def ofDatum : Datum → Checked SymbolEntry :=
  record "Symbol" ofEntries

/-- Whether an entity is a class: by its kind, or where it has none by the mark at the end of its
name. -/
def isClass (s : SymbolEntry) : Bool :=
  match s.kind with
  | some k => k = "class"
  | none => Text.endsWith "#" s.name

end SymbolEntry

namespace Occurrence

inductive Fault where
  | range (found : Datum)
  | fields (issues : List Issue)
  deriving Repr

def Fault.message : Fault → String
  | .range found => s!"range must have 3 or 4 elements, got {found.literal}"
  | .fields issues => describeAll "Occurrence" issues

/-- Start and end of a range; with three elements both are on one line. -/
def readRange : Datum → Option (Datum × Datum × Datum × Datum)
  | .list [line, first, last] => some (line, first, line, last)
  | .list [line, first, endLine, last] => some (line, first, endLine, last)
  | _ => none

def ofFields (es : Entries) : Checked Occurrence :=
  Occurrence.mk <$> required "symbol" text es <*> required "file" text es <*>
    required "start_line" integer es <*> required "start_col" integer es <*>
    required "end_line" integer es <*> required "end_col" integer es <*>
    withDefault ["roles"] 0 integer es

/-- An occurrence as documents write it. The file is given from outside or, where it is null,
in the occurrence itself. -/
def ofRaw (raw : Entries) (file : Datum) : Except Fault Occurrence :=
  match readRange ((raw.get? "range").getD .null) with
  | none => .error (.range ((raw.get? "range").getD .null))
  | some (startLine, startCol, endLine, endCol) =>
    let given := ((raw.get? "symbolRoles").or (raw.get? "symbol_roles")).getD (.int 0)
    let roles := if given.isTruthy then given else .int 0
    let file := match file with
      | .null => (raw.get? "_file").getD (.text "")
      | d => d
    let fields := [("symbol", (raw.get? "symbol").getD (.text "")), ("file", file),
      ("start_line", startLine), ("start_col", startCol), ("end_line", endLine),
      ("end_col", endCol), ("roles", roles)]
    match ofFields (fields.map fun (k, v) => (.text k, v)) with
    | .valid o => .ok o
    | .invalid issues => .error (.fields issues)
    | .aborted _ => .error (.fields [])

def range (o : Occurrence) : List Int :=
  [o.startLine, o.startCol, o.endLine, o.endCol]

def line (o : Occurrence) : Int :=
  o.startLine + 1

end Occurrence

end GraphContracts
