import GraphContracts.Script.Object

namespace GraphContracts.Script

def lineOf (v : Value) : Except Fault (Option Int) :=
  v.declarationLine.mapError fun l => .argument l.message

/-- A field of a record, which may be computed and fail. -/
abbrev Field := String × Except Fault Object

def plainFields (fs : List (String × Object)) : List Field :=
  fs.map fun (k, o) => (k, .ok o)

def locationFields (l : Location) : List (String × Object) :=
  [("file", .text l.file), ("line", .int l.line), ("col", .int l.col)]

def storedArgument (a : Argument) : List (String × Object) :=
  [("position", .int a.position), ("parameter", .optText a.parameter),
    ("value_id", .optText a.valueId), ("value_expr", .optText a.valueExpr)]

def argumentFields (a : Argument) : List (String × Object) :=
  storedArgument a ++ [("is_bound", .bool a.isBound), ("is_well_formed", .bool a.isWellFormed)]

def storedValue (v : Value) : List (String × Object) :=
  [("id", .text v.id), ("kind", .text v.kind.name), ("kind_type", .optText v.kindType),
    ("symbol", .optText v.symbol), ("type", .optText v.type), ("expr", .optText v.expr),
    ("source_call_id", .optText v.sourceCallId), ("source_value_id", .optText v.sourceValueId),
    ("location", .opt .location v.location), ("declared_name", .optText v.declaredName)]

def valueFields (v : Value) : List Field :=
  plainFields (storedValue v ++ [("scope", .optText v.scope), ("file", .optText v.file),
    ("line", .opt .int v.line), ("name", .optText v.name), ("describe", .text v.describe)]) ++
    [("declaration_line", (lineOf v).map (.opt .int))]

def storedCall (argument : Argument → Object) (c : Call) : List (String × Object) :=
  [("id", .text c.id), ("kind", .text c.kind.name),
    ("kind_type", .optText (c.kindType.map KindType.name)), ("caller", .text c.caller),
    ("callee", .optText c.callee), ("return_type", .optText c.returnType),
    ("receiver_value_id", .optText c.receiverValueId),
    ("result_value_id", .optText c.resultValueId), ("location", .opt .location c.location),
    ("arguments", .many (c.arguments.map argument))]

def callFields (c : Call) : List (String × Object) :=
  storedCall .argument c ++ [("scope", .optText c.scope), ("file", .optText c.file),
    ("line", .opt .int c.line), ("positions", .plain (.list (c.positions.map .int))),
    ("describe", .text c.describe)]

def documentFields (d : GraphDocument) : List (String × Object) :=
  [("version", .text d.version), ("values", .many (d.values.map fun v => .record (storedValue v))),
    ("calls",
      .many (d.calls.map fun c => .record (storedCall (fun a => .record (storedArgument a)) c)))]

def relationshipFields (r : Relationship) : List (String × Object) :=
  [("symbol", .text r.symbol), ("is_reference", .bool r.isReference),
    ("is_implementation", .bool r.isImplementation),
    ("is_type_definition", .bool r.isTypeDefinition), ("is_definition", .bool r.isDefinition)]

def symbolFields (s : SymbolEntry) : List (String × Object) :=
  [("name", .text s.name), ("kind", .optText s.kind), ("documentation", .texts s.documentation),
    ("relationships", .many (s.relationships.map .relationship)), ("is_class", .bool s.isClass)]

def rangeDatum (o : Occurrence) : Datum :=
  .list (o.range.map .int)

def occurrenceFields (o : Occurrence) : List (String × Object) :=
  [("symbol", .text o.symbol), ("file", .text o.file), ("start_line", .int o.startLine),
    ("start_col", .int o.startCol), ("end_line", .int o.endLine), ("end_col", .int o.endCol),
    ("roles", .int o.roles), ("range", .plain (rangeDatum o)), ("line", .int o.line),
    ("role_names", .texts (RoleSchema.standard.names o.roles))]

def entriesOf (d : Datum) : List (String × Object) :=
  match d with
  | .map es => es.map fun (k, v) => (k.display, .plain v)
  | _ => []

def findingFields (f : Finding) : List (String × Object) :=
  [("ids", .texts f.ids), ("message", .text f.message)] ++
    (f.missingId.toList.map fun id => ("missing_id", .text id))

def checkFields (r : CheckResult) : List (String × Object) :=
  [("name", .text r.check.name), ("enabled", .bool r.enabled), ("count", .nat r.count),
    ("violations", .many (r.findings.map .finding)), ("passed", .bool r.passed),
    ("offending_ids", .texts r.offendingIds)]

def verificationFields (r : ReferenceVerification) : List (String × Object) :=
  [("value_id", .text r.valueId), ("value_count", .nat r.valueCount),
    ("reference_count", .nat r.referenceCount), ("message", .text r.message)]

def bindingFields (a : BindingContract) : List (String × Object) :=
  [("class_name", .optText a.className), ("method_name", .optText a.methodName),
    ("callee", .optText a.callee), ("line", .opt .int a.line),
    ("argument_position", .opt .int a.argumentPosition),
    ("expected_kind", .optText (a.expectedKind.map ValueKind.name)),
    ("expected_name", .optText a.expectedName), ("result_kind", .optText a.resultKind),
    ("result_callee", .optText a.resultCallee)]

def chainFields (a : ChainContract) : List (String × Object) :=
  [("start_value_id", .optText a.startValueId),
    ("end_kind", .optText (a.endKind.map ValueKind.name)), ("length", .opt .int a.length),
    ("class_name", .optText a.className), ("method_name", .optText a.methodName),
    ("start_variable", .optText a.startVariable),
    ("hops", .plain (.list (a.hops.map fun (k, n) => .texts [k.name, n])))]

def referenceFields (a : ReferenceContract) : List (String × Object) :=
  [("class_name", .optText a.className), ("method_name", .optText a.methodName),
    ("variable", .optText a.variableName), ("variable_kind", .text a.variableKind.name),
    ("line", .opt .int a.line)]

def sortedTexts (ss : List String) : List String :=
  ss.mergeSort fun a b => a ≤ b

def integrityFields (a : IntegrityContract) : List (String × Object) :=
  [("enabled", .texts (sortedTexts (a.enabled.map Check.name)))]

end GraphContracts.Script
