import GraphContracts.Config.Model
import GraphContracts.Index.Literal
import GraphContracts.Session

namespace GraphContracts.Literal

def texts (items : List String) : String :=
  tuple (items.map Text.quoted)

def valueKind (k : ValueKind) : String :=
  member "ValueKind" k.name

def number? : Option Int → String :=
  optional toString

def query (name store : String) (labels : List String) (more : List (String × String)) : String :=
  record name ([("store", store), ("_labels", texts labels)] ++ more)

def valueQuery (q : ValueQuery) : String :=
  query "ValueQuery" q.graph.describe q.labels []

def callQuery (q : CallQuery) : String :=
  query "CallQuery" q.graph.describe q.labels []

def symbolQuery (q : SymbolQuery) : String :=
  query "SymbolQuery" q.index.describe q.labels []

def occurrenceQuery (q : OccurrenceQuery) : String :=
  query "OccurrenceQuery" q.index.describe q.labels [("_symbols", optional texts q.symbols)]

def reference (a : ReferenceContract) : String :=
  record "ReferenceConsistencyAssertion" [("store", a.graph.describe),
    ("class_name", text? a.className), ("method_name", text? a.methodName),
    ("variable", text? a.variableName), ("variable_kind", valueKind a.variableKind),
    ("line", number? a.line)]

def hop (h : Hop) : String :=
  tuple [member "CallKind" h.1.name, Text.quoted h.2]

def chain (a : ChainContract) : String :=
  record "ChainIntegrityAssertion" [("store", a.graph.describe),
    ("start_value_id", text? a.startValueId), ("end_kind", optional valueKind a.endKind),
    ("length", number? a.length), ("class_name", text? a.className),
    ("method_name", text? a.methodName), ("start_variable", text? a.startVariable),
    ("hops", tuple (a.hops.map hop))]

def binding (a : BindingContract) : String :=
  record "ArgumentBindingAssertion" [("store", a.graph.describe),
    ("class_name", text? a.className), ("method_name", text? a.methodName),
    ("callee", text? a.callee), ("line", number? a.line),
    ("argument_position", number? a.argumentPosition),
    ("expected_kind", optional valueKind a.expectedKind),
    ("expected_name", text? a.expectedName), ("result_kind", text? a.resultKind),
    ("result_callee", text? a.resultCallee)]

def integrity (a : IntegrityContract) : String :=
  let names := ((a.enabled.map Check.name).mergeSort fun x y => x ≤ y).map Text.quoted
  let enabled := if names.isEmpty then "" else "\x7b" ++ Text.joinWith ", " names ++ "\x7d"
  record "DataIntegrityAssertion" [("store", a.graph.describe),
    ("enabled", "frozenset(" ++ enabled ++ ")")]

def verification (r : ReferenceVerification) : String :=
  record "ReferenceVerification" [("value_id", Text.quoted r.valueId),
    ("value_count", toString r.valueCount), ("reference_count", toString r.referenceCount),
    ("message", Text.quoted r.message)]

def chainStep : ChainStep → String
  | .value v => record "ChainStep" [("type", Text.quoted "value"), ("node", value v)]
  | .call c => record "ChainStep" [("type", Text.quoted "call"), ("node", call c)]

def chainResult (c : Chain) : String :=
  record "ChainVerificationResult" [("steps", tuple (c.steps.map chainStep)),
    ("root_value", value c.root), ("final_value", value c.final),
    ("step_count", toString c.stepCount)]

def finding (f : Finding) : String :=
  record "Violation" [("ids", texts f.ids), ("message", Text.quoted f.message),
    ("missing_id", text? f.missingId)]

def check (r : CheckResult) : String :=
  record "CheckResult" [("name", Text.quoted r.check.name),
    ("enabled", Datum.boolLiteral r.enabled), ("violations", tuple (r.findings.map finding))]

def report (r : IntegrityReport) : String :=
  record "IntegrityReport" [("checks", tuple (r.checks.map check))]

def roles (s : RoleSchema) : String :=
  record "RoleSchema" [("flags", mapping (s.flags.map fun (name, bit) => (name, toString bit))),
    ("definition_role", Text.quoted s.definitionRole),
    ("reference_mask", toString s.referenceMask),
    ("bare_is_reference", Datum.boolLiteral s.bareIsReference)]

def dataConfig (c : DataConfig) : String :=
  record "DataConfig" [("output_dir", Text.quoted c.outputDir),
    ("calls_json", Text.quoted c.callsJson), ("scip_json", text? c.indexJson),
    ("experimental", Datum.boolLiteral c.experimental)]

end GraphContracts.Literal
