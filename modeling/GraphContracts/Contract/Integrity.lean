import GraphContracts.Contract.Groups
import GraphContracts.Contract.Report
import GraphContracts.Graph.Store

namespace GraphContracts

namespace CallGraph

def scopedValues (g : CallGraph) (kind : ValueKind) : List ((String × String) × Value) :=
  (g.values.filter fun v => v.kind = kind).filterMap fun v =>
    match v.scope, v.name with
    | some scope, some name => some ((scope, name), v)
    | _, _ => none

def findParameterDuplicates (g : CallGraph) : List Finding :=
  (repeatedKeys ((g.scopedValues .parameter).map fun (key, v) => (key, v.id))).map
    fun ((scope, name), ids) =>
      let listed := Text.joinWith ", " ids
      ⟨ids, s!"Duplicate parameter {name} in {scope} (ids: {listed})", none⟩

/-- Values with their declaration lines beside their scopes and names. -/
def keyedByLine : List ((String × String) × Value) →
    Except Symbol.LongLine (List ((String × String × Option Int) × String))
  | [] => .ok []
  | ((scope, name), v) :: more =>
    match v.declarationLine with
    | .error e => .error e
    | .ok line => (keyedByLine more).map (((scope, name, line), v.id) :: ·)

def findLocalDuplicates (g : CallGraph) : Except Symbol.LongLine (List Finding) :=
  (keyedByLine (g.scopedValues .localVariable)).map fun keyed =>
    (repeatedKeys keyed).map fun ((scope, name, line), ids) =>
      let listed := Text.joinWith ", " ids
      let at_ := (line.map toString).getD "None"
      ⟨ids, s!"Duplicate local {name}@{at_} in {scope} (ids: {listed})", none⟩

def missing? (known : String → Bool) (id : Option String) : Option String :=
  id.filter fun i => !known i

def findOrphanedReceivers (g : CallGraph) : List Finding :=
  g.calls.filterMap fun c =>
    (missing? g.hasValue c.receiverValueId).map fun id =>
      ⟨[c.id], s!"Orphaned receiver_value_id: call {c.id} references non-existent value {id}",
        some id⟩

def findOrphanedArguments (g : CallGraph) : List Finding :=
  g.calls.flatMap fun c => c.arguments.filterMap fun a =>
    (missing? g.hasValue a.valueId).map fun id =>
      ⟨[c.id],
        s!"Orphaned argument value_id: call {c.id} arg {a.position} " ++
          s!"references non-existent value {id}",
        some id⟩

def findOrphanedSourceCalls (g : CallGraph) : List Finding :=
  g.values.filterMap fun v =>
    (missing? g.hasCall v.sourceCallId).map fun id =>
      ⟨[v.id], s!"Orphaned source_call_id: value {v.id} references non-existent call {id}",
        some id⟩

def findOrphanedSourceValues (g : CallGraph) : List Finding :=
  g.values.filterMap fun v =>
    (missing? g.hasValue v.sourceValueId).map fun id =>
      ⟨[v.id], s!"Orphaned source_value_id: value {v.id} references non-existent value {id}",
        some id⟩

def findMissingResults (g : CallGraph) : List Finding :=
  (g.calls.filter fun c => (g.resultOf c).isNone).map fun c =>
    let message := match c.resultValueId with
      | some id => s!"Call {c.id} result_value_id references non-existent value {id}"
      | none => s!"Call {c.id} ({c.kind.name} {c.calleeLabel}) has no result value"
    ⟨[c.id], message, c.resultValueId⟩

/-- The types of a call and of its result, where both are known and differ. -/
def typeMismatch? (g : CallGraph) (c : Call) : Option (Value × String × String) :=
  match c.returnType, g.resultOf c with
  | some expected, some v =>
    (v.type.filter fun found => found ≠ expected).map fun found => (v, expected, found)
  | _, _ => none

def findTypeMismatches (g : CallGraph) : List Finding :=
  g.calls.filterMap fun c => (g.typeMismatch? c).map fun (v, expected, found) =>
    ⟨[c.id, v.id],
      s!"Call {c.id} returns {expected} but result value {v.id} has type {found}", none⟩

def findMalformedArguments (g : CallGraph) : List Finding :=
  g.calls.flatMap fun c => (c.arguments.filter fun a => !a.isWellFormed).map fun a =>
    let state := if a.valueId.isSome then "both" else "neither"
    ⟨[c.id], s!"Call {c.id} arg {a.position} has {state} value_id and value_expr", none⟩

end CallGraph

def Check.find (g : CallGraph) : Check → Except Symbol.LongLine (List Finding)
  | .parameterDuplicates => .ok g.findParameterDuplicates
  | .localDuplicates => g.findLocalDuplicates
  | .receivers => .ok g.findOrphanedReceivers
  | .argumentValues => .ok g.findOrphanedArguments
  | .sourceCalls => .ok g.findOrphanedSourceCalls
  | .sourceValues => .ok g.findOrphanedSourceValues
  | .results => .ok g.findMissingResults
  | .resultTypes => .ok g.findTypeMismatches
  | .argumentForms => .ok g.findMalformedArguments

/-- The checks that are asked of a graph. -/
structure IntegrityContract where
  graph : CallGraph
  enabled : List Check

namespace IntegrityContract

def ofGraph (g : CallGraph) : IntegrityContract :=
  ⟨g, []⟩

def enable (a : IntegrityContract) (c : Check) : IntegrityContract :=
  { a with enabled := a.enabled.insert c }

def enableNamed (a : IntegrityContract) (name : String) : Except Failure IntegrityContract :=
  match Check.ofName? name with
  | some c => .ok (a.enable c)
  | none =>
    .error (.internal s!"no integrity check named {Text.quoted name}" [("check", .text name)])

def allChecks (a : IntegrityContract) : IntegrityContract :=
  { a with enabled := Check.all }

def run (a : IntegrityContract) (c : Check) : Except Symbol.LongLine CheckResult :=
  if a.enabled.contains c then (c.find a.graph).map (⟨c, true, ·⟩) else .ok ⟨c, false, []⟩

def runAll (a : IntegrityContract) : List Check → Except Symbol.LongLine (List CheckResult)
  | [] => .ok []
  | c :: cs => do
    let r ← a.run c
    let rs ← runAll a cs
    pure (r :: rs)

def findings (a : IntegrityContract) : Except Symbol.LongLine IntegrityReport :=
  (a.runAll Check.all).map IntegrityReport.mk

def logger : String :=
  "callcontract.assertions.integrity"

def reportEvent (a : IntegrityContract) (r : IntegrityReport) : Event :=
  ⟨logger, .info, "integrity_report",
    [("source", .text a.graph.source), ("checks", .nat a.enabled.length),
      ("violated", .texts r.violatedChecks), ("total_issues", .nat r.totalIssues)]⟩

def report (a : IntegrityContract) : Logged IntegrityReport :=
  (Logged.ofExcept (a.findings.mapError fun l => .argument l.message)).tell fun r =>
    [a.reportEvent r]

def verify (a : IntegrityContract) : Logged IntegrityReport :=
  a.report.bind fun r =>
    .ofExcept (if r.hasIssues then .error (.failure (.integrity r.summary r.record)) else .ok r)

end IntegrityContract

end GraphContracts
