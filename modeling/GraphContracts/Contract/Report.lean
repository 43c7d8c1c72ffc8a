import GraphContracts.Event

namespace GraphContracts

inductive Check where
  | parameterDuplicates
  | localDuplicates
  | receivers
  | argumentValues
  | sourceCalls
  | sourceValues
  | results
  | resultTypes
  | argumentForms
  deriving DecidableEq, Repr

namespace Check

def all : List Check :=
  [.parameterDuplicates, .localDuplicates, .receivers, .argumentValues, .sourceCalls,
    .sourceValues, .results, .resultTypes, .argumentForms]

theorem mem_all (c : Check) : c ∈ all := by
  cases c <;> decide

def name : Check → String
  | .parameterDuplicates => "no_parameter_duplicates"
  | .localDuplicates => "no_local_duplicates_per_line"
  | .receivers => "all_receiver_value_ids_exist"
  | .argumentValues => "all_argument_value_ids_exist"
  | .sourceCalls => "all_source_call_ids_exist"
  | .sourceValues => "all_source_value_ids_exist"
  | .results => "every_call_has_result_value"
  | .resultTypes => "result_value_types_match"
  | .argumentForms => "arguments_well_formed"

def label : Check → String
  | .parameterDuplicates => "duplicate parameter symbols"
  | .localDuplicates => "duplicate local symbols"
  | .receivers => "orphaned receiver_value_id"
  | .argumentValues => "orphaned argument value_id"
  | .sourceCalls => "orphaned source_call_id"
  | .sourceValues => "orphaned source_value_id"
  | .results => "missing result values"
  | .resultTypes => "type mismatches"
  | .argumentForms => "malformed arguments"

def ofName? (s : String) : Option Check :=
  all.find? fun c => c.name = s

theorem ofName?_name (c : Check) : ofName? c.name = some c := by
  cases c <;> decide

end Check

/-- One finding: the nodes it is about, and the id that leads nowhere, where there is one. -/
structure Finding where
  ids : List String
  message : String
  missingId : Option String
  deriving DecidableEq, Repr

def Finding.record (f : Finding) : Datum :=
  .object ([("ids", .texts f.ids), ("message", .text f.message)] ++
    (f.missingId.toList.map fun id => ("missing_id", .text id)))

structure CheckResult where
  check : Check
  enabled : Bool
  findings : List Finding
  deriving DecidableEq, Repr

namespace CheckResult

def count (r : CheckResult) : Nat :=
  r.findings.length

def passed (r : CheckResult) : Bool :=
  r.findings.isEmpty

/-- Every id named by a finding, once, in the order in which they come first. -/
def offendingIds (r : CheckResult) : List String :=
  (r.findings.flatMap Finding.ids).eraseDups

def record (r : CheckResult) : Datum :=
  .object [("enabled", .bool r.enabled), ("count", .nat r.count),
    ("violations", .list (r.findings.map Finding.record))]

end CheckResult

structure IntegrityReport where
  checks : List CheckResult
  deriving DecidableEq, Repr

namespace IntegrityReport

def get? (r : IntegrityReport) (name : String) : Option CheckResult :=
  r.checks.find? fun c => c.check.name = name

def violatedChecks (r : IntegrityReport) : List String :=
  (r.checks.filter fun c => !c.passed).map fun c => c.check.name

def enabledChecks (r : IntegrityReport) : List String :=
  (r.checks.filter CheckResult.enabled).map fun c => c.check.name

def hasIssues (r : IntegrityReport) : Bool :=
  r.checks.any fun c => !c.passed

def totalIssues (r : IntegrityReport) : Nat :=
  (r.checks.flatMap CheckResult.findings).length

def issues (r : IntegrityReport) : List String :=
  r.checks.flatMap fun c => c.findings.map Finding.message

def summary (r : IntegrityReport) : String :=
  let parts := (r.checks.filter fun c => !c.passed).map fun c => s!"{c.count} {c.check.label}"
  if parts.isEmpty then "No issues found" else Text.joinWith ", " parts

def fields (r : IntegrityReport) : List (String × Datum) :=
  [("has_issues", .bool r.hasIssues), ("total_issues", .nat r.totalIssues),
    ("summary", .text r.summary),
    ("checks", .object (r.checks.map fun c => (c.check.name, c.record)))]

def record (r : IntegrityReport) : Datum :=
  .object r.fields

end IntegrityReport

end GraphContracts
