import GraphContracts.Script.Argument

namespace GraphContracts.Script

def scopeStep (s : MethodScope) (name : String) (args : List Arg) : Logged Object :=
  match name with
  | "store" => yield (.store s.graph)
  | "class_name" => yield (.text s.className)
  | "method_name" => yield (.text s.methodName)
  | "scope_pattern" => yield (.text s.pattern)
  | "label" => yield (.text s.label)
  | "calls" => yield (.calls s.calls)
  | "values" => yield (.values s.values)
  | "parameter" => ask args fun n => yield (.values (s.parameter n))
  | "local" => ask args fun n => yield (.values (s.localVariable n))
  | "encloses" =>
    match args with
    | [a] => lift ((optTextArg a).map fun t => .bool (s.encloses t))
    | _ => .ofExcept (.error .keyword)
  | _ => unknownStep

def dataStep (d : ContractData) (name : String) (args : List Arg) : Logged Object :=
  match name with
  | "calls_store" => yield (.store d.graph)
  | "has_symbol_index" => yield (.bool d.hasSymbolIndex)
  | "symbol_index" => yield (.opt .indexStore d.index)
  | "scip" => liftFailure (d.requireIndex.map .index)
  | "require_symbol_index" => lift (d.indexOrSkip.map .index)
  | "values" => yield (.values d.graph.valueQuery)
  | "calls" => yield (.calls d.graph.callQuery)
  | "in_method" => askTwo args fun c m => yield (.scope (d.inMethod c m))
  | "assert_reference_consistency" => yield (.reference (.ofGraph d.graph))
  | "assert_chain" => yield (.chain (.ofGraph d.graph))
  | "assert_argument" => yield (.binding (.ofGraph d.graph))
  | "assert_integrity" => yield (.integrity (.ofGraph d.graph))
  | "integrity_report" => d.integrityReport.bind fun r => yield (.report r)
  | _ => unknownStep

def bindingStep (a : BindingContract) (name : String) (args : List Arg) : Logged Object :=
  match name with
  | "store" => yield (.store a.graph)
  | "in_method" => askTwo args fun c m => yield (.binding (a.inMethod c m))
  | "at_call" => ask args fun s => yield (.binding (a.atCall s))
  | "at_line" => askInt args fun n => yield (.binding (a.atLine n))
  | "position" => askInt args fun n => yield (.binding (a.position n))
  | "points_to_local" => ask args fun s => yield (.binding (a.pointsToLocal s))
  | "points_to_parameter" => ask args fun s => yield (.binding (a.pointsToParameter s))
  | "points_to_literal" => yield (.binding a.pointsToLiteral)
  | "points_to_result_of" => askTwo args fun k p => yield (.binding (a.pointsToResultOf k p))
  | "verify" => lift ((a.verify.mapError BindingFault.toFault).map .value)
  | _ => fromFields (plainFields (bindingFields a)) name

def endKindStep (a : ChainContract) : List Arg → Logged Object
  | [.plain d] =>
    lift (((ValueKind.ofDatum d).map fun k => .chain (a.endingAtKind k)).mapError .argument)
  | _ => .ofExcept (.error .keyword)

def chainStep (a : ChainContract) (name : String) (args : List Arg) : Logged Object :=
  match name with
  | "store" => yield (.store a.graph)
  | "starting_at" => ask args fun s => yield (.chain (a.startingAt s))
  | "ending_at_kind" => endKindStep a args
  | "with_length" => askInt args fun n => yield (.chain (a.withLength n))
  | "starting_from" =>
    match args with
    | [c, m, v] =>
      .bind (.ofExcept (textArg c)) fun c => .bind (.ofExcept (textArg m)) fun m =>
        .bind (.ofExcept (textArg v)) fun v => yield (.chain (a.startingFrom c m v))
    | _ => .ofExcept (.error .keyword)
  | "through_access" => ask args fun s => yield (.chain (a.throughAccess s))
  | "through_method" => ask args fun s => yield (.chain (a.throughMethod s))
  | "verify" => lift ((a.verify.mapError ChainFault.toFault).map .chainResult)
  | _ => fromFields (plainFields (chainFields a)) name

def referenceStep (a : ReferenceContract) (name : String) (args : List Arg) : Logged Object :=
  match name with
  | "store" => yield (.store a.graph)
  | "in_method" => askTwo args fun c m => yield (.reference (a.inMethod c m))
  | "for_parameter" => ask args fun s => yield (.reference (a.forParameter s))
  | "for_local" => ask args fun s => yield (.reference (a.forLocal s))
  | "declared_at" => askInt args fun n => yield (.reference (a.declaredAt n))
  | "verify" => lift ((a.verify.mapError ReferenceFault.toFault).map .verification)
  | _ => fromFields (plainFields (referenceFields a)) name

def findStep (a : IntegrityContract) (name : String) : Except Fault Object :=
  match Check.ofName? name with
  | none => .error (.missingKey name)
  | some c =>
    ((c.find a.graph).mapError fun l => .argument l.message).map fun fs =>
      .plain (.list (fs.map Finding.record))

def integrityStep (a : IntegrityContract) (name : String) (args : List Arg) : Logged Object :=
  match name with
  | "store" => yield (.store a.graph)
  | "all_checks" => yield (.integrity a.allChecks)
  | "with" => ask args fun s => liftFailure ((a.enableNamed s).map .integrity)
  | "find" => ask args fun s => lift (findStep a s)
  | "report" => a.report.bind fun r => yield (.report r)
  | "verify" => a.verify.bind fun r => yield (.report r)
  | "enabled" => fromFields (plainFields (integrityFields a)) name
  | _ =>
    match Check.ofName? name with
    | some c => yield (.integrity (a.enable c))
    | none => unknownStep

def reportEntry (r : IntegrityReport) (name : String) : Except Fault CheckResult :=
  match r.get? name with
  | some c => .ok c
  | none => .error (.missingKey name)

def reportStep (r : IntegrityReport) (name : String) (args : List Arg) : Logged Object :=
  match name with
  | "checks" => yield (.many (r.checks.map .check))
  | "count" => ask args fun s => lift ((reportEntry r s).map fun c => .nat c.count)
  | "violated_checks" => yield (.texts r.violatedChecks)
  | "enabled_checks" => yield (.texts r.enabledChecks)
  | "has_issues" => yield (.bool r.hasIssues)
  | "total_issues" => yield (.nat r.totalIssues)
  | "issues" => yield (.texts r.issues)
  | "summary" => yield (.text r.summary)
  | "to_dict" => yield (.plain r.record)
  | _ => unknownStep

def chainResultStep (c : Chain) (name : String) (args : List Arg) : Logged Object :=
  match name with
  | "steps" => yield (.many (c.steps.map .step))
  | "root_value" => yield (.value c.root)
  | "final_value" => yield (.value c.final)
  | "step_count" => yield (.nat c.stepCount)
  | "final_type" => yield (.optText c.finalType)
  | "call_steps" => yield (.many (c.callSteps.map .call))
  | "value_steps" => yield (.many (c.valueSteps.map .value))
  | "get_step" => askInt args fun n => yield (.opt .step (c.getStep n))
  | "describe" => yield (.text c.describe)
  | _ => unknownStep

def rolesStep (s : RoleSchema) (name : String) (args : List Arg) : Logged Object :=
  match name with
  | "definition_bit" => yield (.int s.definitionBit)
  | "is_definition" => askInt args fun n => yield (.bool (s.isDefinition n))
  | "is_reference" => askInt args fun n => yield (.bool (s.isReference n))
  | "names" => askInt args fun n => yield (.texts (s.names n))
  | "bit" => ask args fun n => lift (((s.bit n).map .int).mapError .argument)
  | _ => fromFields (plainFields (entriesOf s.record)) name

def pathStep (args : List Arg) (path : Path → Option (Option Path)) : Logged Object :=
  ask args fun root =>
    match path (.ofString root) with
    | some p => yield (.opt (fun p => .text (toString p)) p)
    | none => .ofExcept (.error (.aborted .noHome))

def dataConfigStep (c : DataConfig) (home : Path) (name : String) (args : List Arg) :
    Logged Object :=
  match name with
  | "calls_path" => pathStep args fun root => (c.callsPath home root).map some
  | "scip_path" => pathStep args (c.indexPath home)
  | _ => fromFields (plainFields (entriesOf c.record)) name

end GraphContracts.Script
