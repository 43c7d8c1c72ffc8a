import GraphContracts.Graph.Query

namespace GraphContracts

inductive ChainStep where
  | value (v : Value)
  | call (c : Call)
  deriving DecidableEq, Repr

namespace ChainStep

def describe : ChainStep → String
  | .value v => v.describe
  | .call c => c.describe

def value? : ChainStep → Option Value
  | .value v => some v
  | .call _ => none

def call? : ChainStep → Option Call
  | .value _ => none
  | .call c => some c

def trace (steps : List ChainStep) : String :=
  Text.joinWith " -> " (steps.map describe)

end ChainStep

structure Chain where
  steps : List ChainStep
  root : Value
  final : Value
  stepCount : Nat
  deriving DecidableEq, Repr

namespace Chain

def finalType (c : Chain) : Option String :=
  c.final.type

def callSteps (c : Chain) : List Call :=
  c.steps.filterMap ChainStep.call?

def valueSteps (c : Chain) : List Value :=
  c.steps.filterMap ChainStep.value?

def getStep (c : Chain) (index : Int) : Option ChainStep :=
  if index < 0 then none else c.steps[index.toNat]?

def describe (c : Chain) : String :=
  ChainStep.trace c.steps

end Chain

inductive ChainViolation where
  | noStart (id : String)
  | danglingSourceValue (value : Value) (missing : String)
  | danglingSourceCall (value : Value) (missing : String)
  | brokenBackLink (value : Value) (call : Call) (result : Option Value)
  | danglingReceiver (call : Call) (missing : String)
  | loop (start again : Value)
  | noVariable (name label : String)
  | noHop (kind : CallKind) (name : String) (receiver : Value) (label : String)
    (soFar : List ChainStep)
  | noResult (call : Call) (kind : CallKind) (name : String)
  | notAResult (call : Call) (found : Value)
  | wrongEnd (expected : ValueKind) (chain : Chain)
  | wrongLength (expected : Int) (chain : Chain)
  deriving DecidableEq, Repr

namespace ChainViolation

def message : ChainViolation → String
  | .noStart id => s!"Chain start value {id} does not exist"
  | .danglingSourceValue v missing =>
    s!"Dangling source_value_id: value {v.id} references non-existent value {missing}"
  | .danglingSourceCall v missing =>
    s!"Dangling source_call_id: value {v.id} references non-existent call {missing}"
  | .brokenBackLink v c result =>
    let found := (result.map Value.id).getD "missing"
    s!"Broken back-link: value {v.id} claims call {c.id} as its source, " ++
      s!"but the call's result is {found}"
  | .danglingReceiver c missing =>
    s!"Dangling receiver_value_id: call {c.id} references non-existent value {missing}"
  | .loop start again => s!"Chain from {start.id} loops back to value {again.id}"
  | .noVariable name label => s!"Could not find starting value for {name} in {label}"
  | .noHop kind name receiver label soFar =>
    let trace := ChainStep.trace soFar
    s!"Could not find {kind.name} call to \x22{name}\x22 with " ++
      s!"receiver_value_id={receiver.id} in {label}. Chain trace so far: {trace}"
  | .noResult c kind name =>
    s!"Could not find result value for call id={c.id} ({kind.name} to {name})"
  | .notAResult c found =>
    s!"Expected result value for call id={c.id}, got kind={found.kind.name}"
  | .wrongEnd expected chain =>
    s!"Chain from {chain.final.id} ends at {chain.root.describe}, " ++
      s!"expected kind {expected.name}. Chain: {chain.describe}"
  | .wrongLength expected chain =>
    s!"Chain has {chain.stepCount} call steps, expected {expected}. Chain: {chain.describe}"

def details : ChainViolation → List (String × Datum)
  | .noStart id => [("value_id", .text id)]
  | .danglingSourceValue v missing => [("value_id", .text v.id), ("missing_id", .text missing)]
  | .danglingSourceCall v missing => [("value_id", .text v.id), ("missing_id", .text missing)]
  | .brokenBackLink v c _ => [("value_id", .text v.id), ("call_id", .text c.id)]
  | .danglingReceiver c missing => [("call_id", .text c.id), ("missing_id", .text missing)]
  | .loop _ again => [("value_id", .text again.id)]
  | .noVariable name label => [("scope", .text label), ("variable", .text name)]
  | .noHop _ name receiver _ _ =>
    [("receiver_value_id", .text receiver.id), ("hop", .text name)]
  | .noResult c _ _ => [("call_id", .text c.id)]
  | .notAResult c found => [("call_id", .text c.id), ("value_id", .text found.id)]
  | .wrongEnd _ chain => [("root_value_id", .text chain.root.id)]
  | .wrongLength _ chain => [("step_count", .nat chain.stepCount)]

def failure (v : ChainViolation) : Failure :=
  .violation v.message v.details

end ChainViolation

/-- What a value is traced back to: the call that was followed and the value found behind. -/
structure BackStep where
  call : Option Call
  next : Option Value
  deriving DecidableEq, Repr

namespace CallGraph

def sourceValue (g : CallGraph) (v : Value) : Except ChainViolation (Option Value) :=
  match v.sourceValueId with
  | none => .ok none
  | some id =>
    match g.getValue id with
    | some source => .ok (some source)
    | none => .error (.danglingSourceValue v id)

/-- The call that a value came out of. -/
def sourceCall (g : CallGraph) (v : Value) : Except ChainViolation (Option Call) :=
  match v.sourceCallId with
  | none => .ok none
  | some id =>
    match g.getCall id with
    | some call => .ok (some call)
    | none => .error (.danglingSourceCall v id)

/-- From a value to the receiver of the call that produced it; the call has to name the value as
its result. -/
def throughCall (g : CallGraph) (v : Value) (c : Call) : Except ChainViolation BackStep :=
  let result := g.resultOf c
  if result.map Value.id = some v.id then
    match c.receiverValueId with
    | none => .ok ⟨some c, none⟩
    | some id =>
      match g.getValue id with
      | some receiver => .ok ⟨some c, some receiver⟩
      | none => .error (.danglingReceiver c id)
  else .error (.brokenBackLink v c result)

/-- One step back from a value. Both links have to lead somewhere, though only one is followed. -/
def stepBack (g : CallGraph) (v : Value) : Except ChainViolation BackStep := do
  let source ← g.sourceValue v
  let call ← g.sourceCall v
  match source, call with
  | some s, _ => pure ⟨none, some s⟩
  | none, some c => g.throughCall v c
  | none, none => pure ⟨none, none⟩

def BackStep.before (b : BackStep) (steps : List ChainStep) : List ChainStep :=
  match b.call with
  | some c => .call c :: steps
  | none => steps

/-- Walks back from `current` to the root. `seen` holds the ids of the values walked through and
`steps` what was found so far, up to the start. The walk ends within as many steps as there are
values, because it never comes to a value twice. -/
def walkBack (g : CallGraph) (start : Value) :
    (fuel : Nat) → (seen : List String) → (steps : List ChainStep) → (current : Value) →
      Except ChainViolation (List ChainStep × Value)
  | 0, _, _, current => .error (.loop start current)
  | fuel + 1, seen, steps, current => do
    let back ← g.stepBack current
    let steps := BackStep.before back steps
    match back.next with
    | none => pure (steps, current)
    | some v =>
      if seen.contains v.id then .error (.loop start v)
      else walkBack g start fuel (v.id :: seen) (.value v :: steps) v

def chainTo (g : CallGraph) (id : String) : Except ChainViolation Chain :=
  match g.getValue id with
  | none => .error (.noStart id)
  | some start => do
    let (steps, root) ← g.walkBack start g.valuesById.length [start.id] [.value start] start
    pure ⟨steps, root, start, (steps.filterMap ChainStep.call?).length⟩

end CallGraph

/-- One hop of a forward chain: the kind of the call and a part of the name of its callee. -/
abbrev Hop := CallKind × String

namespace MethodScope

def hopCall (s : MethodScope) (receiver : Value) (h : Hop) : Option Call :=
  (((s.calls.withReceiver receiver.id).kind h.1.name).calleeContains h.2).first

def stepForward (s : MethodScope) (steps : List ChainStep) (current : Value) (h : Hop) :
    Except ChainViolation (Call × Value) :=
  match s.hopCall current h with
  | none => .error (.noHop h.1 h.2 current s.label steps)
  | some c =>
    match s.graph.resultOf c with
    | none => .error (.noResult c h.1 h.2)
    | some v => if v.kind = .result then .ok (c, v) else .error (.notAResult c v)

def walkForward (s : MethodScope) : (steps : List ChainStep) → (current : Value) → List Hop →
    Except ChainViolation (List ChainStep × Value)
  | steps, current, [] => .ok (steps, current)
  | steps, current, h :: hs => do
    let (c, v) ← s.stepForward steps current h
    walkForward s (steps ++ [.call c, .value v]) v hs

/-- The value that a variable starts from. The object itself has no declaration: it is taken to be
the receiver of the first access. -/
def startOf (s : MethodScope) (name : String) : Option Value :=
  if name = "$this" then
    ((s.calls.kind CallKind.access.name).hasReceiver.first.bind Call.receiverValueId).bind
      s.graph.getValue
  else (s.parameter name).first.or (s.localVariable name).first

def chainFrom (s : MethodScope) (name : String) (hops : List Hop) :
    Except ChainViolation Chain :=
  match s.startOf name with
  | none => .error (.noVariable name s.label)
  | some start => do
    let (steps, final) ← s.walkForward [.value start] start hops
    pure ⟨steps, start, final, hops.length⟩

end MethodScope

structure ChainContract where
  graph : CallGraph
  startValueId : Option String
  endKind : Option ValueKind
  length : Option Int
  className : Option String
  methodName : Option String
  startVariable : Option String
  hops : List Hop

inductive ChainFault where
  | noHops
  | noStart
  | violated (v : ChainViolation)
  deriving DecidableEq, Repr

def ChainFault.toFault : ChainFault → Fault
  | .noHops => .argument "Must add at least one step with through_access() or through_method()"
  | .noStart => .argument "Must call starting_at() or starting_from() before verify()"
  | .violated v => .failure v.failure

namespace ChainContract

def ofGraph (g : CallGraph) : ChainContract :=
  ⟨g, none, none, none, none, none, none, []⟩

def startingAt (a : ChainContract) (id : String) : ChainContract :=
  { a with startValueId := some id, startVariable := none, hops := [] }

def endingAtKind (a : ChainContract) (kind : ValueKind) : ChainContract :=
  { a with endKind := some kind }

def withLength (a : ChainContract) (calls : Int) : ChainContract :=
  { a with length := some calls }

def startingFrom (a : ChainContract) (className methodName name : String) :
    ChainContract :=
  { a with
    className := some (Symbol.bareClass className), methodName := some methodName,
    startVariable := some name, startValueId := none }

def throughAccess (a : ChainContract) (property : String) : ChainContract :=
  { a with hops := a.hops ++ [(.access, property)] }

def throughMethod (a : ChainContract) (name : String) : ChainContract :=
  { a with hops := a.hops ++ [(.method, name)] }

def scope (a : ChainContract) : MethodScope :=
  .ofNames a.graph (a.className.getD "") (a.methodName.getD "")

def walk (a : ChainContract) : Except ChainFault Chain :=
  match a.startValueId, a.startVariable with
  | some id, _ => (a.graph.chainTo id).mapError .violated
  | none, some name =>
    if a.hops.isEmpty then .error .noHops
    else (a.scope.chainFrom name a.hops).mapError .violated
  | none, none => .error .noStart

def brokenEnd? (a : ChainContract) (c : Chain) : Option ChainViolation :=
  match a.endKind.filter fun k => c.root.kind ≠ k,
    a.length.filter fun n => (c.stepCount : Int) ≠ n with
  | some kind, _ => some (.wrongEnd kind c)
  | none, some length => some (.wrongLength length c)
  | none, none => none

def verify (a : ChainContract) : Except ChainFault Chain := do
  let chain ← a.walk
  match a.brokenEnd? chain with
  | some v => .error (.violated v)
  | none => pure chain

end ChainContract

end GraphContracts
