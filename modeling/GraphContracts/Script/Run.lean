import GraphContracts.Script.Perform

namespace GraphContracts.Script

inductive Operand where
  | value (d : Datum)
  | register (i : Int)

structure Step where
  name : String
  target : Option Int
  operands : List Operand

/-- An object with the number of the step that made it, which tells it from its like. -/
structure Held where
  maker : Nat
  object : Object

/-- A register holds nothing after a step that failed or yielded nothing. -/
abbrev Register := Option Held

structure Machine where
  registers : List Register
  current : Nat
  events : List Event
  answers : List Datum

namespace Machine

def start (o : Object) (events : List Event) : Machine :=
  ⟨[some ⟨0, o⟩], 0, events, []⟩

def register? (m : Machine) (i : Int) : Register :=
  if i < 0 then none else (m.registers[i.toNat]?).join

def operand? (m : Machine) : Operand → Register
  | .value d => some ⟨0, .plain d⟩
  | .register i => m.register? i

/-- Whether two registers hold the same object: one made by the same step, or one that the loaded
data has only once. -/
def isSame (a b : Held) : Bool :=
  a.maker = b.maker ||
    match a.object, b.object with
    | .store _, .store _ => true
    | .indexStore _, .indexStore _ => true
    | .data _, .data _ => true
    | .plain _, .plain _ => false
    | o, p => o.equals p

def keepsTarget (name : String) : Bool :=
  ["assert_count", "assert_exists", "assert_empty", "assert_all_share_receiver"].contains name

def push (m : Machine) (r : Register) (answer : Datum) (events : List Event) : Machine :=
  let here := m.registers.length
  let goesOn := r.any fun held => held.object.isChainable
  ⟨m.registers ++ [r], if goesOn then here else m.current, m.events ++ events,
    m.answers ++ [answer]⟩

def yielded (step : Step) (target : Held) (args : List Held) : Logged Object :=
  match step.name, args with
  | "same", [other] => .pure (.bool (isSame target other))
  | name, _ => perform target.object name (args.map Held.object)

/-- Carries out a step. Without a target or an argument to work on it answers so. -/
def run (m : Machine) (step : Step) : Machine :=
  let args := step.operands.map m.operand?
  match m.register? (step.target.getD m.current), args.all Option.isSome with
  | some target, true =>
    let done := yielded step target (args.filterMap id)
    match done.result with
    | .error e => m.push none e.record done.events
    | .ok o =>
      let maker := if keepsTarget step.name then target.maker else m.registers.length
      match o.shown with
      | .error e => m.push none e.record done.events
      | .ok answer => m.push (if o.isNull then none else some ⟨maker, o⟩) answer done.events
  | _, _ => m.push none (.object [("error", .text "NoTarget")]) []

end Machine

def runAll (o : Object) (events : List Event) (steps : List Step) : Machine :=
  steps.foldl Machine.run (.start o events)

end GraphContracts.Script
