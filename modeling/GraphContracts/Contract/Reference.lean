import GraphContracts.Contract.Groups
import GraphContracts.Graph.Query

namespace GraphContracts

structure Subject where
  kind : ValueKind
  name : String
  label : String
  deriving DecidableEq, Repr

def Subject.describe (s : Subject) : String :=
  s!"{s.kind.name} {s.name} in {s.label}"

/-- Where a call holds a value: as the receiver, or as the argument at a position. -/
inductive Slot where
  | receiver
  | argument (position : Int)
  deriving DecidableEq, Repr

namespace Slot

def name : Slot → String
  | .receiver => "receiver"
  | .argument p => s!"argument {p}"

def title : Slot → String
  | .receiver => "Receiver"
  | .argument p => s!"Argument {p}"

end Slot

def Call.slots (c : Call) : List (Slot × String) :=
  (c.receiverValueId.toList.map fun id => (.receiver, id)) ++
    c.arguments.filterMap fun a => a.valueId.map fun id => (.argument a.position, id)

inductive ReferenceViolation where
  | undeclared (subject : Subject) (pattern : String)
  | notSingle (subject : Subject) (ids : List String)
  | sharedLine (subject : Subject) (line : Option Int) (ids : List String)
  | foreign (subject : Subject) (call : Call) (slot : Slot) (other : Value)
    (declared : List String)
  | unbound (subject : Subject) (call : Call) (position : Int)
  deriving DecidableEq, Repr

namespace ReferenceViolation

def message : ReferenceViolation → String
  | .undeclared s pattern => s!"No value entry found for {s.describe}. Symbol pattern: {pattern}"
  | .notSingle s ids =>
    let listed := Text.joinWith ", " ids
    s!"Expected exactly 1 value entry for {s.describe}, found {ids.length} (ids: {listed})"
  | .sharedLine s line ids =>
    let listed := Text.joinWith ", " ids
    let at_ := (line.map toString).getD "None"
    s!"Expected exactly 1 value entry for {s.describe} at line {at_}, " ++
      s!"found {ids.length} (ids: {listed})"
  | .foreign s c slot other declared =>
    let listed := Text.joinWith ", " declared
    let home := other.scope.getD "None"
    s!"{slot.title} of {c.describe} in {s.label} references {other.id}, declared in {home}, " ++
      s!"instead of {s.describe} ({listed})"
  | .unbound s c position =>
    s!"Argument {position} of {c.describe} in {s.label} uses {s.name} as an unbound " ++
      "expression instead of referencing its value"

def details : ReferenceViolation → List (String × Datum)
  | .undeclared s _ => [("scope", .text s.label), ("variable", .text s.name)]
  | .notSingle _ ids => [("ids", .texts ids)]
  | .sharedLine _ line ids => [("ids", .texts ids), ("line", .optional .int line)]
  | .foreign _ c slot other declared =>
    [("call_id", .text c.id), ("slot", .text slot.name), ("expected", .texts declared),
      ("actual", .text other.id)]
  | .unbound _ c position => [("call_id", .text c.id), ("position", .int position)]

def failure (v : ReferenceViolation) : Failure :=
  .violation v.message v.details

end ReferenceViolation

structure ReferenceVerification where
  valueId : String
  valueCount : Nat
  referenceCount : Nat
  message : String
  deriving DecidableEq, Repr

structure ReferenceContract where
  graph : CallGraph
  className : Option String
  methodName : Option String
  variableName : Option String
  variableKind : ValueKind
  line : Option Int

inductive ReferenceFault where
  | noMethod
  | noVariable
  | longLine (l : Symbol.LongLine)
  | violated (v : ReferenceViolation)
  deriving DecidableEq, Repr

def ReferenceFault.toFault : ReferenceFault → Fault
  | .noMethod => .argument "Must call in_method() before verify()"
  | .noVariable => .argument "Must call for_parameter() or for_local() before verify()"
  | .longLine l => .argument l.message
  | .violated v => .failure v.failure

namespace ReferenceContract

def ofGraph (g : CallGraph) : ReferenceContract :=
  ⟨g, none, none, none, .parameter, none⟩

def inMethod (a : ReferenceContract) (className methodName : String) : ReferenceContract :=
  { a with className := some (Symbol.bareClass className), methodName := some methodName }

def forParameter (a : ReferenceContract) (name : String) : ReferenceContract :=
  { a with variableName := some (Symbol.normalizeVariable name), variableKind := .parameter }

def forLocal (a : ReferenceContract) (name : String) : ReferenceContract :=
  { a with variableName := some (Symbol.normalizeVariable name), variableKind := .localVariable }

def declaredAt (a : ReferenceContract) (line : Int) : ReferenceContract :=
  { a with line := some line }

def fragment (kind : ValueKind) (s : MethodScope) (name : String) : String :=
  if kind = .parameter then Symbol.parameterFragment s.pattern name
  else Symbol.localFragment s.pattern name

def isDeclaration (s : MethodScope) (kind : ValueKind) (name : String) (v : Value) : Bool :=
  v.kind = kind && v.symbol.any (Text.contains (fragment kind s name)) && s.encloses v.symbol &&
    v.name = some (Symbol.normalizeVariable name)

def withLines : List Value → Except Symbol.LongLine (List (Option Int × Value))
  | [] => .ok []
  | v :: vs =>
    match v.declarationLine with
    | .error e => .error e
    | .ok line => (withLines vs).map ((line, v) :: ·)

/-- The declarations of the variable, by line and then in the order of the document. A value
without a line comes as if it had line zero. -/
def declarations (a : ReferenceContract) (s : MethodScope) (name : String) :
    Except Symbol.LongLine (List (Option Int × Value)) :=
  (withLines (a.graph.values.filter (isDeclaration s a.variableKind name))).map fun found =>
    let chosen := found.filter fun d => a.line.all fun line => d.1 = some line
    chosen.mergeSort fun x y => x.1.getD 0 ≤ y.1.getD 0

/-- One value for a parameter or for a given line; otherwise one value for each line. -/
def checkSingle (a : ReferenceContract) (subject : Subject)
    (declared : List (Option Int × Value)) : Except ReferenceViolation Unit :=
  let ids := declared.map fun (line, v) => (line, v.id)
  if a.variableKind = .parameter || a.line.isSome then
    if ids.length = 1 then .ok () else .error (.notSingle subject (ids.map Prod.snd))
  else
    match (repeatedKeys ids).head? with
    | none => .ok ()
    | some (line, shared) => .error (.sharedLine subject line shared)

/-- Whether a value is the variable of the same name in another method. -/
def isForeign (s : MethodScope) (subject : Subject) (v : Value) : Bool :=
  v.kind = subject.kind && v.name = some subject.name && v.symbol.isSome && !s.encloses v.symbol

def foreignSlot? (s : MethodScope) (subject : Subject) (declared : List String) (c : Call) :
    Option (Slot × Value) :=
  (c.slots.filter fun (_, id) => !declared.contains id).findSome? fun (slot, id) =>
    ((s.graph.getValue id).filter (isForeign s subject)).map (slot, ·)

/-- The first argument of a call that spells the variable out without referring to its value. -/
def unboundArgument? (subject : Subject) (c : Call) : Option Argument :=
  c.arguments.find? fun a => a.valueId.isNone && a.valueExpr = some subject.name

def misuse? (s : MethodScope) (subject : Subject) (declared : List String) (c : Call) :
    Option ReferenceViolation :=
  match foreignSlot? s subject declared c, unboundArgument? subject c with
  | some (slot, other), _ =>
    some (.foreign subject c slot other (declared.eraseDups.mergeSort fun x y => x ≤ y))
  | none, some a => some (.unbound subject c a.position)
  | none, none => none

/-- The number of slots in calls that hold one of these ids. -/
def countReferences (ids : List String) (calls : List Call) : Nat :=
  ((calls.flatMap Call.slots).filter fun (_, id) => ids.contains id).length

def verifyIn (a : ReferenceContract) (s : MethodScope) (name : String) :
    Except ReferenceFault ReferenceVerification := do
  let subject : Subject := ⟨a.variableKind, name, s.label⟩
  let declared ← (a.declarations s name).mapError .longLine
  match declared with
  | [] => .error (.violated (.undeclared subject (fragment a.variableKind s name)))
  | (_, first) :: _ =>
    (a.checkSingle subject declared).mapError .violated
    let ids := declared.map fun (_, v) => v.id
    match s.calls.all.findSome? (misuse? s subject ids) with
    | some v => .error (.violated v)
    | none =>
      let count := countReferences ids s.calls.all
      pure ⟨first.id, declared.length, count,
        s!"Reference consistency verified for {subject.describe}: {declared.length} value " ++
          s!"entry (id={first.id}), {count} references"⟩

def verify (a : ReferenceContract) : Except ReferenceFault ReferenceVerification :=
  match a.className, a.methodName, a.variableName with
  | some className, some methodName, some name =>
    a.verifyIn (.ofNames a.graph className methodName) name
  | some _, some _, none => .error .noVariable
  | _, _, _ => .error .noMethod

end ReferenceContract

end GraphContracts
