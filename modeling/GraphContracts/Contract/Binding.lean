import GraphContracts.Graph.Query

namespace GraphContracts

def shown (s : Option String) : String :=
  s.getD "None"

inductive BindingReason where
  | noCall (callee : Option String) (line : Option Int)
  | noArguments
  | noPosition (available : List Int)
  | noValueId (expr : Option String)
  | noValue (id : String)
  | otherKind (value : Value) (expected : ValueKind)
  | otherName (value : Value) (kind : ValueKind) (expected : String)
  | noSource (value : Value)
  | otherSourceKind (value : Value) (source : Call) (expected : String)
  | otherCallee (value : Value) (source : Call) (expected : String)
  deriving DecidableEq, Repr

/-- An argument that is not bound as expected, with the method, the call that was found and the
position that was asked for. -/
structure BindingViolation where
  label : String
  call : Option Call
  position : Int
  reason : BindingReason
  deriving DecidableEq, Repr

namespace BindingReason

def message (label : String) (position : Int) : BindingReason → String
  | .noCall callee line =>
    let parts := [s!"could not find call in {label}"] ++
      (callee.toList.map fun c => s!"callee containing \x22{c}\x22") ++
      (line.toList.map fun n => s!"at line {n}")
    Text.joinWith " with " parts
  | .noArguments => s!"call has no arguments, expected one at position {position}"
  | .noPosition available =>
    let listed := Text.joinWith ", " (available.map toString)
    s!"no argument at position {position}. Available positions: {listed}"
  | .noValueId expr =>
    s!"argument at position {position} has no value_id (value_expr={Datum.textLiteral expr})"
  | .noValue id => s!"argument value_id {id} does not exist in values"
  | .otherKind v expected =>
    let known := ((nonEmpty v.name).or (nonEmpty v.expr)).or v.symbol
    s!"argument at position {position} points to {v.kind.name} value " ++
      s!"(id={v.id}, {shown known}), expected {expected.name}"
  | .otherName v kind expected =>
    s!"argument at position {position} points to {kind.name} {shown v.name} " ++
      s!"(symbol {Datum.textLiteral v.symbol}), expected {expected}"
  | .noSource v =>
    s!"result value {v.id} has no resolvable source call " ++
      s!"(source_call_id={shown v.sourceCallId})"
  | .otherSourceKind _ source expected =>
    s!"source call kind mismatch: expected {expected}, " ++
      s!"got {source.kind.name} ({source.describe})"
  | .otherCallee _ source expected =>
    s!"source call callee \x22{shown source.callee}\x22 does not contain " ++
      s!"expected pattern \x22{expected}\x22"

def details : BindingReason → List (String × Datum)
  | .otherKind v _ => [("value_id", .text v.id), ("actual_kind", .text v.kind.name)]
  | .otherName v _ _ => [("value_id", .text v.id), ("actual_name", .optional .text v.name)]
  | .noSource v => [("value_id", .text v.id)]
  | .otherSourceKind v _ _ => [("value_id", .text v.id)]
  | .otherCallee v _ _ => [("value_id", .text v.id)]
  | _ => []

end BindingReason

namespace BindingViolation

def place (v : BindingViolation) : String :=
  match v.call with
  | some c => s!"{v.label}, {c.describe}"
  | none => v.label

def failure (v : BindingViolation) : Failure :=
  .violation
    (s!"Argument binding failed in {v.place}, position {v.position}: " ++
      v.reason.message v.label v.position)
    ([("scope", .text v.label), ("call_id", .optional .text (v.call.map Call.id)),
      ("position", .int v.position)] ++ v.reason.details)

end BindingViolation

/-- A binding as it is described before it is verified. -/
structure BindingContract where
  graph : CallGraph
  className : Option String
  methodName : Option String
  callee : Option String
  line : Option Int
  argumentPosition : Option Int
  expectedKind : Option ValueKind
  expectedName : Option String
  resultKind : Option String
  resultCallee : Option String

inductive BindingGap where
  | method
  | call
  | position
  | expectation
  deriving DecidableEq, Repr

def BindingGap.message : BindingGap → String
  | .method => "Must call in_method() before verify()"
  | .call => "Must call at_call() or at_line() before verify()"
  | .position => "Must call position() before verify()"
  | .expectation =>
    "Must call points_to_parameter(), points_to_local(), points_to_literal() " ++
      "or points_to_result_of() before verify()"

inductive BindingFault where
  | incomplete (gap : BindingGap)
  | violated (v : BindingViolation)
  deriving DecidableEq, Repr

def BindingFault.toFault : BindingFault → Fault
  | .incomplete gap => .argument gap.message
  | .violated v => .failure v.failure

/-- Whether a callee contains a text, or matches it where it asks to be read as a pattern. -/
def calleeFits (pattern callee : String) : Bool :=
  if Text.isGlob pattern then Text.globMatches pattern (some callee)
  else Text.contains pattern callee

namespace BindingContract

def ofGraph (g : CallGraph) : BindingContract :=
  ⟨g, none, none, none, none, none, none, none, none, none⟩

def inMethod (a : BindingContract) (className methodName : String) : BindingContract :=
  { a with className := some (Symbol.bareClass className), methodName := some methodName }

def atCall (a : BindingContract) (calleePart : String) : BindingContract :=
  { a with callee := some calleePart }

def atLine (a : BindingContract) (line : Int) : BindingContract :=
  { a with line := some line }

def position (a : BindingContract) (position : Int) : BindingContract :=
  { a with argumentPosition := some position }

/-- A new expectation; nothing of an earlier one is left. -/
def expect (a : BindingContract) (kind : ValueKind) (name : Option String) : BindingContract :=
  { a with
    expectedKind := some kind, expectedName := name, resultKind := none, resultCallee := none }

def pointsToLocal (a : BindingContract) (name : String) : BindingContract :=
  a.expect .localVariable (some (Symbol.normalizeVariable name))

def pointsToParameter (a : BindingContract) (name : String) : BindingContract :=
  a.expect .parameter (some (Symbol.normalizeVariable name))

def pointsToLiteral (a : BindingContract) : BindingContract :=
  a.expect .literal none

/-- The argument is the result of a call of this kind; the callee contains the text or matches it
as a pattern. -/
def pointsToResultOf (a : BindingContract) (kind calleePart : String) : BindingContract :=
  let expecting := a.expect .result none
  { expecting with resultKind := some kind, resultCallee := some calleePart }

def findCall (a : BindingContract) (s : MethodScope) : Option Call :=
  let byCallee := match a.callee with
    | some part => s.calls.calleeContains part
    | none => s.calls
  let byLine := match a.line with
    | some line => byCallee.atLine line
    | none => byCallee
  byLine.first

def boundValue (g : CallGraph) (c : Call) (position : Int) : Except BindingReason Value :=
  if c.arguments.isEmpty then .error .noArguments
  else
    match c.argumentAt position with
    | none => .error (.noPosition c.positions)
    | some argument =>
      match argument.valueId with
      | none => .error (.noValueId argument.valueExpr)
      | some id =>
        match g.getValue id with
        | none => .error (.noValue id)
        | some v => .ok v

def checkSource (a : BindingContract) (v : Value) : Except BindingReason Unit :=
  match a.resultCallee with
  | none => .ok ()
  | some pattern =>
    match a.graph.sourceCallOf v with
    | none => .error (.noSource v)
    | some source =>
      match a.resultKind.filter fun k => source.kind.name ≠ k with
      | some kind => .error (.otherSourceKind v source kind)
      | none =>
        if calleeFits pattern (source.callee.getD "") then .ok ()
        else .error (.otherCallee v source pattern)

def checkValue (a : BindingContract) (v : Value) (expected : ValueKind) :
    Except BindingReason Unit :=
  if v.kind ≠ expected then .error (.otherKind v expected)
  else
    match a.expectedName.filter fun n => v.name ≠ some n with
    | some name => .error (.otherName v expected name)
    | none => if expected = .result then a.checkSource v else .ok ()

def verifyIn (a : BindingContract) (s : MethodScope) (position : Int) (expected : ValueKind) :
    Except BindingViolation Value :=
  match a.findCall s with
  | none => .error ⟨s.label, none, position, .noCall a.callee a.line⟩
  | some c =>
    (do
      let v ← boundValue a.graph c position
      a.checkValue v expected
      pure v).mapError fun reason => ⟨s.label, some c, position, reason⟩

def verify (a : BindingContract) : Except BindingFault Value :=
  match a.className, a.methodName with
  | some className, some methodName =>
    if a.callee.isNone && a.line.isNone then .error (.incomplete .call)
    else
      match a.argumentPosition, a.expectedKind with
      | none, _ => .error (.incomplete .position)
      | _, none => .error (.incomplete .expectation)
      | some position, some expected =>
        (a.verifyIn (.ofNames a.graph className methodName) position expected).mapError .violated
  | _, _ => .error (.incomplete .method)

end BindingContract

end GraphContracts
