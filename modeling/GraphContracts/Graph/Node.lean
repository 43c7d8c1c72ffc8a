import GraphContracts.Graph.Kind
import GraphContracts.Symbol.Name

namespace GraphContracts

/-- A place in a source file; lines count from one. -/
structure Location where
  file : String
  line : Int
  col : Int
  deriving DecidableEq, Repr

structure Value where
  id : String
  kind : ValueKind
  kindType : Option String
  symbol : Option String
  type : Option String
  expr : Option String
  sourceCallId : Option String
  sourceValueId : Option String
  location : Option Location
  declaredName : Option String
  deriving DecidableEq, Repr

/-- What a call passes at one position: a value, or an expression without a value of its own. -/
structure Argument where
  position : Int
  parameter : Option String
  valueId : Option String
  valueExpr : Option String
  deriving DecidableEq, Repr

structure Call where
  id : String
  kind : CallKind
  kindType : Option KindType
  caller : String
  callee : Option String
  returnType : Option String
  receiverValueId : Option String
  resultValueId : Option String
  location : Option Location
  arguments : List Argument
  deriving DecidableEq, Repr

def nonEmpty (s : Option String) : Option String :=
  s.filter fun t => t ≠ ""

theorem nonEmpty_eq_some {s : Option String} {t : String} :
    nonEmpty s = some t ↔ s = some t ∧ t ≠ "" := by
  cases s with
  | none => simp [nonEmpty]
  | some u =>
    simp only [nonEmpty, Option.filter_some, decide_eq_true_eq]
    by_cases h : u = ""
    · simp only [h, ne_eq, not_true_eq_false, if_false, Option.some.injEq]
      exact ⟨nofun, fun ⟨e, ne⟩ => absurd e.symm ne⟩
    · simp only [ne_eq, h, not_false_eq_true, if_true, Option.some.injEq]
      exact ⟨fun e => ⟨e, e ▸ h⟩, fun e => e.1⟩

namespace Value

/-- The variable that a value stands for: the declared name, or the one in its symbol. -/
def name (v : Value) : Option String :=
  match nonEmpty v.declaredName with
  | some n => some (Symbol.normalizeVariable n)
  | none => Symbol.variableName v.symbol

def scope (v : Value) : Option String :=
  Symbol.scope v.symbol

def file (v : Value) : Option String :=
  v.location.map Location.file

def line (v : Value) : Option Int :=
  v.location.map Location.line

/-- The line of the declaration: the one in the symbol, or where there is none the line of the
value itself. -/
def declarationLine (v : Value) : Except Symbol.LongLine (Option Int) :=
  match Symbol.declarationLine v.symbol with
  | .error e => .error e
  | .ok (some n) => .ok (some n)
  | .ok none => .ok v.line

def label? (v : Value) : Option String :=
  (nonEmpty v.name).or ((nonEmpty v.expr).or (nonEmpty v.symbol))

def describe (v : Value) : String :=
  let label := v.label?.getD "?"
  s!"value({v.kind.name}, id={v.id}, {label})"

end Value

namespace Argument

def isBound (a : Argument) : Bool :=
  a.valueId.isSome

/-- Whether exactly one of a value and an expression is given. -/
def isWellFormed (a : Argument) : Bool :=
  a.valueId.isSome != (nonEmpty a.valueExpr).isSome

end Argument

namespace Call

def scope (c : Call) : Option String :=
  Symbol.scope (some c.caller)

def file (c : Call) : Option String :=
  c.location.map Location.file

def line (c : Call) : Option Int :=
  c.location.map Location.line

def argumentAt (c : Call) (position : Int) : Option Argument :=
  c.arguments.find? fun a => a.position = position

def positions (c : Call) : List Int :=
  c.arguments.map Argument.position

def calleeLabel (c : Call) : String :=
  (nonEmpty c.callee).getD "?"

def describe (c : Call) : String :=
  s!"call({c.kind.name}, id={c.id}, callee={c.calleeLabel})"

theorem argumentAt_eq_none {c : Call} {p : Int} : c.argumentAt p = none ↔ p ∉ c.positions := by
  simp [argumentAt, positions]

end Call

end GraphContracts
