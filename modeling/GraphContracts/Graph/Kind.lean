import GraphContracts.Schema.Scalar

namespace GraphContracts

inductive ValueKind where
  | parameter
  | localVariable
  | literal
  | constant
  | result
  | access
  | accessNullsafe
  deriving DecidableEq, Repr

/-- The coarse grouping of calls. -/
inductive KindType where
  | invocation
  | access
  | operator
  deriving DecidableEq, Repr

inductive Stability where
  | stable
  | experimental
  | deprecated
  deriving DecidableEq, Repr

inductive CallKind where
  | method
  | methodStatic
  | methodNullsafe
  | function
  | construction
  | access
  | accessStatic
  | accessNullsafe
  | accessArray
  | coalesce
  | ternary
  | ternaryFull
  | matching
  deriving DecidableEq, Repr

def memberNamed {α : Type} (listName : String) (ofName? : String → Option α) (d : Datum) :
    Except String α :=
  let found := match d with
    | .text s => ofName? s
    | _ => none
  match found with
  | some a => .ok a
  | none => .error s!"{d.literal} is not a valid {listName}"

namespace ValueKind

def name : ValueKind → String
  | .parameter => "parameter"
  | .localVariable => "local"
  | .literal => "literal"
  | .constant => "constant"
  | .result => "result"
  | .access => "access"
  | .accessNullsafe => "access_nullsafe"

def all : List ValueKind :=
  [.parameter, .localVariable, .literal, .constant, .result, .access, .accessNullsafe]

def options : List (String × ValueKind) :=
  all.map fun k => (k.name, k)

def ofName? (s : String) : Option ValueKind :=
  all.find? fun k => k.name = s

def ofDatum : Datum → Except String ValueKind :=
  memberNamed "ValueKind" ofName?

theorem ofName?_name (k : ValueKind) : ofName? k.name = some k := by
  cases k <;> decide

def defaultKindType : ValueKind → String
  | .access => "access"
  | .accessNullsafe => "access"
  | _ => "value"

def isVariable (k : ValueKind) : Bool :=
  k = .parameter || k = .localVariable

end ValueKind

namespace KindType

def name : KindType → String
  | .invocation => "invocation"
  | .access => "access"
  | .operator => "operator"

def all : List KindType :=
  [.invocation, .access, .operator]

def options : List (String × KindType) :=
  all.map fun k => (k.name, k)

def ofName? (s : String) : Option KindType :=
  all.find? fun k => k.name = s

def ofDatum : Datum → Except String KindType :=
  memberNamed "KindType" ofName?

end KindType

namespace Stability

def name : Stability → String
  | .stable => "stable"
  | .experimental => "experimental"
  | .deprecated => "deprecated"

def all : List Stability :=
  [.stable, .experimental, .deprecated]

def options : List (String × Stability) :=
  all.map fun k => (k.name, k)

def ofName? (s : String) : Option Stability :=
  all.find? fun k => k.name = s

def ofDatum : Datum → Except String Stability :=
  memberNamed "Stability" ofName?

end Stability

namespace CallKind

def name : CallKind → String
  | .method => "method"
  | .methodStatic => "method_static"
  | .methodNullsafe => "method_nullsafe"
  | .function => "function"
  | .construction => "constructor"
  | .access => "access"
  | .accessStatic => "access_static"
  | .accessNullsafe => "access_nullsafe"
  | .accessArray => "access_array"
  | .coalesce => "coalesce"
  | .ternary => "ternary"
  | .ternaryFull => "ternary_full"
  | .matching => "match"

def all : List CallKind :=
  [.method, .methodStatic, .methodNullsafe, .function, .construction, .access, .accessStatic,
    .accessNullsafe, .accessArray, .coalesce, .ternary, .ternaryFull, .matching]

def options : List (String × CallKind) :=
  all.map fun k => (k.name, k)

def ofName? (s : String) : Option CallKind :=
  all.find? fun k => k.name = s

def ofDatum : Datum → Except String CallKind :=
  memberNamed "CallKind" ofName?

theorem ofName?_name (k : CallKind) : ofName? k.name = some k := by
  cases k <;> decide

def kindType : CallKind → KindType
  | .method | .methodStatic | .methodNullsafe | .function | .construction => .invocation
  | .access | .accessStatic | .accessNullsafe | .accessArray => .access
  | .coalesce | .ternary | .ternaryFull | .matching => .operator

def stability : CallKind → Stability
  | .access | .method | .construction | .accessStatic | .methodStatic => .stable
  | .accessNullsafe | .methodNullsafe => .deprecated
  | _ => .experimental

end CallKind

end GraphContracts
