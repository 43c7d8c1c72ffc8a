import GraphContracts.Failure

namespace GraphContracts.Expect

def describeFilters (labels : List String) : String :=
  if labels.isEmpty then "none" else Text.joinWith ", " labels

def violation (labels : List String) (message : String) (details : List (String × Datum)) :
    Failure :=
  .violation s!"{message}. Filters applied: {describeFilters labels}"
    (("filters", .texts labels) :: details)

variable {α : Type}

def one (noun : String) (labels : List String) : List α → Except Failure α
  | [a] => .ok a
  | as =>
    .error (violation labels s!"Expected exactly 1 {noun}, found {as.length}"
      [("count", .nat as.length)])

def count (noun : String) (labels : List String) (expected : Int) (found : Nat) :
    Except Failure Unit :=
  if (found : Int) = expected then .ok ()
  else
    .error (violation labels s!"Expected {expected} {noun}(s), found {found}"
      [("count", .nat found), ("expected", .int expected)])

def atLeastOne (noun : String) (labels : List String) (found : Bool) : Except Failure Unit :=
  if found then .ok ()
  else .error (violation labels s!"Expected at least 1 {noun}, found none" [("count", .nat 0)])

def noneFound (noun : String) (labels : List String) (found : Nat) : Except Failure Unit :=
  if found = 0 then .ok ()
  else
    .error (violation labels s!"Expected no {noun}, found {found}" [("count", .nat found)])

theorem one_eq_ok {noun : String} {labels : List String} {as : List α} {a : α} :
    one noun labels as = .ok a ↔ as = [a] := by
  match as with
  | [] => simp [one]
  | [b] => simp [one]
  | b :: c :: ds => simp [one]

end GraphContracts.Expect
