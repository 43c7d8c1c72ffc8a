import GraphContracts.Schema.Issue

namespace GraphContracts.Schema

/-- The questions without an answer: looking up a list or a mapping among names, and the home of a
user who is not known. -/
inductive Abort where
  | unhashable
  | noHome
  deriving DecidableEq, Repr

inductive Checked (α : Type) where
  | valid (a : α)
  | invalid (issues : List Issue)
  | aborted (cause : Abort)
  deriving Repr

namespace Checked

variable {α β : Type}

def issue (cause : Cause) (input : Datum) : Checked α :=
  .invalid [⟨[], cause, input⟩]

def map (f : α → β) : Checked α → Checked β
  | .valid a => .valid (f a)
  | .invalid is => .invalid is
  | .aborted c => .aborted c

def seq (f : Checked (α → β)) (x : Checked α) : Checked β :=
  match f, x with
  | .aborted c, _ => .aborted c
  | _, .aborted c => .aborted c
  | .valid f, .valid a => .valid (f a)
  | .valid _, .invalid js => .invalid js
  | .invalid is, .valid _ => .invalid is
  | .invalid is, .invalid js => .invalid (is ++ js)

instance : Functor Checked where
  map := map

instance : Seq Checked where
  seq f x := seq f (x ())

instance : Pure Checked where
  pure := .valid

def andThen (x : Checked α) (f : α → Checked β) : Checked β :=
  match x with
  | .valid a => f a
  | .invalid is => .invalid is
  | .aborted c => .aborted c

/-- The issues of a part take the step that leads to the part. -/
def within (step : String) : Checked α → Checked α
  | .invalid is => .invalid (is.map (·.within step))
  | x => x

def collect (read : Datum → Checked α) (n : Nat) : List Datum → Checked (List α)
  | [] => .valid []
  | d :: ds => (map List.cons ((read d).within (toString n))).seq (collect read (n + 1) ds)

@[simp]
theorem seq_eq_valid {f : Checked (α → β)} {x : Checked α} {b : β} :
    f.seq x = .valid b ↔ ∃ g a, f = .valid g ∧ x = .valid a ∧ g a = b := by
  cases f <;> cases x <;> simp [seq]

@[simp]
theorem map_eq_valid {f : α → β} {x : Checked α} {b : β} :
    map f x = .valid b ↔ ∃ a, x = .valid a ∧ f a = b := by
  cases x <;> simp [map]

@[simp]
theorem within_eq_valid {step : String} {x : Checked α} {a : α} :
    x.within step = .valid a ↔ x = .valid a := by
  cases x <;> simp [within]

@[simp]
theorem andThen_eq_valid {x : Checked α} {f : α → Checked β} {b : β} :
    x.andThen f = .valid b ↔ ∃ a, x = .valid a ∧ f a = .valid b := by
  cases x <;> simp [andThen]

theorem collect_eq_valid {read : Datum → Checked α} {n : Nat} {ds : List Datum} {as : List α} :
    collect read n ds = .valid as ↔ ds.map read = as.map .valid := by
  induction ds generalizing n as with
  | nil => cases as <;> simp [collect]
  | cons d ds ih =>
    cases as with
    | nil => simp [collect]
    | cons a as =>
      simp only [collect, seq_eq_valid, map_eq_valid, within_eq_valid, ih, List.map_cons,
        List.cons.injEq]
      constructor
      · rintro ⟨g, bs, ⟨b, hb, rfl⟩, hbs, h⟩
        simp only [List.cons.injEq] at h
        exact ⟨h.1 ▸ hb, h.2 ▸ hbs⟩
      · rintro ⟨ha, has⟩
        exact ⟨_, as, ⟨a, ha, rfl⟩, has, rfl⟩

end Checked

end GraphContracts.Schema
