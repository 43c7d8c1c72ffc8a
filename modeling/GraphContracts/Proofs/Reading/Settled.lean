import GraphContracts.Graph.Document
import Mathlib.Tactic.Tauto

namespace GraphContracts.Schema

namespace Checked

variable {α β : Type} {p q : Prop} {x : Checked α} {f : Checked (α → β)}

/-- Reading comes to a record or to at least one issue, and it is aborted exactly where it is
stuck. -/
inductive SettledUnless (stuck : Prop) : Checked α → Prop
  | valid (a : α) : ¬stuck → SettledUnless stuck (.valid a)
  | invalid (i : Issue) (issues : List Issue) :
    ¬stuck → SettledUnless stuck (.invalid (i :: issues))
  | aborted : stuck → SettledUnless stuck (.aborted .unhashable)

/-- Reading always comes to a record or to issues. -/
abbrev Settled (x : Checked α) : Prop :=
  x.SettledUnless False

theorem SettledUnless.congr (h : x.SettledUnless p) (hpq : p ↔ q) : x.SettledUnless q :=
  propext hpq ▸ h

@[simp] theorem settled_valid (a : α) : (valid a).Settled :=
  .valid a not_false

@[simp] theorem settled_issue (cause : Cause) (d : Datum) : (issue cause d : Checked α).Settled :=
  .invalid _ _ not_false

theorem SettledUnless.map (h : x.SettledUnless p) (f : α → β) : (f <$> x).SettledUnless p := by
  cases h with
  | valid a hp => exact .valid (f a) hp
  | invalid i issues hp => exact .invalid i issues hp
  | aborted hp => exact .aborted hp

theorem SettledUnless.seq (hf : f.SettledUnless p) (hx : x.SettledUnless q) :
    (f <*> x).SettledUnless (p ∨ q) := by
  cases hf with
  | valid g hp =>
    cases hx with
    | valid a hq => exact .valid (g a) (by tauto)
    | invalid j js hq => exact .invalid j js (by tauto)
    | aborted hq => exact .aborted (.inr hq)
  | invalid i is hp =>
    cases hx with
    | valid a hq => exact .invalid i is (by tauto)
    | invalid j js hq => exact .invalid i (is ++ j :: js) (by tauto)
    | aborted hq => exact .aborted (.inr hq)
  | aborted hp => exact .aborted (.inl hp)

@[simp] theorem settled_map (h : x.Settled) (f : α → β) : (f <$> x).Settled :=
  h.map f

theorem settled_seq (hf : f.Settled) (hx : x.Settled) : (f <*> x).Settled :=
  (hf.seq hx).congr (or_self_iff)

theorem SettledUnless.within (h : x.SettledUnless p) (step : String) :
    (x.within step).SettledUnless p := by
  cases h with
  | valid a hp => exact .valid a hp
  | invalid i issues hp => exact .invalid (i.within step) (issues.map (·.within step)) hp
  | aborted hp => exact .aborted hp

theorem SettledUnless.andThen {f : α → Checked β} (h : x.SettledUnless p)
    (hf : ∀ a, (f a).Settled) : (x.andThen f).SettledUnless p := by
  cases h with
  | valid a hp => exact (hf a).congr (iff_of_false not_false hp)
  | invalid i issues hp => exact .invalid i issues hp
  | aborted hp => exact .aborted hp

theorem settledUnless_collect {read : Datum → Checked α} {stuck : Datum → Prop} {ds : List Datum}
    (h : ∀ d ∈ ds, (read d).SettledUnless (stuck d)) (n : Nat) :
    (collect read n ds).SettledUnless (∃ d ∈ ds, stuck d) := by
  induction ds generalizing n with
  | nil => exact .valid [] (by simp)
  | cons d ds ih =>
    have hd := (h d List.mem_cons_self).within (toString n)
    have hds := ih (fun e he ↦ h e (List.mem_cons_of_mem _ he)) (n + 1)
    exact ((hd.map List.cons).seq hds).congr (by simp)

end Checked

theorem spelled?_pair (name other : String) (es : Entries) :
    (spelled? [name, other] es).map Prod.snd = (es.get? name).or (es.get? other) := by
  cases h : es.get? name <;> cases h' : es.get? other <;> simp [spelled?, h, h']

theorem spelled?_single (name : String) (es : Entries) :
    (spelled? [name] es).map Prod.snd = es.get? name := by
  cases h : es.get? name <;> simp [spelled?, h]

variable {α : Type} {read : Datum → Checked α} {stuck : Datum → Prop}

@[simp] theorem settled_text (d : Datum) : (text d).Settled := by
  fun_cases text d <;> simp

@[simp] theorem settled_integer (d : Datum) : (integer d).Settled := by
  fun_cases integer d <;> simp

@[simp] theorem settled_boolean (d : Datum) : (boolean d).Settled := by
  fun_cases boolean d <;> simp

@[simp] theorem settled_choice (cause : List String → Cause) (options : List (String × α))
    (d : Datum) : (choice cause options d).Settled := by
  unfold choice
  split
  · split
    · exact Checked.settled_valid _
    · exact Checked.settled_issue _ _
  · exact Checked.settled_issue _ _

@[simp] theorem settled_nullable (h : ∀ d, (read d).Settled) (d : Datum) :
    (nullable read d).Settled := by
  cases d with
  | null => exact Checked.settled_valid _
  | _ => exact (h _).map some

@[simp] theorem settled_required (h : ∀ d, (read d).Settled) (name : String) (es : Entries) :
    (required name read es).Settled := by
  unfold required
  split
  · exact (h _).within name
  · exact .invalid _ _ not_false

theorem settledUnless_withDefault (h : ∀ d, (read d).SettledUnless (stuck d)) (names : List String)
    (default : α) (es : Entries) : (withDefault names default read es).SettledUnless
      (∃ name d, spelled? names es = some (name, d) ∧ stuck d) := by
  unfold withDefault
  split
  · rename_i name d hd
    refine ((h d).within name).congr ⟨fun hs ↦ ⟨name, d, hd, hs⟩, ?_⟩
    rintro ⟨name', d', hd', hs⟩
    obtain ⟨rfl, rfl⟩ := Prod.mk.inj (Option.some.inj (hd.symm.trans hd'))
    exact hs
  · rename_i hd
    exact .valid default (by simp [hd])

@[simp] theorem settled_withDefault (h : ∀ d, (read d).Settled) (names : List String) (default : α)
    (es : Entries) : (withDefault names default read es).Settled :=
  (settledUnless_withDefault h names default es).congr (by simp)

@[simp] theorem settled_optionalField (h : ∀ d, (read d).Settled) (names : List String)
    (es : Entries) : (optionalField names read es).Settled :=
  settled_withDefault (settled_nullable h) names none es

@[simp] theorem settled_optionalText (names : List String) (es : Entries) :
    (optionalText names es).Settled :=
  settled_optionalField settled_text names es

theorem settledUnless_record {read : Entries → Checked α} {stuck : Entries → Prop}
    (h : ∀ es, (read es).SettledUnless (stuck es)) (name : String) (d : Datum) :
    (record name read d).SettledUnless (∃ es, d = .map es ∧ stuck es) := by
  cases d with
  | map es => exact (h es).congr (by simp)
  | _ => exact (Checked.settled_issue _ _).congr (by simp)

@[simp] theorem settled_record {read : Entries → Checked α} (h : ∀ es, (read es).Settled)
    (name : String) (d : Datum) : (record name read d).Settled :=
  (settledUnless_record h name d).congr (by simp)

/-- The items that a list is read from; other values have none. -/
def listItems : Datum → List Datum
  | .list ds => ds
  | .tuple ds => ds
  | .set ds => ds
  | _ => []

theorem settledUnless_items (h : ∀ d, (read d).SettledUnless (stuck d)) (cause : Cause)
    (d : Datum) : (items cause read d).SettledUnless (∃ item ∈ listItems d, stuck item) := by
  cases d with
  | list ds => exact Checked.settledUnless_collect (fun e _ ↦ h e) 0
  | tuple ds => exact Checked.settledUnless_collect (fun e _ ↦ h e) 0
  | set ds => exact Checked.settledUnless_collect (fun e _ ↦ h e) 0
  | _ => exact (Checked.settled_issue _ _).congr (by simp [listItems])

@[simp] theorem settled_items (h : ∀ d, (read d).Settled) (cause : Cause) (d : Datum) :
    (items cause read d).Settled :=
  (settledUnless_items h cause d).congr (by simp)

end GraphContracts.Schema
