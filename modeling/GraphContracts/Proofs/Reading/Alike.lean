import GraphContracts.Schema.Record
import GraphContracts.Proofs.Reading.Settled
import Mathlib.Data.List.Forall2

namespace GraphContracts.Schema

variable {α β : Type}

namespace Checked

inductive Alike : Checked α → Checked α → Prop
  | valid (a : α) : Alike (.valid a) (.valid a)
  | invalid (issues issues' : List Issue) : Alike (.invalid issues) (.invalid issues')
  | aborted (cause : Abort) : Alike (.aborted cause) (.aborted cause)

variable {x x' x'' : Checked α}

@[refl] theorem Alike.refl (x : Checked α) : x.Alike x := by
  cases x <;> constructor

theorem Alike.of_eq (h : x = x') : x.Alike x' :=
  h ▸ .refl x

theorem Alike.symm (h : x.Alike x') : x'.Alike x := by
  cases h <;> constructor

theorem Alike.trans (h : x.Alike x') (h' : x'.Alike x'') : x.Alike x'' := by
  cases h <;> cases h' <;> constructor

theorem Alike.eq_valid_iff (h : x.Alike x') {a : α} : x = .valid a ↔ x' = .valid a := by
  cases h <;> simp

theorem Alike.exists_invalid_iff (h : x.Alike x') :
    (∃ issues, x = .invalid issues) ↔ ∃ issues, x' = .invalid issues := by
  cases h <;> simp

theorem Alike.map (h : x.Alike x') (f : α → β) : (f <$> x).Alike (f <$> x') := by
  cases h <;> constructor

theorem Alike.seq {f f' : Checked (α → β)} (hf : f.Alike f') (hx : x.Alike x') :
    (f <*> x).Alike (f' <*> x') := by
  cases hf <;> cases hx <;> constructor

theorem Alike.within (h : x.Alike x') (step step' : String) :
    (x.within step).Alike (x'.within step') := by
  cases h <;> constructor

theorem Alike.andThen {f f' : α → Checked β} (h : x.Alike x') (hf : ∀ a, (f a).Alike (f' a)) :
    (x.andThen f).Alike (x'.andThen f') := by
  cases h with
  | valid a => exact hf a
  | invalid issues issues' => exact .invalid issues issues'
  | aborted cause => exact .aborted cause

theorem alike_collect {read : Datum → Checked α} {ds ds' : List Datum}
    (h : List.Forall₂ (fun d d' ↦ (read d).Alike (read d')) ds ds') (n : Nat) :
    (collect read n ds).Alike (collect read n ds') := by
  induction h generalizing n with
  | nil => exact .refl _
  | cons hd _ ih => exact ((hd.within _ _).map List.cons).seq (ih (n + 1))

end Checked

open Checked

variable {read read' : Datum → Checked α} {es es' : Entries} {names : List String}

theorem alike_required {name : String} (h : es'.get? name = es.get? name) :
    (required name read es).Alike (required name read es') := by
  unfold required
  rw [h]
  cases es.get? name with
  | none => exact .invalid _ _
  | some d => exact .refl _

theorem withDefault_of_get? {name : String} {default : α} {d : Datum} (h : es.get? name = some d) :
    withDefault [name] default read es = (read d).within name := by
  simp [withDefault, spelled?, h]

theorem withDefault_congr {name : String} (h : es'.get? name = es.get? name) (default : α) :
    withDefault [name] default read es' = withDefault [name] default read es := by
  simp only [withDefault, spelled?, List.findSome?_cons, List.findSome?_nil, h]

theorem alike_of_kept {name : String} (h : es'.get? name = es.get? name) (default : α) :
    (withDefault [name] default read es).Alike (withDefault [name] default read es') :=
  .of_eq (withDefault_congr h default).symm

/-- A field is read alike from the same value, whatever its spelling. -/
theorem alike_withDefault (default : α)
    (h : (spelled? names es').map Prod.snd = (spelled? names es).map Prod.snd) :
    (withDefault names default read es).Alike (withDefault names default read es') := by
  unfold withDefault
  cases hes : spelled? names es with
  | none =>
    have hes' : spelled? names es' = none := by simpa [hes] using h
    rw [hes']
  | some p =>
    rw [hes, Option.map_some] at h
    obtain ⟨⟨other, d⟩, hother, rfl : d = p.2⟩ := Option.map_eq_some_iff.1 h
    rw [hother]
    exact (Alike.refl _).within _ _

theorem alike_optionalField {name other : String}
    (h : (es'.get? name).or (es'.get? other) = (es.get? name).or (es.get? other)) :
    (optionalField [name, other] read es).Alike (optionalField [name, other] read es') :=
  alike_withDefault none (by rw [spelled?_pair, spelled?_pair, h])

end GraphContracts.Schema
