import Mathlib.Logic.Function.Basic
import Mathlib.Data.List.Forall2

namespace GraphContracts

variable {ε ε' α β : Type}

theorem bind_eq_ok_iff {x : Except ε α} {f : α → Except ε β} {b : β} :
    x >>= f = .ok b ↔ ∃ a, x = .ok a ∧ f a = .ok b := by
  cases x with
  | error e => exact ⟨nofun, fun ⟨_, h, _⟩ ↦ nomatch h⟩
  | ok a => exact ⟨fun h ↦ ⟨a, rfl, h⟩, fun ⟨_, h, hf⟩ ↦ Except.ok.inj h ▸ hf⟩

theorem bind_eq_error_iff {x : Except ε α} {f : α → Except ε β} {e : ε} :
    x >>= f = .error e ↔ x = .error e ∨ ∃ a, x = .ok a ∧ f a = .error e := by
  cases x with
  | error e' => simp [bind, Except.bind]
  | ok a => simp [bind, Except.bind]

theorem map_eq_ok_iff {x : Except ε α} {f : α → β} {b : β} :
    x.map f = .ok b ↔ ∃ a, x = .ok a ∧ f a = b := by
  cases x <;> simp [Except.map]

theorem map_eq_error_iff {x : Except ε α} {f : α → β} {e : ε} :
    x.map f = .error e ↔ x = .error e := by
  cases x <;> simp [Except.map]

theorem mapError_eq_ok_iff {x : Except ε α} {f : ε → ε'} {a : α} :
    x.mapError f = .ok a ↔ x = .ok a := by
  cases x with
  | error e => exact ⟨nofun, nofun⟩
  | ok b => exact ⟨fun h ↦ congrArg _ (Except.ok.inj h), fun h ↦ congrArg _ (Except.ok.inj h)⟩

theorem mapError_eq_error_iff {x : Except ε α} {f : ε → ε'} {e' : ε'} :
    x.mapError f = .error e' ↔ ∃ e, x = .error e ∧ f e = e' := by
  cases x with
  | error e => simp [Except.mapError]
  | ok a => simp [Except.mapError]

theorem toOption_eq_some_iff {x : Except ε α} {a : α} : x.toOption = some a ↔ x = .ok a := by
  cases x <;> simp [Except.toOption]

/-- Two computations that fail together and otherwise agree in what is asked of their results. -/
theorem toOption_map_eq {x : Except ε α} {y : Except ε' α} {f : α → β}
    (herror : (∃ e, x = .error e) ↔ ∃ e, y = .error e)
    (hok : ∀ a b, x = .ok a → y = .ok b → f a = f b) : x.toOption.map f = y.toOption.map f := by
  cases x with
  | error e =>
    obtain ⟨e', rfl⟩ := herror.1 ⟨e, rfl⟩
    rfl
  | ok a =>
    cases y with
    | error e' =>
      obtain ⟨e, he⟩ := herror.2 ⟨e', rfl⟩
      cases he
    | ok b => exact congrArg some (hok a b rfl rfl)

theorem not_exists_ok_iff {x : Except ε α} : (¬∃ a, x = .ok a) ↔ ∃ e, x = .error e := by
  cases x <;> simp

theorem injective_of_readBack {f : α → β} {read : β → Option α} (h : ∀ a, read (f a) = some a) :
    Function.Injective f := by
  intro a b hab
  have ha := h a
  rw [hab, h b] at ha
  exact (Option.some.inj ha).symm

theorem mapM_eq_ok_iff {f : α → Except ε β} {as : List α} {bs : List β} :
    as.mapM f = .ok bs ↔ List.Forall₂ (fun a b ↦ f a = .ok b) as bs := by
  induction as generalizing bs with
  | nil => simp [pure, Except.pure, eq_comm]
  | cons a as ih =>
    rw [List.mapM_cons, bind_eq_ok_iff, List.forall₂_cons_left_iff]
    simp only [bind_eq_ok_iff, ih, pure, Except.pure, Except.ok.injEq]
    constructor
    · rintro ⟨b, hb, bs', hbs, rfl⟩
      exact ⟨b, bs', hb, hbs, rfl⟩
    · rintro ⟨b, bs', hb, hbs, rfl⟩
      exact ⟨b, hb, bs', hbs, rfl⟩

theorem forall_mem_of_forall₂ {holds : α → β → Prop} {p : β → Prop} {as : List α} {bs : List β}
    (h : List.Forall₂ holds as bs) (hp : ∀ a b, holds a b → p b) : ∀ b ∈ bs, p b := by
  induction h with
  | nil => simp
  | cons hab _ ih => exact List.forall_mem_cons.2 ⟨hp _ _ hab, ih⟩

theorem map_eq_map_of_forall₂ {γ δ : Type} {holds : α → β → Prop} {holds' : α → γ → Prop}
    {f : β → δ} {f' : γ → δ} {as : List α} {bs : List β} {cs : List γ}
    (h : List.Forall₂ holds as bs) (h' : List.Forall₂ holds' as cs)
    (hf : ∀ a b c, holds a b → holds' a c → f b = f' c) : bs.map f = cs.map f' := by
  induction h generalizing cs with
  | nil =>
    cases h'
    rfl
  | cons hab _ ih =>
    obtain ⟨c, cs, hac, hrest, rfl⟩ := List.forall₂_cons_left_iff.1 h'
    rw [List.map_cons, List.map_cons, hf _ _ _ hab hac, ih hrest]

/-- Where only a part of an item decides the result, the results are told by that part. -/
theorem mapM_eq_ok_iff_map {γ : Type} {f : γ → Except ε β} (part : γ → α) {holds : α → β → Prop}
    {cs : List γ} {bs : List β} (hf : ∀ c b, f c = .ok b ↔ holds (part c) b) :
    cs.mapM f = .ok bs ↔ List.Forall₂ holds (cs.map part) bs := by
  rw [mapM_eq_ok_iff, List.forall₂_map_left_iff]
  simp only [hf]

theorem mapM_zipIdx_congr {f : α × Nat → Except ε β} {alike : α → α → Prop} {as as' : List α}
    (hf : ∀ a a' i, alike a a' → f (a', i) = f (a, i)) (h : List.Forall₂ alike as as') (n : Nat) :
    (as'.zipIdx n).mapM f = (as.zipIdx n).mapM f := by
  induction h generalizing n with
  | nil => rfl
  | cons ha _ ih =>
    rw [List.zipIdx_cons, List.zipIdx_cons, List.mapM_cons, List.mapM_cons, hf _ _ n ha, ih]

end GraphContracts
