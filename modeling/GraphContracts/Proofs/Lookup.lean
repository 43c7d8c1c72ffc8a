import GraphContracts.Graph.Store
import Mathlib.Data.List.Forall2
import Mathlib.Data.List.Nodup

namespace GraphContracts

theorem exists_mem_distinctBy {α : Type} {key : α → String} {seen : List String} {as : List α}
    {k : String} (hk : k ∉ seen) :
    (∃ a ∈ distinctBy key seen as, key a = k) ↔ ∃ a ∈ as, key a = k := by
  induction as generalizing seen with
  | nil => simp [distinctBy]
  | cons b bs ih =>
    simp only [distinctBy, List.contains_iff_mem, List.mem_cons, exists_eq_or_imp]
    by_cases hb : key b ∈ seen
    · have hne : key b ≠ k := fun h ↦ hk (h ▸ hb)
      simp only [hb, if_true, ih hk, hne, false_or]
    · simp only [hb, if_false, List.mem_cons, exists_eq_or_imp]
      refine or_congr_right' fun hbk ↦ ih ?_
      simp only [List.mem_cons, not_or]
      exact ⟨fun h ↦ hbk h.symm, hk⟩

theorem forall₂_distinctBy {α β : Type} {key : α → String} {key' : β → String}
    {holds : α → β → Prop} (hkey : ∀ a b, holds a b → key a = key' b) {as : List α} {bs : List β}
    (h : List.Forall₂ holds as bs) (seen : List String) :
    List.Forall₂ holds (distinctBy key seen as) (distinctBy key' seen bs) := by
  induction h generalizing seen with
  | nil => exact .nil
  | cons hab _ ih =>
    simp only [distinctBy, hkey _ _ hab]
    split
    · exact ih seen
    · exact .cons hab (ih _)

theorem distinctBy_eq_self {α : Type} {key : α → String} {seen : List String} {as : List α}
    (h : (as.map key).Nodup) (hseen : ∀ a ∈ as, key a ∉ seen) : distinctBy key seen as = as := by
  induction as generalizing seen with
  | nil => rfl
  | cons a as ih =>
    rw [List.map_cons, List.nodup_cons] at h
    have hrest : ∀ b ∈ as, key b ∉ key a :: seen := by
      intro b hb hmem
      obtain he | hmem := List.mem_cons.1 hmem
      · exact h.1 (he ▸ List.mem_map_of_mem hb)
      · exact hseen b (.tail _ hb) hmem
    rw [distinctBy, ih h.2 hrest]
    simp [hseen a (.head _)]

namespace CallGraph

variable {g : CallGraph} {id : String} {v w : Value} {c d : Call}

/-- The ids of a graph are told apart: no two values share one, and no two calls. -/
structure UniqueIds (g : CallGraph) : Prop where
  values : (g.values.map Value.id).Nodup
  calls : (g.calls.map Call.id).Nodup

theorem getValue_eq_none : g.getValue id = none ↔ ∀ v ∈ g.values, v.id ≠ id := by
  simp [getValue]

theorem getCall_eq_none : g.getCall id = none ↔ ∀ c ∈ g.calls, c.id ≠ id := by
  simp [getCall]

theorem getValue_self (h : g.getValue id = some v) : g.getValue v.id = some v := by
  rw [(getValue_mem h).2, h]

theorem eq_of_id_eq (hv : g.getValue v.id = some v) (hw : g.getValue w.id = some w)
    (h : v.id = w.id) : v = w := by
  rw [h, hw] at hv
  exact (Option.some.inj hv).symm

theorem resultOf_self (h : g.resultOf c = some v) : g.getValue v.id = some v := by
  unfold resultOf at h
  split at h
  · exact getValue_self h
  · exact getValue_self (Option.eq_some_of_filter_eq_some h)

theorem resultOf_id_eq_some (hv : g.getValue v.id = some v) :
    (g.resultOf c).map Value.id = some v.id ↔ g.resultOf c = some v := by
  constructor
  · intro h
    obtain ⟨w, hw, hid⟩ := Option.map_eq_some_iff.1 h
    rw [hw, eq_of_id_eq (resultOf_self hw) hv hid]
  · intro h
    rw [h, Option.map_some]

/-- Where no two values share an id, a lookup finds each of them. -/
theorem getValue_eq_of_nodup (hg : (g.values.map Value.id).Nodup) (hv : v ∈ g.values) :
    g.getValue v.id = some v := by
  cases h : g.getValue v.id with
  | none => exact absurd rfl (getValue_eq_none.1 h v hv)
  | some w =>
    have hw := getValue_mem h
    rw [List.inj_on_of_nodup_map hg hw.1 hv hw.2]

theorem UniqueIds.getValue_eq (hg : g.UniqueIds) (hv : v ∈ g.values) :
    g.getValue v.id = some v :=
  getValue_eq_of_nodup hg.values hv

theorem UniqueIds.getCall_eq (hg : g.UniqueIds) (hc : c ∈ g.calls) :
    g.getCall c.id = some c := by
  cases h : g.getCall c.id with
  | none => exact absurd rfl (getCall_eq_none.1 h c hc)
  | some d =>
    have hd := getCall_mem h
    rw [List.inj_on_of_nodup_map hg.calls hd.1 hc hd.2]

theorem UniqueIds.getValue_eq_some_iff (hg : g.UniqueIds) :
    g.getValue id = some v ↔ v ∈ g.values ∧ v.id = id := by
  refine ⟨getValue_mem, ?_⟩
  rintro ⟨hv, rfl⟩
  exact hg.getValue_eq hv

theorem UniqueIds.getCall_eq_some_iff (hg : g.UniqueIds) :
    g.getCall id = some c ↔ c ∈ g.calls ∧ c.id = id := by
  refine ⟨getCall_mem, ?_⟩
  rintro ⟨hc, rfl⟩
  exact hg.getCall_eq hc

theorem UniqueIds.valuesById_eq (hg : g.UniqueIds) : g.valuesById = g.values :=
  distinctBy_eq_self hg.values fun _ _ ↦ List.not_mem_nil

theorem exists_mem_valuesById : (∃ v ∈ g.valuesById, v.id = id) ↔ g.hasValue id = true := by
  rw [valuesById, exists_mem_distinctBy (by simp), hasValue_eq_true]

theorem exists_mem_callsById : (∃ c ∈ g.callsById, c.id = id) ↔ g.hasCall id = true := by
  rw [callsById, exists_mem_distinctBy (by simp), hasCall_eq_true]

/-- No more ids can be told apart than lookups know. -/
theorem length_le_valuesById {ids : List String} (hids : ids.Nodup)
    (h : ∀ id ∈ ids, g.hasValue id = true) : ids.length ≤ g.valuesById.length := by
  have hsub : ids ⊆ g.valuesById.map Value.id := by
    intro id hid
    obtain ⟨v, hv, he⟩ := exists_mem_valuesById.2 (h id hid)
    exact List.mem_map.2 ⟨v, hv, he⟩
  have hle := hids.length_le_of_subset hsub
  rwa [List.length_map] at hle

end CallGraph

end GraphContracts
