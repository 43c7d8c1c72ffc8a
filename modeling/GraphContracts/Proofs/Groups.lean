import GraphContracts.Contract.Groups
import Mathlib.Data.Set.Card

namespace GraphContracts

/-- Two entries of a list, one behind the other, have a property. -/
def Twice {α : Type} (p : α → Prop) (l : List α) : Prop :=
  ∃ a b, [a, b].Sublist l ∧ p a ∧ p b

theorem twice_iff_one_lt_countP {α : Type} {p : α → Prop} [DecidablePred p] {l : List α} :
    Twice p l ↔ 1 < l.countP p := by
  rw [List.countP_eq_length_filter]
  constructor
  · rintro ⟨a, b, hsub, ha, hb⟩
    have hle := (hsub.filter fun x ↦ decide (p x)).length_le
    simp only [List.filter_cons, ha, hb, decide_true, if_true, List.filter_nil, List.length_cons,
      List.length_nil] at hle
    omega
  · intro h
    have hlen : ((l.filter fun x ↦ decide (p x)).take 2).length = 2 := by
      rw [List.length_take]
      omega
    obtain ⟨a, b, he⟩ := List.length_eq_two.1 hlen
    have hsub : [a, b].Sublist (l.filter fun x ↦ decide (p x)) := he ▸ List.take_sublist _ _
    have hall : ∀ x ∈ [a, b], p x := fun x hx ↦
      of_decide_eq_true (List.mem_filter.1 (hsub.subset hx)).2
    exact ⟨a, b, hsub.trans List.filter_sublist, hall a (by simp), hall b (by simp)⟩

theorem twice_iff_of_perm {α : Type} {p : α → Prop} {l l' : List α} (h : l.Perm l') :
    Twice p l ↔ Twice p l' := by
  classical
  rw [twice_iff_one_lt_countP, twice_iff_one_lt_countP, h.countP_eq]

variable {κ α : Type} [DecidableEq κ]

theorem nodup_eraseDups (keys : List κ) : keys.eraseDups.Nodup := by
  induction hn : keys.length using Nat.strong_induction_on generalizing keys with
  | _ n ih =>
    cases keys with
    | nil => exact List.nodup_nil
    | cons k keys =>
      have hlen := List.length_filter_le (fun x ↦ !x == k) keys
      rw [List.length_cons] at hn
      rw [List.eraseDups_cons]
      refine List.nodup_cons.2 ⟨?_, ih _ (by omega) _ rfl⟩
      simp

theorem encard_mem_list {l : List κ} (h : l.Nodup) : {k | k ∈ l}.encard = l.length := by
  rw [← List.coe_toFinset, Set.encard_coe_eq_coe_finsetCard, List.toFinset_card_of_nodup h]

theorem mem_keys_repeatedKeys {pairs : List (κ × α)} {k : κ} :
    k ∈ (repeatedKeys pairs).map Prod.fst ↔ 1 < pairs.countP fun p ↦ p.1 = k := by
  simp only [repeatedKeys, groupByKey, List.mem_map, List.mem_filter, Prod.exists, Prod.mk.injEq,
    decide_eq_true_eq, List.mem_eraseDups, List.countP_eq_length_filter]
  constructor
  · rintro ⟨k, items, ⟨⟨k', -, rfl, rfl⟩, hlen⟩, rfl⟩
    simpa using hlen
  · intro h
    have hk : ∃ a v, (a, v) ∈ pairs ∧ a = k := by
      obtain ⟨⟨a, v⟩, hmem⟩ := List.exists_mem_of_length_pos (Nat.lt_of_succ_lt h)
      have hp := List.mem_filter.1 hmem
      exact ⟨a, v, hp.1, of_decide_eq_true hp.2⟩
    exact ⟨k, _, ⟨⟨k, hk, rfl, rfl⟩, by simpa using h⟩, rfl⟩

theorem repeatedKeys_eq_nil_iff {pairs : List (κ × α)} :
    repeatedKeys pairs = [] ↔ (pairs.map Prod.fst).Nodup := by
  rw [List.nodup_iff_count_le_one, ← List.map_eq_nil_iff (f := Prod.fst),
    List.eq_nil_iff_forall_not_mem]
  refine forall_congr' fun k ↦ ?_
  rw [mem_keys_repeatedKeys, Nat.not_lt, List.count_eq_countP, List.countP_map]
  rfl

theorem nodup_keys_repeatedKeys (pairs : List (κ × α)) :
    ((repeatedKeys pairs).map Prod.fst).Nodup := by
  have hkeys : (groupByKey pairs).map Prod.fst = (pairs.map Prod.fst).eraseDups := by
    simp [groupByKey, Function.comp_def]
  refine List.Nodup.sublist (List.Sublist.map _ List.filter_sublist) ?_
  rw [hkeys]
  exact nodup_eraseDups _

theorem length_repeatedKeys (pairs : List (κ × α)) :
    ((repeatedKeys pairs).length : ℕ∞) = {k | 1 < pairs.countP fun p ↦ p.1 = k}.encard := by
  have hset : {k | 1 < pairs.countP fun p ↦ p.1 = k} =
      {k | k ∈ (repeatedKeys pairs).map Prod.fst} := Set.ext fun k ↦ mem_keys_repeatedKeys.symm
  rw [hset, encard_mem_list (nodup_keys_repeatedKeys pairs), List.length_map]

/-- Where each key is as frequent as a property of other entries, the groups are counted by the
properties that two of those entries have. -/
theorem length_repeatedKeys_eq_twice {β : Type} {pairs : List (κ × α)} {l : List β}
    {p : κ → β → Prop} [∀ k, DecidablePred (p k)]
    (h : ∀ k, pairs.countP (fun e ↦ e.1 = k) = l.countP fun b ↦ p k b) :
    ((repeatedKeys pairs).length : ℕ∞) = {k | Twice (p k) l}.encard := by
  rw [length_repeatedKeys]
  refine congrArg Set.encard (Set.ext fun k ↦ ?_)
  rw [Set.mem_ofPred_eq, Set.mem_ofPred_eq, twice_iff_one_lt_countP, h]

end GraphContracts
