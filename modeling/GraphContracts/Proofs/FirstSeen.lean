import GraphContracts.Proofs.Lookup

namespace GraphContracts

/-- The members of `l`, each once, those that are seen first in `l` before the others. -/
structure FirstSeen {κ : Type} [DecidableEq κ] (l keys : List κ) : Prop where
  mem_iff : ∀ k, k ∈ keys ↔ k ∈ l
  nodup : keys.Nodup
  sorted : keys.Pairwise fun j k ↦ l.idxOf j < l.idxOf k

/-- The first of some entries with a key. -/
def FirstWith {α : Type} (key : α → String) (k : String) (as : List α) (a : α) : Prop :=
  key a = k ∧ ∃ before after, as = before ++ a :: after ∧ ∀ b ∈ before, key b ≠ k

variable {α : Type} {key : α → String} {seen : List String} {as : List α} {a b : α} {k : String}

theorem find?_eq_some_iff_firstWith :
    as.find? (fun a ↦ key a = k) = some a ↔ FirstWith key k as a := by
  simp [List.find?_eq_some_iff_append, FirstWith]

theorem idxOf_key_cons_of_mem (hseen : key a ∈ seen) (h : b ∈ distinctBy key seen as) :
    ((a :: as).map key).idxOf (key b) = (as.map key).idxOf (key b) + 1 := by
  have hne : key a ≠ key b := fun he ↦ (mem_distinctBy h).2 (he ▸ hseen)
  rw [List.map_cons, List.idxOf_cons_ne _ hne]

theorem pairwise_distinctBy (key : α → String) (seen : List String) (as : List α) :
    (distinctBy key seen as).Pairwise fun a b ↦
      (as.map key).idxOf (key a) < (as.map key).idxOf (key b) := by
  induction as generalizing seen with
  | nil => exact .nil
  | cons a as ih =>
    -- behind an entry whose key has been seen, all positions are one further
    have hbehind : ∀ seen, key a ∈ seen → (distinctBy key seen as).Pairwise fun b c ↦
        ((a :: as).map key).idxOf (key b) < ((a :: as).map key).idxOf (key c) := by
      intro seen hseen
      refine (ih seen).imp_of_mem fun hb hc hlt ↦ ?_
      rw [idxOf_key_cons_of_mem hseen hb, idxOf_key_cons_of_mem hseen hc]
      exact Nat.succ_lt_succ hlt
    rw [distinctBy]
    split
    · rename_i hseen
      exact hbehind seen (List.contains_iff_mem.1 hseen)
    · refine List.pairwise_cons.2 ⟨fun b hb ↦ ?_, hbehind _ (.head _)⟩
      rw [idxOf_key_cons_of_mem (.head _) hb, List.map_cons, List.idxOf_cons_self]
      exact Nat.succ_pos _

theorem firstSeen_distinctBy (key : α → String) (as : List α) :
    FirstSeen (as.map key) ((distinctBy key [] as).map key) where
  mem_iff k := by
    simp only [List.mem_map]
    exact exists_mem_distinctBy List.not_mem_nil
  nodup := distinctBy_nodup key [] as
  sorted := List.pairwise_map.2 (pairwise_distinctBy key [] as)

theorem distinctBy_id_eq (seen l : List String) :
    distinctBy id seen l = (l.filter fun k ↦ k ∉ seen).eraseDups := by
  induction l generalizing seen with
  | nil => simp [distinctBy]
  | cons k l ih =>
    by_cases hk : k ∈ seen
    · simp [distinctBy, hk, ih]
    · have hrest : (l.filter fun j ↦ j ∉ seen).filter (fun j ↦ !j == k) =
          l.filter fun j ↦ j ∉ k :: seen := by
        rw [List.filter_filter]
        refine List.filter_congr fun j _ ↦ ?_
        simp [BEq.beq]
      rw [distinctBy, if_neg (by simpa using hk), ih, List.filter_cons_of_pos (by simpa using hk),
        List.eraseDups_cons, hrest]
      rfl

theorem firstSeen_eraseDups (l : List String) : FirstSeen l l.eraseDups := by
  have h := firstSeen_distinctBy id l
  rwa [List.map_id, List.map_id, distinctBy_id_eq, List.filter_eq_self.2 (by simp)] at h

theorem find?_distinctBy (hk : k ∉ seen) :
    (distinctBy key seen as).find? (fun a ↦ key a = k) = as.find? fun a ↦ key a = k := by
  induction as generalizing seen with
  | nil => rfl
  | cons a as ih =>
    rw [distinctBy]
    split
    · rename_i hseen
      have hne : key a ≠ k := fun he ↦ hk (he ▸ List.contains_iff_mem.1 hseen)
      rw [ih hk, List.find?_cons_of_neg (by simpa using hne)]
    · by_cases he : key a = k
      · rw [List.find?_cons_of_pos (by simpa using he), List.find?_cons_of_pos (by simpa using he)]
      · have hk' : k ∉ key a :: seen := by simp [Ne.symm he, hk]
        rw [List.find?_cons_of_neg (by simpa using he), ih hk',
          List.find?_cons_of_neg (by simpa using he)]

end GraphContracts
