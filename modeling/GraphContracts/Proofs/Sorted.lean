import Mathlib.Data.List.Perm.Basic

namespace GraphContracts

variable {α : Type} (key : α → Int)

/-- An entry that stands before all others in the order of their keys. Of several with the same key
it is the first. -/
def FirstLeast (key : α → Int) (l : List α) (a : α) : Prop :=
  ∃ before after, l = before ++ a :: after ∧ (∀ b ∈ before, key a < key b) ∧
    ∀ b ∈ after, key a ≤ key b

theorem decide_key_le_trans (x y z : α) (hxy : decide (key x ≤ key y) = true)
    (hyz : decide (key y ≤ key z) = true) : decide (key x ≤ key z) = true := by
  simp only [decide_eq_true_eq] at hxy hyz ⊢
  exact Int.le_trans hxy hyz

theorem decide_key_le_total (x y : α) :
    (decide (key x ≤ key y) || decide (key y ≤ key x)) = true := by
  simpa using Int.le_total (key x) (key y)

theorem pairwise_mergeSort_key (l : List α) :
    (l.mergeSort fun x y ↦ key x ≤ key y).Pairwise fun x y ↦ key x ≤ key y :=
  (List.pairwise_mergeSort (decide_key_le_trans key) (decide_key_le_total key) l).imp
    of_decide_eq_true

variable {key}

theorem firstLeast_of_mergeSort {l rest : List α} {a : α}
    (h : (l.mergeSort fun x y ↦ key x ≤ key y) = a :: rest) : FirstLeast key l a := by
  induction l generalizing a rest with
  | nil => simp at h
  | cons x l ih =>
    obtain ⟨smaller, larger, hsort, hrest, hsmaller⟩ :=
      List.mergeSort_cons (decide_key_le_trans key) (decide_key_le_total key) x l
    rw [hsort] at h
    cases smaller with
    | nil =>
      -- nothing in the rest is smaller, so the sorted list begins with the entry before it
      obtain ⟨rfl, rfl⟩ := List.cons.inj h
      have hordered := pairwise_mergeSort_key key (x :: l)
      rw [hsort] at hordered
      refine ⟨[], l, rfl, nofun, fun b hb ↦ (List.pairwise_cons.1 hordered).1 b ?_⟩
      rw [← List.nil_append larger, ← hrest]
      exact (List.mergeSort_perm l _).mem_iff.2 hb
    | cons y smaller =>
      obtain ⟨rfl, -⟩ := List.cons.inj h
      obtain ⟨before, after, rfl, hbefore, hafter⟩ := ih hrest
      have hxy : key y < key x := by
        have hnot := hsmaller y List.mem_cons_self
        simp only [Bool.not_eq_true', decide_eq_false_iff_not] at hnot
        omega
      exact ⟨x :: before, after, rfl, List.forall_mem_cons.2 ⟨hxy, hbefore⟩, hafter⟩

end GraphContracts
