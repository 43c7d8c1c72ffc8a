import GraphContracts.Proofs.Chain.Backward
import Mathlib.Logic.Relation

namespace GraphContracts.CallGraph

open Relation

/-- The first value comes from the second: a walk goes from the one to the other. -/
def ComesFrom (g : CallGraph) (v w : Value) : Prop :=
  g.origin? v = some w

/-- No walk comes back to a value. -/
def Acyclic (g : CallGraph) : Prop :=
  ∀ v, ¬TransGen g.ComesFrom v v

/-- The violations that the way back from a value can end in: the one of a value on the way whose
links do not hold, or the return to a value. -/
inductive FailsBack (g : CallGraph) (start : Value) : ChainViolation → Prop
  | link {v : Value} {e : ChainViolation} : ReflTransGen g.ComesFrom start v →
      g.getValue v.id = some v → g.stepBack v = .error e → FailsBack g start e
  | loop {w : Value} : ReflTransGen g.ComesFrom start w → TransGen g.ComesFrom w w →
      FailsBack g start (.loop start w)

variable {g : CallGraph} {v w start : Value} {fuel : ℕ} {seen : List String}

theorem ComesFrom.mem_values (h : g.ComesFrom v w) : w ∈ g.values :=
  (getValue_mem (origin?_self h)).1

theorem acyclic_of_rank (rank : Value → ℕ)
    (h : ∀ v ∈ g.values, ∀ w ∈ g.origin? v, rank w < rank v) : g.Acyclic := by
  have hfalls : ∀ v w, v ∈ g.values → TransGen g.ComesFrom v w →
      w ∈ g.values ∧ rank w < rank v := by
    intro v w hv hvw
    induction hvw with
    | single hs => exact ⟨hs.mem_values, h v hv _ hs⟩
    | tail _ hs ih => exact ⟨hs.mem_values, Nat.lt_trans (h _ ih.1 _ hs) ih.2⟩
  intro v hcycle
  obtain ⟨u, -, hu⟩ := TransGen.tail'_iff.1 hcycle
  have hlt := (hfalls v v hu.mem_values hcycle).2
  omega

theorem walkBack_cases (older : List ChainStep) (hv : g.getValue v.id = some v) (hseen : seen.Nodup)
    (hway : ∀ id ∈ seen, ∃ u, g.getValue id = some u ∧ ReflTransGen g.ComesFrom start u ∧
      ReflTransGen g.ComesFrom u v)
    (hstart : ReflTransGen g.ComesFrom start v)
    (hfuel : fuel + seen.length = g.valuesById.length + 1) :
    (∃ result, g.walkBack start fuel seen (.value v :: older) v = .ok result) ∨
      ∃ e, g.FailsBack start e ∧ g.walkBack start fuel seen (.value v :: older) v = .error e := by
  induction fuel generalizing v seen older with
  | zero =>
    -- more ids would have been seen than lookups know
    have hknown : ∀ id ∈ seen, g.hasValue id = true := by
      intro id hid
      obtain ⟨u, hu, -⟩ := hway id hid
      rw [hasValue, hu, Option.isSome_some]
    have hle := length_le_valuesById hseen hknown
    omega
  | succ fuel ih =>
    cases hstep : g.stepBack v with
    | error e =>
      refine .inr ⟨e, .link hstart hv hstep, ?_⟩
      rw [walkBack, hstep]
      rfl
    | ok b =>
      rw [walkBack_succ hv ((stepBack_eq_ok_iff hv).1 hstep).1]
      cases ho : g.origin? v with
      | none => exact .inl ⟨_, rfl⟩
      | some w =>
        have hw := origin?_self ho
        have hstart' : ReflTransGen g.ComesFrom start w := hstart.tail ho
        by_cases hmem : w.id ∈ seen
        · -- lookups tell values by their ids, so the value seen before is this one
          obtain ⟨u, hu, -, huv⟩ := hway w.id hmem
          obtain rfl := Option.some.inj (hu.symm.trans hw)
          simp only [hmem, if_true]
          exact .inr ⟨_, .loop hstart' (TransGen.tail' huv ho), rfl⟩
        · simp only [hmem, if_false]
          refine ih _ hw (List.nodup_cons.2 ⟨hmem, hseen⟩) (fun id hid ↦ ?_) hstart' ?_
          · rcases List.mem_cons.1 hid with rfl | hid
            · exact ⟨w, hw, hstart', .refl⟩
            · obtain ⟨u, hu, hsu, huv⟩ := hway id hid
              exact ⟨u, hu, hsu, huv.tail ho⟩
          · rw [List.length_cons]
            omega

theorem chainTo_cases {id : String} (hstart : g.getValue id = some start) :
    (∃ chain, g.chainTo id = .ok chain) ∨
      ∃ e, g.FailsBack start e ∧ g.chainTo id = .error e := by
  have hself := getValue_self hstart
  have hway : ∀ i ∈ [start.id], ∃ u, g.getValue i = some u ∧ ReflTransGen g.ComesFrom start u ∧
      ReflTransGen g.ComesFrom u start := by
    intro i hi
    rw [List.mem_singleton.1 hi]
    exact ⟨start, hself, .refl, .refl⟩
  simp only [chainTo, hstart]
  rcases walkBack_cases [] hself (List.nodup_singleton _) hway .refl rfl with
    ⟨⟨steps, root⟩, h⟩ | ⟨e, he, h⟩
  · rw [h]
    exact .inl ⟨_, rfl⟩
  · rw [h]
    exact .inr ⟨e, he, rfl⟩

end GraphContracts.CallGraph
