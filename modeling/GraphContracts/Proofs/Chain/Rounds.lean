import GraphContracts.Proofs.Chain.Failure

namespace GraphContracts

namespace CallGraph

/-- Where the loop stands before a round. -/
structure Trail where
  seen : List String
  steps : List ChainStep
  current : Value

abbrev Traced :=
  Except ChainViolation (List ChainStep × Value)

/-- One round of the loop: it ends, or goes on from the next value. -/
def round (g : CallGraph) (start : Value) (t : Trail) : Traced ⊕ Trail :=
  match g.stepBack t.current with
  | .error e => .inl (.error e)
  | .ok back =>
    let steps := BackStep.before back t.steps
    match back.next with
    | none => .inl (.ok (steps, t.current))
    | some v =>
      if v.id ∈ t.seen then .inl (.error (.loop start v))
      else .inr ⟨v.id :: t.seen, .value v :: steps, v⟩

/-- The loop ends in exactly this many rounds. -/
inductive Rounds (g : CallGraph) (start : Value) : Trail → ℕ → Traced → Prop
  | last {t : Trail} {outcome : Traced} :
      g.round start t = .inl outcome → Rounds g start t 1 outcome
  | cons {t t' : Trail} {n : ℕ} {outcome : Traced} :
      g.round start t = .inr t' → Rounds g start t' n outcome → Rounds g start t (n + 1) outcome

/-- Values from the first to the last, each the origin of the one before, whose links all hold. -/
inductive Visits (g : CallGraph) : Value → List Value → Value → Prop
  | one {v : Value} : g.LinksHold v → Visits g v [v] v
  | cons {v w last : Value} {visited : List Value} :
      g.LinksHold v → g.origin? v = some w → Visits g w visited last →
      Visits g v (v :: visited) last

variable {g : CallGraph} {start again v w last : Value} {t t' : Trail} {n m : ℕ}
  {outcome outcome' : Traced} {visited : List Value}

theorem Rounds.unique (h : g.Rounds start t n outcome) (h' : g.Rounds start t m outcome') :
    m = n ∧ outcome' = outcome := by
  induction h generalizing m with
  | last hr =>
    cases h' with
    | last hr' => exact ⟨rfl, Sum.inl.inj (hr'.symm.trans hr)⟩
    | cons hr' => cases hr'.symm.trans hr
  | cons hr _ ih =>
    cases h' with
    | last hr' => cases hr'.symm.trans hr
    | cons hr' hrest =>
      obtain rfl := Sum.inr.inj (hr.symm.trans hr')
      obtain ⟨hm, he⟩ := ih hrest
      exact ⟨congrArg (· + 1) hm, he⟩

theorem walkBack_eq_round (fuel : ℕ) :
    g.walkBack start (fuel + 1) t.seen t.steps t.current =
      match g.round start t with
      | .inl outcome => outcome
      | .inr t' => g.walkBack start fuel t'.seen t'.steps t'.current := by
  rw [walkBack, round]
  cases g.stepBack t.current with
  | error e => rfl
  | ok back =>
    obtain ⟨call, next⟩ := back
    cases next with
    | none => rfl
    | some v =>
      by_cases hseen : v.id ∈ t.seen
      · simp [bind, Except.bind, hseen]
      · simp [bind, Except.bind, hseen]

theorem Rounds.walkBack_eq (h : g.Rounds start t n outcome) {fuel : ℕ} (hn : n ≤ fuel) :
    g.walkBack start fuel t.seen t.steps t.current = outcome := by
  induction h generalizing fuel with
  | last hr =>
    obtain ⟨fuel, rfl⟩ := Nat.exists_eq_add_of_le' hn
    rw [walkBack_eq_round, hr]
  | cons hr _ ih =>
    obtain ⟨fuel, rfl⟩ := Nat.exists_eq_add_of_le' (Nat.le_of_add_left_le hn)
    rw [walkBack_eq_round, hr]
    exact ih (by omega)

theorem round_eq_inr_iff (hv : g.getValue t.current.id = some t.current) :
    g.round start t = .inr t' ↔ g.LinksHold t.current ∧ ∃ w, g.origin? t.current = some w ∧
      w.id ∉ t.seen ∧ t' = ⟨w.id :: t.seen,
        .value w :: BackStep.before ⟨g.producer? t.current, some w⟩ t.steps, w⟩ := by
  by_cases hl : g.LinksHold t.current
  · have hstep := (stepBack_eq_ok_iff hv).2 ⟨hl, rfl⟩
    simp only [round, hstep, hl, true_and]
    cases ho : g.origin? t.current with
    | none => simp
    | some w =>
      by_cases hw : w.id ∈ t.seen
      · simp [hw]
      · simp [hw, eq_comm]
  · cases hstep : g.stepBack t.current with
    | error e => simp [round, hstep, hl]
    | ok back => exact absurd ((stepBack_eq_ok_iff hv).1 hstep).1 hl

theorem sourceValue_eq_error {e : ChainViolation} (h : g.sourceValue v = .error e) :
    ∃ id, e = .danglingSourceValue v id := by
  unfold sourceValue at h
  split at h
  · cases h
  · split at h
    · cases h
    · exact ⟨_, (Except.error.inj h).symm⟩

theorem sourceCall_eq_error {e : ChainViolation} (h : g.sourceCall v = .error e) :
    ∃ id, e = .danglingSourceCall v id := by
  unfold sourceCall at h
  split at h
  · cases h
  · split at h
    · cases h
    · exact ⟨_, (Except.error.inj h).symm⟩

theorem throughCall_eq_error {c : Call} {e : ChainViolation} (h : g.throughCall v c = .error e) :
    e = .brokenBackLink v c (g.resultOf c) ∨ ∃ id, e = .danglingReceiver c id := by
  unfold throughCall at h
  by_cases hr : (g.resultOf c).map Value.id = some v.id
  · simp only [hr, if_true] at h
    split at h
    · cases h
    · split at h
      · cases h
      · exact .inr ⟨_, (Except.error.inj h).symm⟩
  · simp only [hr, if_false] at h
    exact .inl (Except.error.inj h).symm

theorem stepBack_ne_loop : g.stepBack v ≠ .error (.loop again w) := by
  intro h
  unfold stepBack at h
  cases hs : g.sourceValue v with
  | error e =>
    obtain ⟨id, rfl⟩ := sourceValue_eq_error hs
    rw [hs] at h
    cases h
  | ok source =>
    cases hc : g.sourceCall v with
    | error e =>
      obtain ⟨id, rfl⟩ := sourceCall_eq_error hc
      rw [hs, hc] at h
      cases h
    | ok call =>
      simp only [hs, hc, bind, Except.bind] at h
      split at h
      · cases h
      · rcases throughCall_eq_error h with h | ⟨id, h⟩
        · cases h
        · cases h
      · cases h

theorem round_eq_loop_iff (hv : g.getValue t.current.id = some t.current) :
    g.round start t = .inl (.error (.loop again w)) ↔ again = start ∧ g.LinksHold t.current ∧
      g.origin? t.current = some w ∧ w.id ∈ t.seen := by
  by_cases hl : g.LinksHold t.current
  · have hstep := (stepBack_eq_ok_iff hv).2 ⟨hl, rfl⟩
    simp only [round, hstep, hl, true_and]
    cases ho : g.origin? t.current with
    | none => simp
    | some u =>
      by_cases hu : u.id ∈ t.seen
      · simp only [hu, if_true, Sum.inl.injEq, Except.error.injEq, ChainViolation.loop.injEq,
          Option.some.injEq]
        constructor
        · rintro ⟨rfl, rfl⟩
          exact ⟨rfl, rfl, hu⟩
        · rintro ⟨rfl, rfl, -⟩
          exact ⟨rfl, rfl⟩
      · simp only [hu, if_false, reduceCtorEq, Option.some.injEq, false_iff]
        rintro ⟨-, rfl, hw⟩
        exact hu hw
  · cases hstep : g.stepBack t.current with
    | error e =>
      simp only [round, hstep, hl, false_and, and_false, iff_false, Sum.inl.injEq,
        Except.error.injEq]
      rintro rfl
      exact stepBack_ne_loop hstep
    | ok back => exact absurd ((stepBack_eq_ok_iff hv).1 hstep).1 hl

theorem exists_rounds (start : Value) (hv : g.getValue t.current.id = some t.current)
    (hseen : t.seen.Nodup) (hknown : ∀ id ∈ t.seen, g.hasValue id = true) :
    ∃ n outcome, n + t.seen.length ≤ g.valuesById.length + 1 ∧ g.Rounds start t n outcome := by
  have hle := length_le_valuesById hseen hknown
  -- on the number of ids that lookups know and that were not seen yet
  induction hk : g.valuesById.length + 1 - t.seen.length generalizing t with
  | zero => omega
  | succ k ih =>
    cases hr : g.round start t with
    | inl outcome => exact ⟨1, outcome, by omega, .last hr⟩
    | inr t' =>
      obtain ⟨-, w, ho, hw, rfl⟩ := (round_eq_inr_iff hv).1 hr
      have hself := origin?_self ho
      have hseen' : (w.id :: t.seen).Nodup := List.nodup_cons.2 ⟨hw, hseen⟩
      have hknown' : ∀ id ∈ w.id :: t.seen, g.hasValue id = true := by
        intro id hid
        rcases List.mem_cons.1 hid with rfl | hid
        · rw [hasValue, hself, Option.isSome_some]
        · exact hknown id hid
      have hle' := length_le_valuesById hseen' hknown'
      simp only [List.length_cons] at hle'
      obtain ⟨n, outcome, hn, hrest⟩ := ih (t := ⟨w.id :: t.seen, _, w⟩) hself hseen' hknown' hle'
        (by simp only [List.length_cons]; omega)
      simp only [List.length_cons] at hn
      exact ⟨n + 1, outcome, by omega, .cons hr hrest⟩

theorem Visits.head_eq (h : g.Visits v visited last) : ∃ rest, visited = v :: rest := by
  cases h with
  | one => exact ⟨[], rfl⟩
  | cons => exact ⟨_, rfl⟩

theorem Rounds.exists_visits (h : g.Rounds start t n (.error (.loop again w)))
    (hv : g.getValue t.current.id = some t.current) (hseen : t.seen.Nodup) :
    again = start ∧ ∃ visited last, g.Visits t.current visited last ∧
      ((visited.tail.map Value.id).reverse ++ t.seen).Nodup ∧ g.origin? last = some w ∧
      w.id ∈ (visited.tail.map Value.id).reverse ++ t.seen := by
  generalize he : (.error (.loop again w) : Traced) = outcome at h
  induction h with
  | @last t outcome hr =>
    subst he
    obtain ⟨hagain, hl, ho, hw⟩ := (round_eq_loop_iff hv).1 hr
    exact ⟨hagain, [t.current], t.current, .one hl, by simpa using hseen, ho, by simpa using hw⟩
  | @cons t t' n outcome hr _ ih =>
    obtain ⟨hl, u, ho, hu, rfl⟩ := (round_eq_inr_iff hv).1 hr
    obtain ⟨hagain, visited, last, hvisits, hnodup, hlast, hw⟩ :=
      ih (origin?_self ho) (List.nodup_cons.2 ⟨hu, hseen⟩) he
    obtain ⟨rest, rfl⟩ := hvisits.head_eq
    refine ⟨hagain, t.current :: u :: rest, last, .cons hl ho hvisits, ?_, hlast, ?_⟩
    · simpa using hnodup
    · simpa using hw

theorem Visits.exists_rounds (h : g.Visits v visited last) (hv : g.getValue v.id = some v)
    (hlast : g.origin? last = some w) (ht : t.current = v)
    (hnodup : ((visited.tail.map Value.id).reverse ++ t.seen).Nodup)
    (hw : w.id ∈ (visited.tail.map Value.id).reverse ++ t.seen) :
    ∃ n, g.Rounds start t n (.error (.loop start w)) := by
  induction h generalizing t with
  -- the last value leads back, and every value before it goes on
  | one hl =>
    subst ht
    have hr : g.round start t = .inl (.error (.loop start w)) :=
      (round_eq_loop_iff hv).2 ⟨rfl, hl, hlast, by simpa using hw⟩
    exact ⟨1, .last hr⟩
  | @cons v u last visited hl ho hvisits ih =>
    subst ht
    obtain ⟨rest, rfl⟩ := hvisits.head_eq
    have hu : u.id ∉ t.seen := by
      intro hmem
      have hdis := (List.nodup_append.1 hnodup).2.2
      exact hdis u.id (by simp) u.id hmem rfl
    have hr : g.round start t = .inr _ := (round_eq_inr_iff hv).2 ⟨hl, u, ho, hu, rfl⟩
    obtain ⟨n, hrest⟩ := ih (t := ⟨u.id :: t.seen, _, u⟩) (origin?_self ho) hlast rfl
      (by simpa using hnodup) (by simpa using hw)
    exact ⟨n + 1, .cons hr hrest⟩

/-- The chain of a start and what its loop ends with. -/
def chainOf (start : Value) (traced : List ChainStep × Value) : Chain :=
  ⟨traced.1, traced.2, start, (traced.1.filterMap ChainStep.call?).length⟩

theorem chainTo_eq_outcome {id : String} (hstart : g.getValue id = some start) :
    ∃ n outcome, n ≤ g.valuesById.length ∧
      g.Rounds start ⟨[start.id], [.value start], start⟩ n outcome ∧
      g.chainTo id = outcome.map (chainOf start) := by
  have hself := getValue_self hstart
  have hknown : ∀ i ∈ [start.id], g.hasValue i = true := by simp [hasValue, hself]
  obtain ⟨n, outcome, hn, hrounds⟩ :=
    exists_rounds (t := ⟨[start.id], [.value start], start⟩) start hself (List.nodup_singleton _)
      hknown
  have hle : n ≤ g.valuesById.length := by simpa using hn
  refine ⟨n, outcome, hle, hrounds, ?_⟩
  simp only [chainTo, hstart, hrounds.walkBack_eq hle]
  cases outcome <;> rfl

theorem chainTo_eq_loop_iff {id : String} : g.chainTo id = .error (.loop start w) ↔
    g.getValue id = some start ∧ ∃ visited last, g.Visits start visited last ∧
      (visited.map Value.id).Nodup ∧ g.origin? last = some w ∧ w.id ∈ visited.map Value.id := by
  cases hstart : g.getValue id with
  | none => simp [chainTo, hstart]
  | some first =>
    have hself := getValue_self hstart
    obtain ⟨n, outcome, -, hrounds, hchain⟩ := chainTo_eq_outcome hstart
    have hids : ∀ visited last, g.Visits first visited last →
        (visited.tail.map Value.id).reverse ++ [first.id] = (visited.map Value.id).reverse := by
      intro visited last hvisits
      obtain ⟨rest, rfl⟩ := hvisits.head_eq
      simp
    have hloop : g.chainTo id = .error (.loop start w) ↔ outcome = .error (.loop start w) := by
      rw [hchain]
      cases outcome <;> simp [Except.map]
    rw [hloop]
    constructor
    · -- the rounds that were made visit the values, and values to visit make the rounds
      rintro rfl
      obtain ⟨rfl, visited, last, hvisits, hnodup, hlast, hw⟩ :=
        hrounds.exists_visits hself (List.nodup_singleton _)
      rw [hids visited last hvisits] at hnodup hw
      exact ⟨rfl, visited, last, hvisits, List.nodup_reverse.1 hnodup, hlast, List.mem_reverse.1 hw⟩
    · rintro ⟨h, visited, last, hvisits, hnodup, hlast, hw⟩
      obtain rfl := Option.some.inj h
      have hids := hids visited last hvisits
      have hback : ∃ m, g.Rounds first ⟨[first.id], [.value first], first⟩ m
          (.error (.loop first w)) := by
        apply hvisits.exists_rounds hself hlast rfl
        · rw [hids]
          exact List.nodup_reverse.2 hnodup
        · rw [hids]
          exact List.mem_reverse.2 hw
      obtain ⟨m, hback⟩ := hback
      exact (hback.unique hrounds).2

theorem getCall_self {c : Call} {id : String} (h : g.getCall id = some c) :
    g.getCall c.id = some c := by
  rw [(getCall_mem h).2, h]

theorem producer?_self {c : Call} (h : g.producer? v = some c) : g.getCall c.id = some c := by
  unfold producer? at h
  split at h
  · cases h
  · obtain ⟨id, -, hid⟩ := Option.bind_eq_some_iff.1 h
    exact getCall_self hid

theorem callIds_nodup {walk : List Value} (hwalk : walk.Nodup) (hl : ∀ v ∈ walk, g.LinksHold v) :
    ((walk.filterMap g.producer?).map Call.id).Nodup := by
  rw [List.Nodup, List.pairwise_map, List.pairwise_filterMap]
  refine hwalk.imp_of_mem fun {v w} hv hw hne c hc d hd hid ↦ ?_
  have hc' := producer?_self hc
  rw [hid, producer?_self hd] at hc'
  obtain rfl := Option.some.inj hc'
  have hresult := (hl v hv).result d hc
  rw [(hl w hw).result d hd] at hresult
  exact hne (Option.some.inj hresult).symm

end CallGraph

/-- The loop behind a chain that is followed backward ends, and in at most as many rounds as there
are values that lookups can find. In a chain that it comes to, no value and no call has the id of
another. It comes back to a value exactly where the links of the values on the way hold and the
value behind the last of them has the id of one of them. -/
theorem rounds_of_startingAt (a : ChainContract) (id : String) :
    (∀ start, a.graph.getValue id = some start →
      ∃ n outcome, n ≤ a.graph.valuesById.length ∧
        (∀ m outcome', a.graph.Rounds start ⟨[start.id], [.value start], start⟩ m outcome' ↔
          m = n ∧ outcome' = outcome) ∧
        (a.startingAt id).walk = (outcome.map (CallGraph.chainOf start)).mapError .violated) ∧
    (∀ chain, (a.startingAt id).verify = .ok chain →
      (chain.valueSteps.map Value.id).Nodup ∧ (chain.callSteps.map Call.id).Nodup) ∧
    ∀ start w, (a.startingAt id).verify = .error (.violated (.loop start w)) ↔
      a.graph.getValue id = some start ∧ ∃ visited last, a.graph.Visits start visited last ∧
        (visited.map Value.id).Nodup ∧ a.graph.origin? last = some w ∧
        w.id ∈ visited.map Value.id := by
  have hwalk : (a.startingAt id).walk = (a.graph.chainTo id).mapError .violated :=
    ChainContract.walk_eq_chainTo rfl
  refine ⟨fun start hstart ↦ ?_, fun chain h ↦ ?_, fun start w ↦ ?_⟩
  · obtain ⟨n, outcome, hn, hrounds, hchain⟩ := CallGraph.chainTo_eq_outcome hstart
    refine ⟨n, outcome, hn, fun m outcome' ↦ ⟨hrounds.unique, ?_⟩, by rw [hwalk, hchain]⟩
    rintro ⟨rfl, rfl⟩
    exact hrounds
  · have hchain := (ChainContract.verify_eq_ok_iff.1 h).1
    rw [hwalk, mapError_eq_ok_iff, CallGraph.chainTo_eq_ok_iff] at hchain
    -- a call is followed out of one value only, since it leads back to its result
    obtain ⟨walk, hstart, hback, hlinks, hsteps, -⟩ := hchain
    rw [Chain.valueSteps, Chain.callSteps, hsteps, CallGraph.filterMap_value?_steps,
      CallGraph.filterMap_call?_steps, List.map_reverse, List.nodup_reverse]
    refine ⟨hback.ids_nodup (CallGraph.getValue_self hstart), ?_⟩
    exact CallGraph.callIds_nodup (List.nodup_reverse.2 hback.nodup) (by simpa using hlinks)
  · rw [← CallGraph.chainTo_eq_loop_iff, ChainContract.verify_eq_error_iff, hwalk]
    constructor
    · rintro (h | ⟨_, v, -, hend, he⟩)
      · obtain ⟨e, he, hv⟩ := mapError_eq_error_iff.1 h
        obtain rfl := ChainFault.violated.inj hv
        exact he
      · obtain rfl := ChainFault.violated.inj he
        cases hend
    · intro h
      exact .inl (mapError_eq_error_iff.2 ⟨_, h, rfl⟩)

end GraphContracts
