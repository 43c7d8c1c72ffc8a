import GraphContracts.Proofs.Chain.Verify
import GraphContracts.Proofs.Lookup

namespace GraphContracts.CallGraph

/-- The call that a walk follows out of a value, where no other value is its source. -/
def producer? (g : CallGraph) (v : Value) : Option Call :=
  match v.sourceValueId with
  | some _ => none
  | none => v.sourceCallId.bind g.getCall

/-- The value behind a value: its source, or else the receiver of the call that produced it. -/
def origin? (g : CallGraph) (v : Value) : Option Value :=
  match v.sourceValueId with
  | some id => g.getValue id
  | none => (v.sourceCallId.bind g.getCall).bind fun c ↦ c.receiverValueId.bind g.getValue

/-- A value where walks end: it has no source, or it came out of a call without a receiver. -/
def IsRoot (g : CallGraph) (v : Value) : Prop :=
  v.sourceValueId = none ∧
    (v.sourceCallId = none ∨ ∃ c, g.producer? v = some c ∧ c.receiverValueId = none)

/-- The values from a value back to a root, each the origin of the one before. -/
inductive BackwardWalk (g : CallGraph) : Value → List Value → Prop
  | root {v : Value} (h : g.IsRoot v) : BackwardWalk g v [v]
  | step {v w : Value} {walk : List Value} (h : g.origin? v = some w) :
      BackwardWalk g w walk → BackwardWalk g v (v :: walk)

/-- The links of a value lead somewhere, and the call that is followed leads back to the value. -/
structure LinksHold (g : CallGraph) (v : Value) : Prop where
  sourceValue : ∀ id, v.sourceValueId = some id → ∃ w, g.getValue id = some w
  sourceCall : ∀ id, v.sourceCallId = some id → ∃ c, g.getCall id = some c
  result : ∀ c, g.producer? v = some c → g.resultOf c = some v
  receiver : ∀ c, g.producer? v = some c →
    ∀ id, c.receiverValueId = some id → ∃ w, g.getValue id = some w

def stepsInto (g : CallGraph) (v : Value) : List ChainStep :=
  (g.producer? v).toList.map .call ++ [.value v]

variable {g : CallGraph} {v w start root : Value} {walk walk' : List Value}

theorem origin?_self (h : g.origin? v = some w) : g.getValue w.id = some w := by
  unfold origin? at h
  split at h
  · exact getValue_self h
  · obtain ⟨c, -, hc⟩ := Option.bind_eq_some_iff.1 h
    obtain ⟨id, -, hid⟩ := Option.bind_eq_some_iff.1 hc
    exact getValue_self hid

theorem IsRoot.origin?_eq_none (h : g.IsRoot v) : g.origin? v = none := by
  obtain ⟨hv, hc | ⟨c, hc, hr⟩⟩ := h
  · simp [origin?, hv, hc]
  · simp only [producer?, hv] at hc
    simp [origin?, hv, hc, hr]

theorem LinksHold.isRoot (hl : g.LinksHold v) (h : g.origin? v = none) : g.IsRoot v := by
  cases hv : v.sourceValueId with
  | some id =>
    obtain ⟨w, hw⟩ := hl.sourceValue id hv
    simp [origin?, hv, hw] at h
  | none =>
    refine ⟨hv, ?_⟩
    cases hc : v.sourceCallId with
    | none => exact .inl rfl
    | some id =>
      obtain ⟨c, hget⟩ := hl.sourceCall id hc
      have hp : g.producer? v = some c := by simp [producer?, hv, hc, hget]
      refine .inr ⟨c, hp, ?_⟩
      cases hr : c.receiverValueId with
      | none => rfl
      | some rid =>
        obtain ⟨w, hw⟩ := hl.receiver c hp rid hr
        simp [origin?, hv, hc, hget, hr, hw] at h

theorem BackwardWalk.head_eq (h : g.BackwardWalk v walk) : ∃ rest, walk = v :: rest := by
  cases h with
  | root => exact ⟨[], rfl⟩
  | step => exact ⟨_, rfl⟩

theorem backwardWalk_of_origin_eq_none (h : g.origin? v = none) :
    g.BackwardWalk v walk ↔ walk = [v] ∧ g.IsRoot v := by
  constructor
  · intro hw
    cases hw with
    | root hr => exact ⟨rfl, hr⟩
    | step hs => rw [h] at hs; cases hs
  · rintro ⟨rfl, hr⟩
    exact .root hr

theorem backwardWalk_of_origin_eq_some (h : g.origin? v = some w) :
    g.BackwardWalk v walk ↔ ∃ rest, walk = v :: rest ∧ g.BackwardWalk w rest := by
  constructor
  · intro hw
    cases hw with
    | root hr => rw [hr.origin?_eq_none] at h; cases h
    | @step v w' rest hs ht =>
      obtain rfl : w' = w := Option.some.inj (hs.symm.trans h)
      exact ⟨rest, rfl, ht⟩
  · rintro ⟨rest, rfl, ht⟩
    exact .step h ht

theorem BackwardWalk.unique (h : g.BackwardWalk v walk) (h' : g.BackwardWalk v walk') :
    walk = walk' := by
  induction h generalizing walk' with
  | root hr => exact ((backwardWalk_of_origin_eq_none hr.origin?_eq_none).1 h').1.symm
  | step hs _ ih =>
    obtain ⟨rest, rfl, hrest⟩ := (backwardWalk_of_origin_eq_some hs).1 h'
    rw [ih hrest]

theorem BackwardWalk.self (h : g.BackwardWalk v walk) (hv : g.getValue v.id = some v) :
    ∀ w ∈ walk, g.getValue w.id = some w := by
  induction h with
  | root => simpa using hv
  | step hs _ ih =>
    intro w hw
    rcases List.mem_cons.1 hw with rfl | hw
    · exact hv
    · exact ih (origin?_self hs) w hw

theorem BackwardWalk.suffix (h : g.BackwardWalk v walk) (hw : w ∈ walk) :
    ∃ before rest, walk = before ++ w :: rest ∧ g.BackwardWalk w (w :: rest) := by
  induction h with
  | root hr =>
    obtain rfl := List.mem_singleton.1 hw
    exact ⟨[], [], rfl, .root hr⟩
  | @step v x walk hs ht ih =>
    rcases List.mem_cons.1 hw with rfl | hw
    · exact ⟨[], walk, rfl, .step hs ht⟩
    · obtain ⟨before, rest, rfl, hrest⟩ := ih hw
      exact ⟨v :: before, rest, rfl, hrest⟩

theorem BackwardWalk.nodup (h : g.BackwardWalk v walk) : walk.Nodup := by
  induction h with
  | root => exact List.nodup_singleton _
  | @step v w walk hs ht ih =>
    refine List.nodup_cons.2 ⟨fun hv ↦ ?_, ih⟩
    obtain ⟨before, rest, he, hrest⟩ := ht.suffix hv
    have hlen := congrArg List.length ((BackwardWalk.step hs ht).unique hrest)
    rw [he] at hlen
    simp only [List.length_cons, List.length_append] at hlen
    omega

theorem BackwardWalk.ids_nodup (h : g.BackwardWalk v walk) (hv : g.getValue v.id = some v) :
    (walk.map Value.id).Nodup :=
  List.Nodup.map_on (fun a ha b hb he ↦ eq_of_id_eq (h.self hv a ha) (h.self hv b hb) he) h.nodup

theorem sourceValue_eq_ok_iff {o : Option Value} :
    g.sourceValue v = .ok o ↔
      (∀ id, v.sourceValueId = some id → ∃ w, g.getValue id = some w) ∧
        o = v.sourceValueId.bind g.getValue := by
  unfold sourceValue
  cases hs : v.sourceValueId with
  | none => simp [eq_comm]
  | some id => cases hw : g.getValue id <;> simp [hw, eq_comm]

theorem sourceCall_eq_ok_iff {o : Option Call} :
    g.sourceCall v = .ok o ↔
      (∀ id, v.sourceCallId = some id → ∃ c, g.getCall id = some c) ∧
        o = v.sourceCallId.bind g.getCall := by
  unfold sourceCall
  cases hs : v.sourceCallId with
  | none => simp [eq_comm]
  | some id => cases hc : g.getCall id <;> simp [hc, eq_comm]

theorem throughCall_eq_ok_iff (hv : g.getValue v.id = some v) {c : Call} {b : BackStep} :
    g.throughCall v c = .ok b ↔
      (g.resultOf c = some v ∧ ∀ id, c.receiverValueId = some id → ∃ w, g.getValue id = some w) ∧
        b = ⟨some c, c.receiverValueId.bind g.getValue⟩ := by
  unfold throughCall
  rw [← resultOf_id_eq_some hv]
  by_cases hr : (g.resultOf c).map Value.id = some v.id
  · simp only [hr, if_true, true_and]
    cases hc : c.receiverValueId with
    | none => simp [eq_comm]
    | some id => cases hw : g.getValue id <;> simp [hw, eq_comm]
  · simp only [hr, if_false, false_and, reduceCtorEq]

theorem origin?_eq_receiver (hs : v.sourceValueId = none) :
    g.origin? v = (g.producer? v).bind fun c ↦ c.receiverValueId.bind g.getValue := by
  simp only [origin?, producer?, hs]

theorem linksHold_of_sourceValue {id : String} (hs : v.sourceValueId = some id) :
    g.LinksHold v ↔ (∃ w, g.getValue id = some w) ∧
      ∀ id, v.sourceCallId = some id → ∃ c, g.getCall id = some c := by
  have hp : g.producer? v = none := by simp only [producer?, hs]
  constructor
  · intro h
    exact ⟨h.sourceValue id hs, h.sourceCall⟩
  · rintro ⟨hvalue, hcall⟩
    refine ⟨?_, hcall, by simp [hp], by simp [hp]⟩
    rintro id' hid
    rwa [← Option.some.inj (hs.symm.trans hid)]

theorem linksHold_of_no_sourceValue (hs : v.sourceValueId = none) :
    g.LinksHold v ↔ (∀ id, v.sourceCallId = some id → ∃ c, g.getCall id = some c) ∧
      ∀ c, g.producer? v = some c → g.resultOf c = some v ∧
        ∀ id, c.receiverValueId = some id → ∃ w, g.getValue id = some w := by
  constructor
  · intro h
    exact ⟨h.sourceCall, fun c hc ↦ ⟨h.result c hc, h.receiver c hc⟩⟩
  · rintro ⟨hcall, hp⟩
    exact ⟨by simp [hs], hcall, fun c hc ↦ (hp c hc).1, fun c hc ↦ (hp c hc).2⟩

theorem stepBack_eq_ok_iff (hv : g.getValue v.id = some v) {b : BackStep} :
    g.stepBack v = .ok b ↔ g.LinksHold v ∧ b = ⟨g.producer? v, g.origin? v⟩ := by
  simp only [stepBack, bind_eq_ok_iff, sourceValue_eq_ok_iff, sourceCall_eq_ok_iff]
  cases hs : v.sourceValueId with
  | some id =>
    rw [linksHold_of_sourceValue hs]
    simp only [producer?, origin?, hs]
    cases hw : g.getValue id with
    | none => simp [hw]
    | some w => simp [hw, pure, Except.pure, eq_comm]
  | none =>
    rw [linksHold_of_no_sourceValue hs, origin?_eq_receiver hs]
    have hp : g.producer? v = v.sourceCallId.bind g.getCall := by simp only [producer?, hs]
    rw [hp]
    cases hc : v.sourceCallId.bind g.getCall with
    | none => simp [pure, Except.pure, eq_comm]
    | some c => simp [throughCall_eq_ok_iff hv, and_assoc]

variable {fuel : ℕ} {seen : List String} {older steps : List ChainStep}

theorem before_stepsInto (next : Option Value) (older : List ChainStep) :
    BackStep.before ⟨g.producer? v, next⟩ (.value v :: older) = g.stepsInto v ++ older := by
  cases hp : g.producer? v <;> simp [BackStep.before, stepsInto, hp]

theorem walkBack_succ (hv : g.getValue v.id = some v) (hl : g.LinksHold v) :
    g.walkBack start (fuel + 1) seen (.value v :: older) v =
      match g.origin? v with
      | none => .ok (g.stepsInto v ++ older, v)
      | some w =>
        if w.id ∈ seen then .error (.loop start w)
        else g.walkBack start fuel (w.id :: seen) (.value w :: (g.stepsInto v ++ older)) w := by
  have hstep := (stepBack_eq_ok_iff hv).2 ⟨hl, rfl⟩
  rw [walkBack, hstep]
  simp only [bind, Except.bind, before_stepsInto, pure, Except.pure]
  cases g.origin? v with
  | none => rfl
  | some w => simp only [List.contains_iff_mem]

theorem linksHold_of_walkBack (hv : g.getValue v.id = some v)
    (h : g.walkBack start (fuel + 1) seen (.value v :: older) v = .ok (steps, root)) :
    g.LinksHold v := by
  rw [walkBack, bind_eq_ok_iff] at h
  obtain ⟨b, hb, -⟩ := h
  exact ((stepBack_eq_ok_iff hv).1 hb).1

/-- The walk with its fuel and the ids seen so far. The ids seen are told apart and known to
lookups, so the fuel is never used up before the walk ends or comes back. -/
theorem walkBack_eq_ok_iff (hv : g.getValue v.id = some v) (hseen : seen.Nodup)
    (hknown : ∀ id ∈ seen, g.hasValue id = true)
    (hfuel : fuel + seen.length = g.valuesById.length + 1) :
    g.walkBack start fuel seen (.value v :: older) v = .ok (steps, root) ↔
      ∃ walk, g.BackwardWalk v walk ∧ ((walk.tail.map Value.id).reverse ++ seen).Nodup ∧
        (∀ w ∈ walk, g.LinksHold w) ∧ steps = walk.reverse.flatMap g.stepsInto ++ older ∧
        walk.getLast? = some root := by
  -- `hfuel` leaves a round for each id that lookups know and that was not seen yet
  induction fuel generalizing v seen older with
  | zero =>
    -- more ids would have been seen than lookups know
    have hle := length_le_valuesById hseen hknown
    omega
  | succ fuel ih =>
    -- a broken link ends the round, and no walk of the other side has one
    by_cases hl : g.LinksHold v
    swap
    · refine ⟨fun h ↦ absurd (linksHold_of_walkBack hv h) hl, ?_⟩
      rintro ⟨walk, hwalk, -, hall, -⟩
      obtain ⟨rest, rfl⟩ := hwalk.head_eq
      exact absurd (hall v List.mem_cons_self) hl
    rw [walkBack_succ hv hl]
    cases ho : g.origin? v with
    | none =>
      simp only [backwardWalk_of_origin_eq_none ho, and_assoc, exists_eq_left]
      simp [hl, hl.isRoot ho, hseen, eq_comm]
    | some w =>
      simp only [backwardWalk_of_origin_eq_some ho]
      have hw := origin?_self ho
      by_cases hmem : w.id ∈ seen
      · -- an id that comes back would stand twice among the ids of the walk
        rw [if_pos hmem]
        refine ⟨nofun, ?_⟩
        rintro ⟨_, ⟨rest, rfl, hrest⟩, hnodup, -⟩
        obtain ⟨more, rfl⟩ := hrest.head_eq
        have hdis := (List.nodup_append.1 hnodup).2.2
        exact absurd rfl (hdis w.id (by simp) w.id hmem)
      · have hknown' : ∀ id ∈ w.id :: seen, g.hasValue id = true := by
          intro id hid
          rcases List.mem_cons.1 hid with rfl | hid
          · simp [hasValue, hw]
          · exact hknown id hid
        rw [if_neg hmem, ih hw (List.nodup_cons.2 ⟨hmem, hseen⟩) hknown'
          (by simp only [List.length_cons]; omega)]
        constructor
        · rintro ⟨rest, hrest, hnodup, hall, rfl, hroot⟩
          obtain ⟨more, rfl⟩ := hrest.head_eq
          refine ⟨v :: w :: more, ⟨_, rfl, hrest⟩, ?_, ?_, ?_, ?_⟩
          · simpa using hnodup
          · simpa [hl] using hall
          · simp
          · simpa using hroot
        · rintro ⟨_, ⟨rest, rfl, hrest⟩, hnodup, hall, rfl, hroot⟩
          obtain ⟨more, rfl⟩ := hrest.head_eq
          refine ⟨w :: more, hrest, ?_, ?_, ?_, ?_⟩
          · simpa using hnodup
          · exact fun x hx ↦ hall x (List.mem_cons_of_mem _ hx)
          · simp
          · simpa using hroot

theorem filterMap_value?_steps (values : List Value) :
    (values.flatMap g.stepsInto).filterMap ChainStep.value? = values := by
  induction values with
  | nil => rfl
  | cons v values ih =>
    rw [List.flatMap_cons, List.filterMap_append, ih, stepsInto]
    cases g.producer? v <;> rfl

theorem filterMap_call?_steps (values : List Value) :
    (values.flatMap g.stepsInto).filterMap ChainStep.call? = values.filterMap g.producer? := by
  induction values with
  | nil => rfl
  | cons v values ih =>
    rw [List.flatMap_cons, List.filterMap_append, ih, stepsInto, List.filterMap_cons]
    cases g.producer? v <;> rfl

theorem chainTo_eq_ok_iff {id : String} {chain : Chain} :
    g.chainTo id = .ok chain ↔
      ∃ walk, g.getValue id = some chain.final ∧ g.BackwardWalk chain.final walk ∧
        (∀ v ∈ walk, g.LinksHold v) ∧ chain.steps = walk.reverse.flatMap g.stepsInto ∧
        walk.getLast? = some chain.root ∧ chain.stepCount = chain.callSteps.length := by
  unfold chainTo
  cases hs : g.getValue id with
  | none => simp
  | some start =>
    have hstart := getValue_self hs
    have hknown : ∀ i ∈ [start.id], g.hasValue i = true := by
      simp [hasValue, hstart]
    simp only [bind_eq_ok_iff, Prod.exists,
      walkBack_eq_ok_iff hstart (List.nodup_singleton _) hknown rfl]
    constructor
    · rintro ⟨_, root, ⟨walk, hwalk, -, hall, rfl, hroot⟩, h⟩
      obtain rfl := Except.ok.inj h
      exact ⟨walk, rfl, hwalk, hall, by simp, hroot, rfl⟩
    · rintro ⟨walk, hfinal, hwalk, hall, hsteps, hroot, hcount⟩
      obtain ⟨steps, root, final, stepCount⟩ := chain
      obtain rfl := Option.some.inj hfinal
      obtain ⟨rest, rfl⟩ := hwalk.head_eq
      have hids := hwalk.ids_nodup hstart
      refine ⟨steps, root, ⟨_, hwalk, ?_, hall, by simpa using hsteps, hroot⟩, ?_⟩
      · rwa [← List.nodup_reverse, List.map_cons, List.reverse_cons] at hids
      · simp only [Chain.callSteps] at hcount
        subst hcount
        rfl

end GraphContracts.CallGraph

namespace GraphContracts

/-- A value has a chain exactly when its walk ends without coming back to an id, and every link on
the way holds. The chain is then the walk in reverse, with the calls that were followed. -/
theorem startingAt_verify_eq_ok_iff (g : CallGraph) (s : String) (chain : Chain) :
    ((ChainContract.ofGraph g).startingAt s).verify = .ok chain ↔
      ∃ walk, g.getValue s = some chain.final ∧ g.BackwardWalk chain.final walk ∧
        (walk.map Value.id).Nodup ∧ (∀ v ∈ walk, g.LinksHold v) ∧
        chain.steps = walk.reverse.flatMap g.stepsInto ∧ chain.valueSteps = walk.reverse ∧
        chain.callSteps = walk.reverse.filterMap g.producer? ∧
        walk.getLast? = some chain.root ∧ chain.stepCount = chain.callSteps.length := by
  rw [ChainContract.verify_startingAt, mapError_eq_ok_iff, CallGraph.chainTo_eq_ok_iff]
  constructor
  · rintro ⟨walk, hs, hw, hall, hsteps, hroot, hcount⟩
    refine ⟨walk, hs, hw, hw.ids_nodup (CallGraph.getValue_self hs), hall, hsteps, ?_, ?_, hroot,
      hcount⟩
    · rw [Chain.valueSteps, hsteps, CallGraph.filterMap_value?_steps]
    · rw [Chain.callSteps, hsteps, CallGraph.filterMap_call?_steps]
  · rintro ⟨walk, hs, hw, -, hall, hsteps, -, -, hroot, hcount⟩
    exact ⟨walk, hs, hw, hall, hsteps, hroot, hcount⟩

end GraphContracts
