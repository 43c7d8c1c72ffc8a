import GraphContracts.Proofs.Chain.Backward
import GraphContracts.Proofs.Chain.Forward

namespace GraphContracts

namespace MethodScope

/-- Each result on a path names the call before it as its source, and no other value. -/
def LinkedBack (path : List (Call × Value)) : Prop :=
  ∀ c w, (c, w) ∈ path → w.sourceValueId = none ∧ w.sourceCallId = some c.id

variable {s : MethodScope} {v w : Value} {h : Hop} {c : Call} {hops : List Hop}
variable {path : List (Call × Value)} {name : String} {walk : List Value}

theorem LinkedBack.tail (hl : LinkedBack ((c, w) :: path)) : LinkedBack path :=
  fun c' w' hmem ↦ hl c' w' (List.mem_cons_of_mem _ hmem)

theorem startOf_self (hg : s.graph.UniqueIds) (h : s.startOf name = some v) :
    s.graph.getValue v.id = some v := by
  unfold startOf at h
  split at h
  · obtain ⟨id, -, hid⟩ := Option.bind_eq_some_iff.1 h
    exact CallGraph.getValue_self hid
  · rcases Option.or_eq_some_iff.1 h with h | ⟨-, h⟩
    · exact hg.getValue_eq (NodeQuery.mem_of_first h).1
    · exact hg.getValue_eq (NodeQuery.mem_of_first h).1

theorem pathEnd_self {fits : Value → Hop → Call → Prop} (hp : s.Path fits v hops path)
    (hv : s.graph.getValue v.id = some v) :
    s.graph.getValue (pathEnd v path).id = some (pathEnd v path) := by
  induction hp with
  | nil => exact hv
  | cons _ hw _ _ ih => exact ih (CallGraph.resultOf_self hw)

theorem producer?_of_fits (hg : s.graph.UniqueIds) (hc : s.Fits v h c)
    (hs : w.sourceValueId = none) (hw : w.sourceCallId = some c.id) :
    s.graph.producer? w = some c := by
  simp only [CallGraph.producer?, hs, hw, Option.bind_some, hg.getCall_eq hc.mem]

theorem origin?_of_fits (hg : s.graph.UniqueIds) (hc : s.Fits v h c)
    (hs : w.sourceValueId = none) (hw : w.sourceCallId = some c.id)
    (hv : s.graph.getValue v.id = some v) : s.graph.origin? w = some v := by
  rw [CallGraph.origin?_eq_receiver hs, producer?_of_fits hg hc hs hw, Option.bind_some,
    hc.receiver, Option.bind_some, hv]

theorem linksHold_of_fits (hg : s.graph.UniqueIds) (hc : s.Fits v h c)
    (hs : w.sourceValueId = none) (hw : w.sourceCallId = some c.id)
    (hv : s.graph.getValue v.id = some v) (hr : s.graph.resultOf c = some w) :
    s.graph.LinksHold w := by
  have hp := producer?_of_fits hg hc hs hw
  rw [CallGraph.linksHold_of_no_sourceValue hs, hp, hw]
  refine ⟨?_, ?_⟩
  · rintro id hid
    obtain rfl := Option.some.inj hid
    exact ⟨c, hg.getCall_eq hc.mem⟩
  · rintro d hd
    obtain rfl := Option.some.inj hd
    refine ⟨hr, fun id hid ↦ ⟨v, ?_⟩⟩
    rw [hc.receiver] at hid
    rw [← Option.some.inj hid, hv]

theorem Path.backwardWalk_iff (hg : s.graph.UniqueIds) (hp : s.Path s.Fits v hops path)
    (hl : LinkedBack path) (hv : s.graph.getValue v.id = some v) :
    s.graph.BackwardWalk (pathEnd v path) walk ↔
      ∃ rest, walk = (path.map Prod.snd).reverse ++ rest ∧ s.graph.BackwardWalk v rest := by
  induction hp generalizing walk with
  | nil => simp [pathEnd]
  | @cons v w h c hops path hc hw _ _ ih =>
    obtain ⟨hs, hcall⟩ := hl c w List.mem_cons_self
    have ho := origin?_of_fits hg hc hs hcall hv
    rw [pathEnd, ih hl.tail (CallGraph.resultOf_self hw)]
    simp only [CallGraph.backwardWalk_of_origin_eq_some ho]
    constructor
    · rintro ⟨_, rfl, rest, rfl, hrest⟩
      exact ⟨rest, by simp, hrest⟩
    · rintro ⟨rest, rfl, hrest⟩
      exact ⟨w :: rest, by simp, rest, rfl, hrest⟩

theorem Path.linksHold (hg : s.graph.UniqueIds) (hp : s.Path s.Fits v hops path)
    (hl : LinkedBack path) (hv : s.graph.getValue v.id = some v) :
    ∀ u ∈ path.map Prod.snd, s.graph.LinksHold u := by
  induction hp with
  | nil => simp
  | @cons v w h c hops path hc hw _ _ ih =>
    obtain ⟨hs, hcall⟩ := hl c w List.mem_cons_self
    intro u hu
    rcases List.mem_cons.1 hu with rfl | hu
    · exact linksHold_of_fits hg hc hs hcall hv hw
    · exact ih hl.tail (CallGraph.resultOf_self hw) u hu

theorem Path.flatMap_stepsInto (hg : s.graph.UniqueIds) (hp : s.Path s.Fits v hops path)
    (hl : LinkedBack path) :
    (path.map Prod.snd).flatMap s.graph.stepsInto = pathSteps path := by
  induction hp with
  | nil => rfl
  | @cons v w h c hops path hc _ _ _ ih =>
    obtain ⟨hs, hcall⟩ := hl c w List.mem_cons_self
    rw [List.map_cons, List.flatMap_cons, ih hl.tail, CallGraph.stepsInto,
      producer?_of_fits hg hc hs hcall]
    rfl

theorem infix_pathSteps (h : (c, w) ∈ path) : [.call c, .value w] <:+: pathSteps path := by
  obtain ⟨before, after, rfl⟩ := List.append_of_mem h
  exact ⟨pathSteps before, pathSteps after, by simp [pathSteps]⟩

theorem filterMap_call?_pathSteps :
    (pathSteps path).filterMap ChainStep.call? = path.map Prod.fst := by
  induction path with
  | nil => rfl
  | cons p path ih =>
    rw [pathSteps, List.flatMap_cons, List.filterMap_append, ← pathSteps, ih]
    rfl

theorem Path.suffix_of_chainTo {B : Chain} (hg : s.graph.UniqueIds)
    (hp : s.Path s.Fits v hops path) (hl : LinkedBack path)
    (hv : s.graph.getValue v.id = some v)
    (hB : s.graph.chainTo (pathEnd v path).id = .ok B) :
    (.value v :: pathSteps path) <:+ B.steps := by
  obtain ⟨walk, hget, hback, -, hsteps, -⟩ := CallGraph.chainTo_eq_ok_iff.1 hB
  have hfinal := Option.some.inj ((pathEnd_self hp hv).symm.trans hget)
  rw [← hfinal, hp.backwardWalk_iff hg hl hv] at hback
  obtain ⟨rest, rfl, hrest⟩ := hback
  obtain ⟨more, rfl⟩ := hrest.head_eq
  refine ⟨more.reverse.flatMap s.graph.stepsInto ++ (s.graph.producer? v).toList.map .call, ?_⟩
  rw [hsteps, ← hp.flatMap_stepsInto hg hl]
  simp [CallGraph.stepsInto]

theorem Path.chainTo_eq_ok (hg : s.graph.UniqueIds) (hp : s.Path s.Fits v hops path)
    (hl : LinkedBack path) (hv : s.graph.getValue v.id = some v)
    (hcall : v.sourceCallId = none) (hvalue : v.sourceValueId = none) :
    s.graph.chainTo (pathEnd v path).id =
      .ok ⟨.value v :: pathSteps path, v, pathEnd v path, hops.length⟩ := by
  have hproducer : s.graph.producer? v = none := by simp [CallGraph.producer?, hcall, hvalue]
  have hlinks : s.graph.LinksHold v := by
    rw [CallGraph.linksHold_of_no_sourceValue hvalue]
    simp [hcall, hproducer]
  rw [CallGraph.chainTo_eq_ok_iff]
  refine ⟨(path.map Prod.snd).reverse ++ [v], pathEnd_self hp hv, ?_, ?_, ?_, by simp, ?_⟩
  · rw [hp.backwardWalk_iff hg hl hv]
    exact ⟨[v], rfl, .root ⟨hvalue, .inl hcall⟩⟩
  · intro u hu
    rcases List.mem_append.1 hu with hu | hu
    · exact hp.linksHold hg hl hv u (List.mem_reverse.1 hu)
    · rwa [List.mem_singleton.1 hu]
  · rw [← hp.flatMap_stepsInto hg hl]
    simp [CallGraph.stepsInto, hproducer]
  · have hcalls : Chain.callSteps ⟨.value v :: pathSteps path, v, pathEnd v path, hops.length⟩ =
        path.map Prod.fst := filterMap_call?_pathSteps
    rw [hcalls, List.length_map, hp.length_eq]

end MethodScope

/-- A chain that was found forward is the end of every chain that leads back from its final value,
and where nothing leads on from its root it is that chain. -/
theorem backward_agrees_with_forward {a : ChainContract} {F : Chain} (hg : a.graph.UniqueIds)
    (hid : a.startValueId = none) (hF : a.verify = .ok F)
    (hlink : ∀ c w, [.call c, .value w] <:+: F.steps →
      w.sourceValueId = none ∧ w.sourceCallId = some c.id) :
    (∀ B, ((ChainContract.ofGraph a.graph).startingAt F.final.id).verify = .ok B →
      F.steps <:+ B.steps) ∧
    (F.root.sourceCallId = none → F.root.sourceValueId = none →
      ((ChainContract.ofGraph a.graph).startingAt F.final.id).verify = .ok F) := by
  have hwalk := (ChainContract.verify_eq_ok_iff.1 hF).1
  obtain ⟨name, -, -, hchain⟩ := (ChainContract.walk_eq_ok_iff_chainFrom hid).1 hwalk
  obtain ⟨start, path, hstart, hfirst, rfl⟩ := MethodScope.chainFrom_eq_ok_iff.1 hchain
  have hp := hfirst.mono fun _ _ _ h ↦ h.1
  have hl : MethodScope.LinkedBack path := fun c w hmem ↦
    hlink c w ((MethodScope.infix_pathSteps hmem).trans (List.suffix_cons _ _).isInfix)
  have hv := MethodScope.startOf_self hg hstart
  simp only [ChainContract.verify_startingAt, mapError_eq_ok_iff]
  exact ⟨fun B hB ↦ hp.suffix_of_chainTo hg hl hv hB,
    fun hcall hvalue ↦ hp.chainTo_eq_ok hg hl hv hcall hvalue⟩

namespace TwoAccesses

def swapped : CallGraph :=
  ⟨⟨"1.0", graph.values, [access "a2", access "a1", save]⟩, "<memory>"⟩

def savingSwapped : ChainContract :=
  { saving with graph := swapped }

def swappedChain : Chain :=
  ⟨[.value object, .call (access "a2"), .value (result "a2"), .call save, .value (result "s")],
    object, result "s", 2⟩

theorem savingSwapped_retraced : swapped.UniqueIds ∧ savingSwapped.verify = .ok swappedChain ∧
    ((ChainContract.ofGraph swapped).startingAt "s").verify = .ok swappedChain := by
  have hg : swapped.UniqueIds := ⟨by decide, by decide⟩
  have hF : savingSwapped.verify = .ok swappedChain := by decide
  have hlink : ∀ c w, [.call c, .value w] <:+: swappedChain.steps →
      w.sourceValueId = none ∧ w.sourceCallId = some c.id := by
    intro c w h
    simp [swappedChain, List.infix_cons_iff, List.prefix_cons_iff] at h
    obtain ⟨rfl, rfl⟩ | ⟨rfl, rfl⟩ := h
    · decide
    · decide
  exact ⟨hg, hF, (backward_agrees_with_forward hg rfl hF hlink).2 rfl rfl⟩

end TwoAccesses

end GraphContracts
