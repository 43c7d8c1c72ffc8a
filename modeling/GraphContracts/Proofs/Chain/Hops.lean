import GraphContracts.Proofs.Chain.Forward

namespace GraphContracts

namespace MethodScope

/-- What a walk stops with at a hop from a value, where `soFar` was found before: no call fits, the
first that does has no result, or what is taken for its result is of another kind. -/
inductive StopsAt (s : MethodScope) (soFar : List ChainStep) (v : Value) (h : Hop) :
    ChainViolation → Prop
  | noCall : (∀ c, ¬s.Fits v h c) → StopsAt s soFar v h (.noHop h.1 h.2 v s.label soFar)
  | noResult {c : Call} : s.FitsFirst v h c → s.graph.resultOf c = none →
      StopsAt s soFar v h (.noResult c h.1 h.2)
  | otherKind {c : Call} {w : Value} : s.FitsFirst v h c → s.graph.resultOf c = some w →
      w.kind ≠ .result → StopsAt s soFar v h (.notAResult c w)

/-- What a walk stops with at one of the hops, behind a path through those before it. -/
def StopsAlong (s : MethodScope) (soFar : List ChainStep) (v : Value) (hops : List Hop)
    (e : ChainViolation) : Prop :=
  ∃ done h rest path, hops = done ++ h :: rest ∧ s.Path s.FitsFirst v done path ∧
    s.StopsAt (soFar ++ pathSteps path) (pathEnd v path) h e

def chainAlong (start : Value) (path : List (Call × Value)) : Chain :=
  ⟨.value start :: pathSteps path, start, pathEnd start path, path.length⟩

variable {s : MethodScope} {v w : Value} {h : Hop} {c : Call} {hops : List Hop}
  {soFar : List ChainStep} {path : List (Call × Value)} {e : ChainViolation}

theorem hopCall_eq_none_iff : s.hopCall v h = none ↔ ∀ c, ¬s.Fits v h c := by
  have hnone : s.hopCall v h = none ↔ ∀ c ∈ s.graph.calls, ¬s.Fits v h c :=
    NodeQuery.first_eq_none_iff_of_accepts fun _ hd ↦ hop_accepts_iff hd
  rw [hnone]
  exact ⟨fun hno c hc ↦ hno c hc.mem hc, fun hno c _ ↦ hno c⟩

theorem stepForward_eq_error_iff : s.stepForward soFar v h = .error e ↔ s.StopsAt soFar v h e := by
  constructor
  · intro hstep
    unfold stepForward at hstep
    cases hcall : s.hopCall v h with
    | none =>
      simp only [hcall, Except.error.injEq] at hstep
      exact hstep ▸ .noCall (hopCall_eq_none_iff.1 hcall)
    | some c =>
      have hfirst := hopCall_eq_some_iff.1 hcall
      cases hresult : s.graph.resultOf c with
      | none =>
        simp only [hcall, hresult, Except.error.injEq] at hstep
        exact hstep ▸ .noResult hfirst hresult
      | some w =>
        by_cases hkind : w.kind = .result
        · simp [hcall, hresult, hkind] at hstep
        · simp only [hcall, hresult, hkind, if_false, Except.error.injEq] at hstep
          exact hstep ▸ .otherKind hfirst hresult hkind
  · intro hstop
    cases hstop with
    | noCall hno => simp only [stepForward, hopCall_eq_none_iff.2 hno]
    | noResult hfirst hresult => simp only [stepForward, hopCall_eq_some_iff.2 hfirst, hresult]
    | otherKind hfirst hresult hkind =>
      simp only [stepForward, hopCall_eq_some_iff.2 hfirst, hresult, hkind, if_false]

theorem not_stopsAlong_nil : ¬s.StopsAlong soFar v [] e := by
  rintro ⟨done, h, rest, path, hhops, -⟩
  simp at hhops

theorem stopsAlong_cons_iff : s.StopsAlong soFar v (h :: hops) e ↔ s.StopsAt soFar v h e ∨
    ∃ c w, s.FitsFirst v h c ∧ s.graph.resultOf c = some w ∧ w.kind = .result ∧
      s.StopsAlong (soFar ++ [.call c, .value w]) w hops e := by
  constructor
  · rintro ⟨done, h', rest, path, hhops, hpath, hstop⟩
    cases hpath with
    | nil =>
      obtain ⟨rfl, rfl⟩ := List.cons.inj hhops
      exact .inl (by simpa [pathSteps, pathEnd] using hstop)
    | @cons _ w _ c done path hc hw hkind hpath =>
      obtain ⟨rfl, hrest⟩ := List.cons.inj hhops
      refine .inr ⟨c, w, hc, hw, hkind, done, h', rest, path, hrest, hpath, ?_⟩
      simpa [pathSteps, pathEnd] using hstop
  · rintro (hstop | ⟨c, w, hc, hw, hkind, done, h', rest, path, rfl, hpath, hstop⟩)
    · exact ⟨[], h, hops, [], rfl, .nil v, by simpa [pathSteps, pathEnd] using hstop⟩
    · refine ⟨h :: done, h', rest, (c, w) :: path, rfl, .cons hc hw hkind hpath, ?_⟩
      simpa [pathSteps, pathEnd] using hstop

theorem walkForward_eq_error_iff :
    s.walkForward soFar v hops = .error e ↔ s.StopsAlong soFar v hops e := by
  induction hops generalizing soFar v with
  | nil => simp [walkForward, not_stopsAlong_nil]
  | cons h hops ih =>
    rw [walkForward, bind_eq_error_iff, stopsAlong_cons_iff, stepForward_eq_error_iff]
    simp only [Prod.exists, stepForward_eq_ok_iff, ih, and_assoc]

theorem chainFrom_eq_error_iff {name : String} : s.chainFrom name hops = .error e ↔
    s.startOf name = none ∧ e = .noVariable name s.label ∨
      ∃ start, s.startOf name = some start ∧ s.StopsAlong [.value start] start hops e := by
  unfold chainFrom
  cases s.startOf name with
  | none => simp [eq_comm]
  | some start =>
    simp only [bind_eq_error_iff, walkForward_eq_error_iff]
    simp [pure, Except.pure]

theorem chainFrom_eq_ok_iff_chainAlong {name : String} {chain : Chain} :
    s.chainFrom name hops = .ok chain ↔ ∃ start path, s.startOf name = some start ∧
      s.Path s.FitsFirst start hops path ∧ chain = chainAlong start path := by
  rw [chainFrom_eq_ok_iff]
  refine exists₂_congr fun start path ↦ and_congr_right fun _ ↦ and_congr_right fun hpath ↦ ?_
  rw [chainAlong, hpath.length_eq]

end MethodScope

namespace ChainContract

open MethodScope

/-- The verdict on a chain with hops. What is returned is the chain of the path that takes the first
fitting call at each hop, if there is one and its end is as asked for. Every other outcome is a
violation: the variable has no value to start from, the walk stops at a hop, or the end is not as
asked for. -/
theorem verdict_of_hops {a : ChainContract} {name : String} (hid : a.startValueId = none)
    (hname : a.startVariable = some name) (hhops : a.hops ≠ []) :
    (∀ chain, a.verify = .ok chain ↔ ∃ start path, a.scope.startOf name = some start ∧
      a.scope.Path a.scope.FitsFirst start a.hops path ∧ path.length = a.hops.length ∧
      chain = chainAlong start path ∧ a.KindMet chain ∧ a.LengthMet chain) ∧
    ∀ fault, a.verify = .error fault ↔ ∃ e, fault = .violated e ∧
      (a.scope.startOf name = none ∧ e = .noVariable name a.scope.label ∨
        ∃ start, a.scope.startOf name = some start ∧
          (a.scope.StopsAlong [.value start] start a.hops e ∨
            ∃ path, a.scope.Path a.scope.FitsFirst start a.hops path ∧
              a.BreaksEnd (chainAlong start path) e)) := by
  have hwalk := walk_eq_chainFrom hid hname hhops
  constructor
  · intro chain
    rw [verify_eq_ok_iff, brokenEnd?_eq_none_iff, hwalk, mapError_eq_ok_iff,
      chainFrom_eq_ok_iff_chainAlong]
    constructor
    · rintro ⟨⟨start, path, hstart, hpath, hchain⟩, hend⟩
      exact ⟨start, path, hstart, hpath, hpath.length_eq, hchain, hend⟩
    · rintro ⟨start, path, hstart, hpath, -, hchain, hend⟩
      exact ⟨⟨start, path, hstart, hpath, hchain⟩, hend⟩
  · intro fault
    rw [verify_eq_error_iff, hwalk, mapError_eq_error_iff]
    simp only [mapError_eq_ok_iff, chainFrom_eq_ok_iff_chainAlong, chainFrom_eq_error_iff]
    constructor
    · -- the variable, one of the hops, or a condition on the end
      rintro (⟨e, he | ⟨start, hstart, hstop⟩, rfl⟩ |
        ⟨_, e, ⟨start, path, hstart, hpath, rfl⟩, hend, rfl⟩)
      · exact ⟨e, rfl, .inl he⟩
      · exact ⟨e, rfl, .inr ⟨start, hstart, .inl hstop⟩⟩
      · exact ⟨e, rfl, .inr ⟨start, hstart, .inr ⟨path, hpath, hend⟩⟩⟩
    · rintro ⟨e, rfl, he | ⟨start, hstart, hstop | ⟨path, hpath, hend⟩⟩⟩
      · exact .inl ⟨e, .inl he, rfl⟩
      · exact .inl ⟨e, .inr ⟨start, hstart, hstop⟩, rfl⟩
      · exact .inr ⟨_, e, ⟨start, path, hstart, hpath, rfl⟩, hend, rfl⟩

end ChainContract

namespace TwoAccesses

theorem stopsAlong_saving : saving.scope.StopsAlong [.value object] object saving.hops
    (.noHop .method "save" (result "a1") "App\\Service::run"
      [.value object, .call (access "a1"), .value (result "a1")]) := by
  refine ⟨orders.hops, (.method, "save"), [], _, rfl, path_orders, .noCall ?_⟩
  apply MethodScope.hopCall_eq_none_iff.1
  decide

theorem verdicts_of_orders :
    orders.verify = .ok (MethodScope.chainAlong object [(access "a1", result "a1")]) ∧
    (orders.withLength 2).verify = .error (.violated
      (.wrongLength 2 (MethodScope.chainAlong object [(access "a1", result "a1")]))) ∧
    saving.verify = .error (.violated (.noHop .method "save" (result "a1") "App\\Service::run"
      [.value object, .call (access "a1"), .value (result "a1")])) := by
  have hstart : orders.scope.startOf "$this" = some object := by decide
  refine ⟨?_, ?_, ?_⟩
  · apply ((ChainContract.verdict_of_hops rfl rfl (by decide)).1 _).2
    exact ⟨object, _, hstart, path_orders, rfl, rfl, nofun, nofun⟩
  · apply ((ChainContract.verdict_of_hops rfl rfl (by decide)).2 _).2
    refine ⟨_, rfl, .inr ⟨object, hstart, .inr ⟨_, path_orders, ?_⟩⟩⟩
    exact .length nofun rfl (by decide)
  · apply ((ChainContract.verdict_of_hops rfl rfl (by decide)).2 _).2
    exact ⟨_, rfl, .inr ⟨object, hstart, .inl stopsAlong_saving⟩⟩

end TwoAccesses

end GraphContracts
