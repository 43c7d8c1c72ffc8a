import GraphContracts.Proofs.Chain.Verify
import GraphContracts.Proofs.Lookup
import GraphContracts.Proofs.Query

namespace GraphContracts

namespace MethodScope

structure Fits (s : MethodScope) (v : Value) (h : Hop) (c : Call) : Prop where
  mem : c ∈ s.graph.calls
  caller : s.encloses (some c.caller) = true
  receiver : c.receiverValueId = some v.id
  kind : c.kind = h.1
  callee : ∃ name, c.callee = some name ∧ h.2.toList <:+: name.toList

/-- A fitting call with no fitting call before it in the document. -/
def FitsFirst (s : MethodScope) (v : Value) (h : Hop) (c : Call) : Prop :=
  s.Fits v h c ∧ ∃ before after, s.graph.calls = before ++ c :: after ∧ ∀ d ∈ before, ¬s.Fits v h d

/-- Calls and results that lead through hops, where `fits` says which calls may be taken. -/
inductive Path (s : MethodScope) (fits : Value → Hop → Call → Prop) :
    Value → List Hop → List (Call × Value) → Prop
  | nil (v : Value) : Path s fits v [] []
  | cons {v w : Value} {h : Hop} {c : Call} {hops : List Hop} {path : List (Call × Value)} :
      fits v h c → s.graph.resultOf c = some w → w.kind = .result → Path s fits w hops path →
      Path s fits v (h :: hops) ((c, w) :: path)

def pathEnd (v : Value) : List (Call × Value) → Value
  | [] => v
  | (_, w) :: path => pathEnd w path

def pathSteps (path : List (Call × Value)) : List ChainStep :=
  path.flatMap fun (c, w) ↦ [.call c, .value w]

variable {s : MethodScope} {v w : Value} {h : Hop} {c d : Call} {hops : List Hop}
variable {path path' : List (Call × Value)} {fits fits' : Value → Hop → Call → Prop}

theorem Path.mono (hp : s.Path fits v hops path) (hf : ∀ v h c, fits v h c → fits' v h c) :
    s.Path fits' v hops path := by
  induction hp with
  | nil v => exact .nil v
  | cons hc hw hk _ ih => exact .cons (hf _ _ _ hc) hw hk ih

theorem Path.length_eq (hp : s.Path fits v hops path) : path.length = hops.length := by
  induction hp with
  | nil => rfl
  | cons _ _ _ _ ih => simp only [List.length_cons, ih]

theorem hop_accepts_iff (hc : c ∈ s.graph.calls) :
    (((s.calls.withReceiver v.id).kind h.1.name).calleeContains h.2).accepts c = true ↔
      s.Fits v h c := by
  simp only [NodeQuery.accepts_calleeContains_iff, calls, CallGraph.callQuery,
    NodeQuery.callerInScope, NodeQuery.withReceiver, NodeQuery.kind, NodeQuery.accepts_filtered,
    Bool.and_eq_true, decide_eq_true_eq]
  constructor
  · rintro ⟨⟨⟨⟨-, hcaller⟩, hreceiver⟩, hkind⟩, hcallee⟩
    exact ⟨hc, hcaller, hreceiver, CallKind.name_injective hkind, hcallee⟩
  · intro hf
    exact ⟨⟨⟨⟨rfl, hf.caller⟩, hf.receiver⟩, congrArg CallKind.name hf.kind⟩, hf.callee⟩

theorem hopCall_eq_some_iff : s.hopCall v h = some c ↔ s.FitsFirst v h c :=
  NodeQuery.first_eq_some_iff_of_accepts fun _ hd ↦ hop_accepts_iff hd

theorem stepForward_eq_ok_iff {steps : List ChainStep} :
    s.stepForward steps v h = .ok (c, w) ↔
      s.FitsFirst v h c ∧ s.graph.resultOf c = some w ∧ w.kind = .result := by
  rw [← hopCall_eq_some_iff, stepForward]
  cases s.hopCall v h with
  | none => simp
  | some d =>
    simp only [Option.some.injEq]
    cases hr : s.graph.resultOf d with
    | none =>
      simp only [reduceCtorEq, false_iff]
      rintro ⟨rfl, hw, -⟩
      rw [hr] at hw
      cases hw
    | some u =>
      by_cases hk : u.kind = .result
      · simp only [hk, if_true, Except.ok.injEq, Prod.mk.injEq]
        constructor
        · rintro ⟨rfl, rfl⟩
          exact ⟨rfl, hr, hk⟩
        · rintro ⟨rfl, hw, -⟩
          exact ⟨rfl, Option.some.inj (hr.symm.trans hw)⟩
      · simp only [hk, if_false, reduceCtorEq, false_iff]
        rintro ⟨rfl, hw, hk'⟩
        obtain rfl := Option.some.inj (hr.symm.trans hw)
        exact hk hk'

theorem walkForward_eq_ok_iff {steps steps' : List ChainStep} :
    s.walkForward steps v hops = .ok (steps', w) ↔ ∃ path, s.Path s.FitsFirst v hops path ∧
      steps' = steps ++ pathSteps path ∧ w = pathEnd v path := by
  induction hops generalizing steps v with
  | nil =>
    simp only [walkForward, Except.ok.injEq, Prod.mk.injEq]
    constructor
    · rintro ⟨rfl, rfl⟩
      exact ⟨[], .nil v, by simp [pathSteps], rfl⟩
    · rintro ⟨_, hp, rfl, rfl⟩
      cases hp
      exact ⟨by simp [pathSteps], rfl⟩
  | cons h hops ih =>
    rw [walkForward, bind_eq_ok_iff]
    simp only [Prod.exists, ih, stepForward_eq_ok_iff]
    constructor
    · rintro ⟨c, u, ⟨hc, hu, hk⟩, path, hp, rfl, rfl⟩
      exact ⟨(c, u) :: path, .cons hc hu hk hp, by simp [pathSteps], rfl⟩
    · rintro ⟨_, hp, rfl, rfl⟩
      cases hp with
      | @cons _ u _ c _ path hc hu hk hp =>
        exact ⟨c, u, ⟨hc, hu, hk⟩, path, hp, by simp [pathSteps], rfl⟩

theorem chainFrom_eq_ok_iff {name : String} {chain : Chain} :
    s.chainFrom name hops = .ok chain ↔ ∃ start path, s.startOf name = some start ∧
      s.Path s.FitsFirst start hops path ∧
      chain = ⟨.value start :: pathSteps path, start, pathEnd start path, hops.length⟩ := by
  unfold chainFrom
  cases s.startOf name with
  | none => simp
  | some start =>
    simp only [bind_eq_ok_iff, Prod.exists, walkForward_eq_ok_iff]
    constructor
    · rintro ⟨_, _, ⟨path, hp, rfl, rfl⟩, h⟩
      exact ⟨start, path, rfl, hp, (Except.ok.inj h).symm⟩
    · rintro ⟨_, path, h, hp, rfl⟩
      obtain rfl := Option.some.inj h
      exact ⟨_, _, ⟨path, hp, rfl, rfl⟩, rfl⟩

/-- At some hop of a path another fitting call stands before the one that the path takes. -/
def Overtaken (s : MethodScope) (v : Value) (hops : List Hop) (path : List (Call × Value)) : Prop :=
  ∃ (i : ℕ) (h : Hop) (w : Value) (c d : Call), hops[i]? = some h ∧
    (v :: path.map Prod.snd)[i]? = some w ∧ (path.map Prod.fst)[i]? = some c ∧
    s.Fits w h d ∧ d ≠ c ∧ [d, c].Sublist s.graph.calls

theorem Overtaken.cons (ho : s.Overtaken w hops path) :
    s.Overtaken v (h :: hops) ((c, w) :: path) := by
  obtain ⟨i, h', u, c', d, hh, hu, hc, hd⟩ := ho
  exact ⟨i + 1, h', u, c', d, hh, hu, hc, hd⟩

theorem fitsFirst_or_exists_before (hc : s.Fits v h c) :
    s.FitsFirst v h c ∨ ∃ d, s.Fits v h d ∧ d ≠ c ∧ [d, c].Sublist s.graph.calls := by
  obtain ⟨before, after, hcalls, hnot⟩ := List.eq_append_cons_of_mem hc.mem
  by_cases hall : ∀ d ∈ before, ¬s.Fits v h d
  · exact .inl ⟨hc, before, after, hcalls, hall⟩
  · push Not at hall
    obtain ⟨d, hd, hfits⟩ := hall
    refine .inr ⟨d, hfits, fun he ↦ hnot (he ▸ hd), ?_⟩
    rw [hcalls]
    exact (List.singleton_sublist.2 hd).append (List.singleton_sublist.2 List.mem_cons_self)

theorem Path.first_or_overtaken (hp : s.Path s.Fits v hops path) :
    s.Path s.FitsFirst v hops path ∨ s.Overtaken v hops path := by
  induction hp with
  | nil v => exact .inl (.nil v)
  | @cons v w h c hops path hc hw hk _ ih =>
    -- the first hop at which another call stands in front decides
    rcases fitsFirst_or_exists_before hc with hfirst | ⟨d, hd, hne, hbefore⟩
    · rcases ih with hrest | ho
      · exact .inl (.cons hfirst hw hk hrest)
      · exact .inr ho.cons
    · exact .inr ⟨0, h, v, c, d, rfl, rfl, rfl, hd, hne, hbefore⟩

end MethodScope

namespace ChainContract

/-- Where calls and results lead through the hops, a chain is returned exactly when the first
fitting calls lead through them too, and it is then theirs. Otherwise another fitting call stands
before one of those given. -/
theorem verify_of_path {a : ChainContract} {name : String} {start : Value}
    {path : List (Call × Value)} (hid : a.startValueId = none) (hname : a.startVariable = some name)
    (hhops : a.hops ≠ []) (hkind : a.endKind = none) (hlength : a.length = none)
    (hstart : a.scope.startOf name = some start)
    (hpath : a.scope.Path a.scope.Fits start a.hops path) :
    ((∃ chain, a.verify = .ok chain) ↔
      ∃ first, a.scope.Path a.scope.FitsFirst start a.hops first) ∧
    (a.scope.Path a.scope.FitsFirst start a.hops path →
      a.verify = .ok ⟨.value start :: MethodScope.pathSteps path, start,
        MethodScope.pathEnd start path, a.hops.length⟩) ∧
    ((∃ chain, a.verify = .ok chain) ∨
      (∃ e, a.verify = .error (.violated e)) ∧ a.scope.Overtaken start a.hops path) := by
  have hverify : a.verify = (a.scope.chainFrom name a.hops).mapError .violated := by
    rw [verify_eq_walk hkind hlength, walk_eq_chainFrom hid hname hhops]
  have hfirst : ∀ first, a.scope.Path a.scope.FitsFirst start a.hops first →
      a.verify = .ok ⟨.value start :: MethodScope.pathSteps first, start,
        MethodScope.pathEnd start first, a.hops.length⟩ := by
    intro first hp
    rw [hverify, mapError_eq_ok_iff, MethodScope.chainFrom_eq_ok_iff]
    exact ⟨start, first, hstart, hp, rfl⟩
  refine ⟨⟨?_, fun ⟨first, hp⟩ ↦ ⟨_, hfirst first hp⟩⟩, hfirst path, ?_⟩
  · rintro ⟨chain, h⟩
    rw [hverify, mapError_eq_ok_iff, MethodScope.chainFrom_eq_ok_iff] at h
    obtain ⟨start', first, hs, hp, -⟩ := h
    obtain rfl := Option.some.inj (hstart.symm.trans hs)
    exact ⟨first, hp⟩
  · cases h : a.scope.chainFrom name a.hops with
    | ok chain => exact .inl ⟨chain, by rw [hverify, h]; rfl⟩
    | error e =>
      rw [h] at hverify
      refine .inr ⟨⟨e, hverify⟩, hpath.first_or_overtaken.resolve_left fun hp ↦ ?_⟩
      rw [hfirst path hp] at hverify
      cases hverify

end ChainContract

namespace TwoAccesses

def object : Value :=
  ⟨"this", .parameter, none, none, none, none, none, none, none, none⟩

def result (id : String) : Value :=
  ⟨id, .result, none, none, none, none, some id, none, none, none⟩

def access (id : String) : Call :=
  ⟨id, .access, none, "App/Service#run().", some "App/Service#$orders.", none, some "this", none,
    none, []⟩

def save : Call :=
  ⟨"s", .method, none, "App/Service#run().", some "App/Orders#save().", none, some "a2", none,
    none, []⟩

def graph : CallGraph :=
  ⟨⟨"1.0", [object, result "a1", result "a2", result "s"], [access "a1", access "a2", save]⟩,
    "<memory>"⟩

def orders : ChainContract :=
  ((ChainContract.ofGraph graph).startingFrom "App\\Service" "run" "$this").throughAccess "orders"

def saving : ChainContract :=
  orders.throughMethod "save"

theorem encloses_caller : orders.scope.encloses (some "App/Service#run().") = true := by
  decide

theorem fits_access (id : String) (h : access id ∈ graph.calls) :
    orders.scope.Fits object (.access, "orders") (access id) where
  mem := h
  caller := encloses_caller
  receiver := rfl
  kind := rfl
  callee := ⟨_, rfl, "App/Service#$".toList, ".".toList, by decide⟩

theorem fits_save : orders.scope.Fits (result "a2") (.method, "save") save where
  mem := by decide
  caller := encloses_caller
  receiver := rfl
  kind := rfl
  callee := ⟨_, rfl, "App/Orders#".toList, "().".toList, by decide⟩

theorem path_saving : saving.scope.Path saving.scope.Fits object saving.hops
    [(access "a2", result "a2"), (save, result "s")] :=
  .cons (fits_access "a2" (by decide)) (by decide) rfl (.cons fits_save (by decide) rfl (.nil _))

theorem fitsFirst_access : orders.scope.FitsFirst object (.access, "orders") (access "a1") := by
  refine ⟨fits_access "a1" (by decide), [], [access "a2", save], ?_, by simp⟩
  decide

theorem path_orders : orders.scope.Path orders.scope.FitsFirst object orders.hops
    [(access "a1", result "a1")] :=
  .cons fitsFirst_access (by decide) rfl (.nil _)

theorem verify_saving : saving.scope.startOf "$this" = some object ∧
    saving.scope.Path saving.scope.Fits object saving.hops
      [(access "a2", result "a2"), (save, result "s")] ∧
    saving.verify = .error (.violated (.noHop .method "save" (result "a1") "App\\Service::run"
      [.value object, .call (access "a1"), .value (result "a1")])) :=
  ⟨by decide, path_saving, by decide⟩

theorem verify_orders : orders.scope.startOf "$this" = some object ∧
    orders.scope.Path orders.scope.Fits object orders.hops [(access "a1", result "a1")] ∧
    orders.verify = .ok ⟨[.value object, .call (access "a1"), .value (result "a1")], object,
      result "a1", 1⟩ :=
  have hfits := path_orders.mono fun _ _ _ h ↦ h.1
  ⟨by decide, hfits, (ChainContract.verify_of_path rfl rfl (by decide) rfl rfl (by decide)
    hfits).2.1 path_orders⟩

end TwoAccesses

end GraphContracts
