import GraphContracts.Proofs.Chain.Agreement
import Mathlib.Data.List.Chain

namespace GraphContracts

namespace CallGraph

/-- One step of a chain leads to the next. -/
def Leads (g : CallGraph) : ChainStep → ChainStep → Prop
  | .value v, .call c => c.receiverValueId = some v.id
  | .call c, .value v => g.resultOf c = some v
  | .value v, .value w => w.sourceValueId = some v.id
  | .call _, .call _ => False

/-- Steps that lead from one to the next and end in a value. -/
structure StepsTo (g : CallGraph) (v : Value) (steps : List ChainStep) : Prop where
  leads : steps.IsChain g.Leads
  last : steps.getLast? = some (.value v)

variable {g : CallGraph} {v w root : Value} {steps : List ChainStep} {walk : List Value}

theorem stepsInto_ne_nil : g.stepsInto v ≠ [] := by
  simp [stepsInto]

theorem LinksHold.stepsTo (hl : g.LinksHold v) : g.StepsTo v (g.stepsInto v) := by
  rw [stepsInto]
  cases hp : g.producer? v with
  | none => exact ⟨by simp, by simp⟩
  | some c => exact ⟨by simpa [Leads] using hl.result c hp, by simp⟩

theorem leads_head_stepsInto (ho : g.origin? v = some w) :
    ∀ step ∈ (g.stepsInto v).head?, g.Leads (.value w) step := by
  cases hs : v.sourceValueId with
  | some id =>
    have hw : g.getValue id = some w := by simpa only [origin?, hs] using ho
    have hp : g.producer? v = none := by simp only [producer?, hs]
    simp [stepsInto, hp, Leads, hs, (getValue_mem hw).2]
  | none =>
    rw [origin?_eq_receiver hs] at ho
    obtain ⟨c, hc, hreceiver⟩ := Option.bind_eq_some_iff.1 ho
    obtain ⟨id, hid, hw⟩ := Option.bind_eq_some_iff.1 hreceiver
    simp [stepsInto, hc, Leads, hid, (getValue_mem hw).2]

theorem StepsTo.append (hw : g.StepsTo w steps) (ho : g.origin? v = some w) (hl : g.LinksHold v) :
    g.StepsTo v (steps ++ g.stepsInto v) := by
  refine ⟨hw.leads.append hl.stepsTo.leads fun x hx y hy ↦ ?_, ?_⟩
  · obtain rfl : .value w = x := Option.some.inj (hw.last.symm.trans hx)
    exact leads_head_stepsInto ho y hy
  · rw [List.getLast?_append_of_ne_nil _ stepsInto_ne_nil, hl.stepsTo.last]

theorem BackwardWalk.stepsTo (h : g.BackwardWalk v walk) (hl : ∀ w ∈ walk, g.LinksHold w) :
    g.StepsTo v (walk.reverse.flatMap g.stepsInto) := by
  induction h with
  | @root v hroot => simpa using (hl v List.mem_cons_self).stepsTo
  | @step v w walk ho _ ih =>
    have hrest := ih fun u hu ↦ hl u (List.mem_cons_of_mem _ hu)
    simpa using hrest.append ho (hl v List.mem_cons_self)

theorem BackwardWalk.isRoot (h : g.BackwardWalk v walk) (hlast : walk.getLast? = some root) :
    g.IsRoot root := by
  induction h with
  | root hroot => exact Option.some.inj hlast ▸ hroot
  | step _ hwalk ih =>
    obtain ⟨rest, rfl⟩ := hwalk.head_eq
    exact ih (by simpa using hlast)

theorem exists_eq_stepsInto_append (hlast : walk.getLast? = some root) :
    ∃ rest, walk.reverse.flatMap g.stepsInto = g.stepsInto root ++ rest := by
  obtain ⟨before, rfl⟩ := List.getLast?_eq_some_iff.1 hlast
  exact ⟨before.reverse.flatMap g.stepsInto, by simp⟩

end CallGraph

namespace MethodScope

variable {s : MethodScope} {v : Value} {hops : List Hop} {path : List (Call × Value)}

theorem Path.stepsTo (hp : s.Path s.Fits v hops path) :
    s.graph.StepsTo (pathEnd v path) (.value v :: pathSteps path) := by
  induction hp with
  | nil v => exact ⟨.singleton _, rfl⟩
  | @cons v w h c hops path hc hw _ _ ih =>
    have hleads : s.graph.Leads (.value v) (.call c) := hc.receiver
    exact ⟨.cons_cons hleads (.cons_cons hw ih.leads), by simpa [pathSteps, pathEnd] using ih.last⟩

theorem Path.length_callSteps (hp : s.Path s.Fits v hops path) :
    ((.value v :: pathSteps path).filterMap ChainStep.call?).length = hops.length := by
  rw [List.filterMap_cons, filterMap_call?_pathSteps, ← hp.length_eq]
  exact List.length_map _

end MethodScope

/-- The steps of a verified chain lead from one to the next and end in its final value, and its
length is the number of calls among them. They begin with the root, but for one case: where a chain
was followed backward to a root that a call without a receiver produced, they begin with that
call. -/
theorem verify_steps {a : ChainContract} {chain : Chain} (h : a.verify = .ok chain) :
    a.graph.StepsTo chain.final chain.steps ∧ chain.stepCount = chain.callSteps.length ∧
    ((a.startValueId = none ∨ chain.root.sourceCallId = none) ∧
        chain.steps.head? = some (.value chain.root) ∨
      a.startValueId ≠ none ∧ ∃ c rest, chain.steps = .call c :: .value chain.root :: rest ∧
        a.graph.producer? chain.root = some c ∧ c.receiverValueId = none) := by
  have hwalk := (ChainContract.verify_eq_ok_iff.1 h).1
  cases hid : a.startValueId with
  | some id =>
    rw [ChainContract.walk_eq_chainTo hid, mapError_eq_ok_iff,
      CallGraph.chainTo_eq_ok_iff] at hwalk
    obtain ⟨walk, -, hback, hlinks, hsteps, hroot, hcount⟩ := hwalk
    refine ⟨hsteps ▸ hback.stepsTo hlinks, hcount, ?_⟩
    obtain ⟨rest, hrest⟩ := CallGraph.exists_eq_stepsInto_append (g := a.graph) hroot
    rw [hsteps, hrest]
    obtain ⟨hvalue, hcall | ⟨c, hc, hreceiver⟩⟩ := hback.isRoot hroot
    · have hp : a.graph.producer? chain.root = none := by
        simp [CallGraph.producer?, hvalue, hcall]
      exact .inl ⟨.inr hcall, by simp [CallGraph.stepsInto, hp]⟩
    · exact .inr ⟨Option.some_ne_none id, c, rest, by simp [CallGraph.stepsInto, hc], hc, hreceiver⟩
  | none =>
    obtain ⟨name, -, -, hchain⟩ := (ChainContract.walk_eq_ok_iff_chainFrom hid).1 hwalk
    obtain ⟨start, path, -, hpath, rfl⟩ := MethodScope.chainFrom_eq_ok_iff.1 hchain
    have hfits := hpath.mono fun _ _ _ hf ↦ hf.1
    exact ⟨hfits.stepsTo, hfits.length_callSteps.symm, .inl ⟨.inl rfl, rfl⟩⟩

namespace StaticCall

def make : Call :=
  ⟨"m", .methodStatic, none, "App/Service#run().", some "App/Order#make().", none, none, none, none,
    []⟩

def made : Value :=
  ⟨"m", .result, none, none, none, none, some "m", none, none, none⟩

def kept : Value :=
  ⟨"k", .localVariable, none, none, none, none, none, some "m", none, none⟩

def graph : CallGraph :=
  ⟨⟨"1.0", [made, kept], [make]⟩, "<memory>"⟩

def toKept : ChainContract :=
  (ChainContract.ofGraph graph).startingAt "k"

def chain : Chain :=
  ⟨[.call make, .value made, .value kept], made, kept, 1⟩

theorem steps_of_toKept : toKept.verify = .ok chain ∧ graph.StepsTo kept chain.steps ∧
    ∃ c rest, chain.steps = .call c :: .value made :: rest ∧ graph.producer? made = some c ∧
      c.receiverValueId = none := by
  have h : toKept.verify = .ok chain := by decide
  obtain ⟨hsteps, -, ⟨hroot, -⟩ | ⟨-, hcall⟩⟩ := verify_steps h
  · exact absurd hroot (by decide)
  · exact ⟨h, hsteps, hcall⟩

theorem head_of_toKept : toKept.verify = .ok chain ∧ chain.root = made ∧
    chain.steps.head? = some (.call make) := by
  decide

end StaticCall

end GraphContracts
