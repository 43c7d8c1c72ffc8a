import GraphContracts.Proofs.Lookup
import GraphContracts.Proofs.Query
import GraphContracts.Proofs.Symbol

namespace GraphContracts

namespace MethodScope

/-- The symbol of a value lies in the method. -/
def HasSymbol (s : MethodScope) (v : Value) : Prop :=
  ∃ symbol, v.symbol = some symbol ∧ s.encloses (some symbol) = true

/-- The call that a value names as its source is made from the method. -/
def Produces (s : MethodScope) (v : Value) : Prop :=
  ∃ c ∈ s.calls.all, s.graph.sourceCallOf v = some c

variable {s : MethodScope} {v : Value} {c : Call}

theorem pattern_ofNames (g : CallGraph) (className methodName : String) :
    (ofNames g className methodName).pattern = Symbol.scopePattern className methodName := by
  simp [pattern, ofNames, Symbol.scopePattern, Symbol.normalizeClass]

theorem hasSymbol_iff : s.HasSymbol v ↔ s.encloses v.symbol = true := by
  unfold HasSymbol
  cases v.symbol with
  | none => simp [encloses, Symbol.inScope]
  | some symbol => simp

theorem mem_calls : c ∈ s.calls.all ↔ c ∈ s.graph.calls ∧ s.encloses (some c.caller) = true := by
  rw [calls, NodeQuery.callerInScope, NodeQuery.all_filtered, CallGraph.all_callQuery,
    List.mem_filter]
  rfl

theorem accepts_calls_iff (hc : c ∈ s.graph.calls) :
    s.calls.accepts c = true ↔ c ∈ s.calls.all := by
  rw [NodeQuery.all, List.mem_filter]
  exact (and_iff_right hc).symm

theorem produces_iff : s.Produces v ↔
    ∃ c, s.graph.sourceCallOf v = some c ∧ s.encloses (some c.caller) = true := by
  constructor
  · rintro ⟨c, hc, hsource⟩
    exact ⟨c, hsource, (mem_calls.1 hc).2⟩
  · rintro ⟨c, hsource, hcaller⟩
    obtain ⟨id, -, hid⟩ := Option.bind_eq_some_iff.1 hsource
    exact ⟨c, mem_calls.2 ⟨(CallGraph.getCall_mem hid).1, hcaller⟩, hsource⟩

theorem declares_eq_true :
    s.declares v = true ↔ s.HasSymbol v ∨ v.symbol = none ∧ s.Produces v := by
  rw [produces_iff, declares, HasSymbol]
  cases v.symbol with
  | none => simp [Option.any_eq_true]
  | some symbol => simp

theorem values_all_eq_filter : s.values.all = s.graph.values.filter s.declares := by
  rw [values, NodeQuery.all_filtered, CallGraph.all_valueQuery]

theorem mem_values : v ∈ s.values.all ↔
    v ∈ s.graph.values ∧ (s.HasSymbol v ∨ v.symbol = none ∧ s.Produces v) := by
  rw [values_all_eq_filter, List.mem_filter, declares_eq_true]

/-- The values of a method stand in the order of the document. They are those with a symbol in the
method and, of those without a symbol, the ones that it produces. A value with a symbol elsewhere is
left out even where the method produces it; for every other value one of the two is enough. -/
theorem values_all_exact (s : MethodScope) :
    s.values.all = s.graph.values.filter (· ∈ s.values.all) ∧ ∀ v,
      (v ∈ s.values.all ↔
        v ∈ s.graph.values ∧ (s.HasSymbol v ∨ v.symbol = none ∧ s.Produces v)) ∧
      ((v ∈ s.values.all ↔ v ∈ s.graph.values ∧ (s.HasSymbol v ∨ s.Produces v)) ↔
        ¬(v ∈ s.graph.values ∧ v.symbol ≠ none ∧ ¬s.HasSymbol v ∧ s.Produces v)) := by
  refine ⟨?_, fun v ↦ ⟨mem_values, ?_⟩⟩
  · rw [values_all_eq_filter]
    refine List.filter_congr fun v hv ↦ ?_
    simp only [List.mem_filter, hv, true_and, Bool.decide_eq_true]
  · rw [mem_values]
    tauto

end MethodScope

namespace BorrowedSymbol

def read : Call :=
  ⟨"r", .access, none, "App/Service#run().", some "App/Order#$email.", none, none, none, none, []⟩

def email : Value :=
  ⟨"r", .result, none, some "App/Order#$email.", none, none, some "r", none, none, none⟩

def graph : CallGraph :=
  ⟨⟨"1.0", [email], [read]⟩, "<memory>"⟩

def run : MethodScope :=
  .ofNames graph "App\\Service" "run"

theorem email_not_mem_values : email ∈ graph.values ∧ graph.sourceCallOf email = some read ∧
    read ∈ run.calls.all ∧ email ∉ run.values.all := by
  decide

end BorrowedSymbol

namespace MethodScope

variable {s : MethodScope} {v : Value} {c : Call}

/-- By convention a result carries no source or the id of its call. -/
theorem sourceCallId_of_resultOf (hid : c.resultValueId = none)
    (hv : s.graph.resultOf c = some v) : v.sourceCallId = none ∨ v.sourceCallId = some c.id := by
  simp only [CallGraph.resultOf, hid, Option.filter_eq_some_iff, Bool.or_eq_true,
    decide_eq_true_eq] at hv
  exact hv.2

/-- The result of a call of a method is one of its values as soon as the call that the result names
as its source is made from the method too. Where a call is the one found by its id, it is enough
that the result names that call; by convention it names no other. -/
theorem result_mem_values (hc : c ∈ s.calls.all) (hv : s.graph.resultOf c = some v)
    (hsymbol : v.symbol = none) :
    (∀ d ∈ s.calls.all, s.graph.sourceCallOf v = some d → v ∈ s.values.all) ∧
    (s.graph.getCall c.id = some c →
      v.sourceCallId = some c.id ∨ c.resultValueId = none ∧ v.sourceCallId ≠ none →
      v ∈ s.values.all) := by
  have hmem : v ∈ s.graph.values := (CallGraph.getValue_mem (CallGraph.resultOf_self hv)).1
  have hproduced : ∀ d ∈ s.calls.all, s.graph.sourceCallOf v = some d → v ∈ s.values.all :=
    fun d hd hsource ↦ mem_values.2 ⟨hmem, .inr ⟨hsymbol, d, hd, hsource⟩⟩
  refine ⟨hproduced, fun hfound hlink ↦ hproduced c hc ?_⟩
  have hsource : v.sourceCallId = some c.id := by
    rcases hlink with h | ⟨hid, hne⟩
    · exact h
    · exact (sourceCallId_of_resultOf hid hv).resolve_left hne
  rw [CallGraph.sourceCallOf, hsource, Option.bind_some, hfound]

end MethodScope

namespace TwoResults

def result (id : String) (source : Option String) : Value :=
  ⟨id, .result, none, none, none, none, source, none, none, none⟩

def call (id caller : String) (result : Option String) : Call :=
  ⟨id, .method, none, caller, some "App/Orders#save().", none, none, result, none, []⟩

def load : Call :=
  call "l" "App/Service#run()." none

def save : Call :=
  call "s" "App/Service#run()." (some "kept")

def other : Call :=
  call "o" "App/Service#stop()." none

def graph (loaded kept : Option String) : CallGraph :=
  ⟨⟨"1.0", [result "l" loaded, result "kept" kept], [load, save, other]⟩, "<memory>"⟩

def run (g : CallGraph) : MethodScope :=
  .ofNames g "App\\Service" "run"

theorem results_mem_values :
    let s := run (graph (some "l") (some "s"))
    (load ∈ s.calls.all ∧ s.graph.resultOf load = some (result "l" (some "l")) ∧
      result "l" (some "l") ∈ s.values.all) ∧
    (save ∈ s.calls.all ∧ s.graph.resultOf save = some (result "kept" (some "s")) ∧
      result "kept" (some "s") ∈ s.values.all) := by
  refine ⟨⟨by decide, by decide, ?_⟩, by decide, by decide, ?_⟩
  · exact (MethodScope.result_mem_values (c := load) (by decide) (by decide) rfl).2 (by decide)
      (.inr ⟨rfl, by decide⟩)
  · exact (MethodScope.result_mem_values (c := save) (by decide) (by decide) rfl).1 save
      (by decide) (by decide)

theorem results_not_mem_values :
    let s := run (graph none (some "o"))
    (load ∈ s.calls.all ∧ s.graph.resultOf load = some (result "l" none) ∧
      result "l" none ∉ s.values.all) ∧
    (save ∈ s.calls.all ∧ s.graph.resultOf save = some (result "kept" (some "o")) ∧
      result "kept" (some "o") ∉ s.values.all) := by
  decide

end TwoResults

end GraphContracts
