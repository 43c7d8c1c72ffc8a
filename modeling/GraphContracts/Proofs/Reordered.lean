import GraphContracts.Contract.Chain
import GraphContracts.Proofs.Integrity.Views

namespace GraphContracts

namespace CallGraph

/-- The same values and the same calls in another order. -/
structure Reordered (g g' : CallGraph) : Prop where
  values : g.values.Perm g'.values
  calls : g.calls.Perm g'.calls

/-- Lookups find the same in both graphs, among as many values. -/
structure LooksAlike (g g' : CallGraph) : Prop where
  getValue : g.getValue = g'.getValue
  getCall : g.getCall = g'.getCall
  known : g.valuesById.length = g'.valuesById.length

variable {g g' : CallGraph}

theorem Reordered.uniqueIds (h : g.Reordered g') (hg : g.UniqueIds) : g'.UniqueIds where
  values := (h.values.map Value.id).nodup_iff.1 hg.values
  calls := (h.calls.map Call.id).nodup_iff.1 hg.calls

theorem Reordered.looksAlike (h : g.Reordered g') (hg : g.UniqueIds) : g.LooksAlike g' where
  getValue := by
    funext id
    refine Option.ext fun v ↦ ?_
    rw [hg.getValue_eq_some_iff, (h.uniqueIds hg).getValue_eq_some_iff, h.values.mem_iff]
  getCall := by
    funext id
    refine Option.ext fun c ↦ ?_
    rw [hg.getCall_eq_some_iff, (h.uniqueIds hg).getCall_eq_some_iff, h.calls.mem_iff]
  known := by rw [hg.valuesById_eq, (h.uniqueIds hg).valuesById_eq, h.values.length_eq]

namespace LooksAlike

theorem resultOf (h : g.LooksAlike g') : g.resultOf = g'.resultOf := by
  funext c
  simp only [CallGraph.resultOf, h.getValue]

theorem stepBack (h : g.LooksAlike g') : g.stepBack = g'.stepBack := by
  funext v
  simp only [CallGraph.stepBack, sourceValue, sourceCall, throughCall, h.getValue, h.getCall,
    h.resultOf]

theorem walkBack (h : g.LooksAlike g') (start : Value) (fuel : Nat) (seen : List String)
    (steps : List ChainStep) (current : Value) :
    g.walkBack start fuel seen steps current = g'.walkBack start fuel seen steps current := by
  induction fuel generalizing seen steps current with
  | zero => rfl
  | succ fuel ih => simp only [CallGraph.walkBack, h.stepBack, ih]

theorem chainTo (h : g.LooksAlike g') : g.chainTo = g'.chainTo := by
  funext id
  simp only [CallGraph.chainTo, h.getValue, h.known, h.walkBack]

theorem leadsToValue (h : g.LooksAlike g') : g.LeadsToValue = g'.LeadsToValue := by
  funext link
  simp only [LeadsToValue, exists_mem_valuesById, hasValue, h.getValue]

theorem leadsToCall (h : g.LooksAlike g') : g.LeadsToCall = g'.LeadsToCall := by
  funext link
  simp only [LeadsToCall, exists_mem_callsById, hasCall, h.getCall]

theorem typesAgree (h : g.LooksAlike g') : g.TypesAgree = g'.TypesAgree := by
  funext c
  simp only [TypesAgree, h.resultOf]

end LooksAlike

theorem countP_not_of_perm {α : Type} {p q : α → Prop} [DecidablePred p] [DecidablePred q]
    {l l' : List α} (h : l.Perm l') (hpq : p = q) :
    ((l.countP fun a ↦ ¬p a : ℕ) : ℕ∞) = (l'.countP fun a ↦ ¬q a : ℕ) := by
  subst hpq
  rw [h.countP_eq]
  exact congrArg Nat.cast (List.countP_congr fun a _ ↦ by simp)

open scoped Classical in
theorem Reordered.offences (h : g.Reordered g') (hg : g.UniqueIds) (check : Check) :
    g.offences check = g'.offences check := by
  have hlookups := h.looksAlike hg
  have harguments := h.calls.flatMap_right Call.arguments
  cases check with
  | parameterDuplicates => simp only [CallGraph.offences, twice_iff_of_perm h.values]
  | localDuplicates => simp only [CallGraph.offences, twice_iff_of_perm h.values]
  | receivers => exact countP_not_of_perm h.calls (by simp only [hlookups.leadsToValue])
  | argumentValues => exact countP_not_of_perm harguments (by simp only [hlookups.leadsToValue])
  | sourceCalls => exact countP_not_of_perm h.values (by simp only [hlookups.leadsToCall])
  | sourceValues => exact countP_not_of_perm h.values (by simp only [hlookups.leadsToValue])
  | results => exact countP_not_of_perm h.calls (by simp only [hlookups.resultOf])
  | resultTypes => exact countP_not_of_perm h.calls hlookups.typesAgree
  | argumentForms => exact countP_not_of_perm harguments rfl

theorem Reordered.mem_scopedValues (h : g.Reordered g') {kind : ValueKind}
    {e : (String × String) × Value} : e ∈ g.scopedValues kind ↔ e ∈ g'.scopedValues kind :=
  ((h.values.filter _).filterMap _).mem_iff

theorem Reordered.find_eq_error_iff (h : g.Reordered g') {check : Check} :
    (∃ l, check.find g = .error l) ↔ ∃ l, check.find g' = .error l := by
  simp only [CallGraph.find_eq_error_iff, h.mem_scopedValues]

theorem Reordered.length_of_find (h : g.Reordered g') (hg : g.UniqueIds) {check : Check}
    {found found' : List Finding} (hfound : check.find g = .ok found)
    (hfound' : check.find g' = .ok found') : found.length = found'.length := by
  have hcount := (CallGraph.length_of_find hfound).trans (h.offences hg check)
  exact Nat.cast_inj.1 (hcount.trans (CallGraph.length_of_find hfound').symm)

/-- Verdicts do not depend on the order of a document. Each check finds as much or fails in both
orders; so do reports, which then look the same; and a chain that is followed backward is the same
or fails in the same way. -/
theorem Reordered.verdicts_eq (h : g.Reordered g') (hg : g.UniqueIds) :
    (∀ check : Check,
      (check.find g).toOption.map List.length = (check.find g').toOption.map List.length) ∧
    (∀ checks : List Check,
      let report := fun g ↦ ((⟨g, checks⟩ : IntegrityContract).report.result).toOption
      let views := fun r : IntegrityReport ↦
        (r.tally, r.hasIssues, r.totalIssues, r.violatedChecks, r.summary)
      (report g).map views = (report g').map views) ∧
    ∀ (a : ChainContract) (id : String),
      ({ a with graph := g }.startingAt id).verify =
        ({ a with graph := g' }.startingAt id).verify := by
  refine ⟨fun check ↦ ?_, fun checks ↦ ?_, fun a id ↦ ?_⟩
  · exact toOption_map_eq h.find_eq_error_iff fun _ _ ↦ h.length_of_find hg
  · refine toOption_map_eq ?_ fun r r' hr hr' ↦ ?_
    · simp only [IntegrityContract.exists_report_eq_error_iff, h.find_eq_error_iff]
    · have htally : r.tally = r'.tally := by
        refine IntegrityContract.tally_eq_of_runs hr hr' fun c e e' he he' ↦ ?_
        have hcount := IntegrityContract.count_of_run he
        rw [h.offences hg] at hcount
        exact Nat.cast_inj.1 (hcount.trans (IntegrityContract.count_of_run he').symm)
      obtain ⟨hissues, htotal, hviolated, hsummary⟩ := IntegrityReport.views_of_tally_eq htally
      simp only [htally, hissues, htotal, hviolated, hsummary]
  · simp only [ChainContract.verify, ChainContract.walk, ChainContract.startingAt,
      ChainContract.brokenEnd?, (h.looksAlike hg).chainTo]

end CallGraph

namespace WrittenBackward

def value (id : String) (kind : ValueKind) (sourceCall : Option String) : Value :=
  ⟨id, kind, none, none, none, none, sourceCall, none, none, none⟩

def call (id : String) (receiver : Option String) : Call :=
  ⟨id, .access, none, "App/Service#run().", some "App/Order#$total.", none, receiver, none, none,
    []⟩

def values : List Value :=
  [value "order" .parameter none, value "total" .result (some "total"),
    value "tax" .result (some "lost")]

def calls : List Call :=
  [call "total" (some "order"), call "other" (some "missing")]

def graph (values : List Value) (calls : List Call) : CallGraph :=
  ⟨⟨"1.0", values, calls⟩, "<memory>"⟩

def forward : CallGraph :=
  graph values calls

def backward : CallGraph :=
  graph values.reverse calls.reverse

theorem reordered : forward.Reordered backward :=
  ⟨(List.reverse_perm values).symm, (List.reverse_perm calls).symm⟩

theorem uniqueIds : forward.UniqueIds :=
  ⟨by decide, by decide⟩

def accessed : Chain :=
  ⟨[.value (value "order" .parameter none), .call (call "total" (some "order")),
    .value (value "total" .result (some "total"))],
    value "order" .parameter none, value "total" .result (some "total"), 1⟩

theorem verdicts_of_backward :
    (Check.results.find backward).toOption.map List.length = some 1 ∧
    (let views := fun r : IntegrityReport ↦
      (r.tally, r.hasIssues, r.totalIssues, r.violatedChecks, r.summary)
    (IntegrityContract.ofGraph backward).allChecks.report.result.toOption.map views =
      (IntegrityContract.ofGraph forward).allChecks.report.result.toOption.map views) ∧
    (((ChainContract.ofGraph backward).withLength 1).startingAt "total").verify = .ok accessed ∧
    (((ChainContract.ofGraph backward).withLength 1).startingAt "tax").verify = .error (.violated
      (.danglingSourceCall (value "tax" .result (some "lost")) "lost")) := by
  obtain ⟨hchecks, hreports, hchains⟩ := CallGraph.Reordered.verdicts_eq reordered uniqueIds
  have hchain := hchains ((ChainContract.ofGraph forward).withLength 1)
  refine ⟨?_, (hreports Check.all).symm, ?_, ?_⟩
  · exact (hchecks .results).symm.trans (by decide)
  · exact (hchain "total").symm.trans (by decide)
  · exact (hchain "tax").symm.trans (by decide)

end WrittenBackward

end GraphContracts
