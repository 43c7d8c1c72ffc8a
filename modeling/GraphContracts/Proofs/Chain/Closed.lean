import GraphContracts.Proofs.Chain.Failure
import GraphContracts.Proofs.Chain.Forward
import GraphContracts.Proofs.Integrity.Report

namespace GraphContracts

open Relation

def Check.links : List Check :=
  [.receivers, .sourceCalls, .sourceValues, .results]

def IntegrityReport.Clean (report : IntegrityReport) (checks : List Check) : Prop :=
  ∀ check ∈ checks, ∃ r, report.get? check.name = some r ∧ r.enabled = true ∧ r.count = 0

namespace CallGraph

/-- Every value that comes out of a call is the result of that call. -/
def BackLinked (g : CallGraph) : Prop :=
  ∀ v ∈ g.values, ∀ c, g.producer? v = some c → g.resultOf c = some v

/-- Every link that a chain is followed along leads to an entry, and every call has a result. -/
structure Closed (g : CallGraph) : Prop where
  receivers : ∀ c ∈ g.calls, g.LeadsToValue c.receiverValueId
  sourceCalls : ∀ v ∈ g.values, g.LeadsToCall v.sourceCallId
  sourceValues : ∀ v ∈ g.values, g.LeadsToValue v.sourceValueId
  results : ∀ c ∈ g.calls, ∃ v, g.resultOf c = some v

variable {g : CallGraph} {v : Value} {c : Call} {e : ChainViolation} {id : String}

theorem LeadsToValue.getValue {link : Option String} (h : g.LeadsToValue link)
    (hid : link = some id) : ∃ v, g.getValue id = some v :=
  Option.isSome_iff_exists.1 (exists_mem_valuesById.1 (h id hid))

theorem LeadsToCall.getCall {link : Option String} (h : g.LeadsToCall link)
    (hid : link = some id) : ∃ c, g.getCall id = some c :=
  Option.isSome_iff_exists.1 (exists_mem_callsById.1 (h id hid))

open scoped Classical in
theorem closed_of_offences (h : ∀ check ∈ Check.links, g.offences check = 0) : g.Closed where
  receivers := countP_not_eq_zero.1 (h .receivers (by decide))
  sourceCalls := countP_not_eq_zero.1 (h .sourceCalls (by decide))
  sourceValues := countP_not_eq_zero.1 (h .sourceValues (by decide))
  results := countP_not_eq_zero.1 (h .results (by decide))

theorem Closed.throughCall_eq_error (hg : g.Closed) (hc : c ∈ g.calls)
    (h : g.throughCall v c = .error e) :
    ∃ w, g.resultOf c = some w ∧ w.id ≠ v.id ∧ e = .brokenBackLink v c (some w) := by
  obtain ⟨w, hw⟩ := hg.results c hc
  rw [throughCall, hw] at h
  by_cases hid : w.id = v.id
  · cases hr : c.receiverValueId with
    | none => simp [hid, hr] at h
    | some id =>
      obtain ⟨u, hu⟩ := (hg.receivers c hc).getValue hr
      simp [hid, hr, hu] at h
  · simp only [Option.map_some, Option.some.injEq, hid, if_false] at h
    exact ⟨w, hw, hid, (Except.error.inj h).symm⟩

theorem Closed.stepBack_eq_error (hg : g.Closed) (hv : v ∈ g.values)
    (h : g.stepBack v = .error e) :
    ∃ c w, g.producer? v = some c ∧ g.resultOf c = some w ∧ w.id ≠ v.id ∧
      e = .brokenBackLink v c (some w) := by
  have hsource := sourceValue_eq_ok_iff.2 ⟨fun _ ↦ (hg.sourceValues v hv).getValue, rfl⟩
  have hcall := sourceCall_eq_ok_iff.2 ⟨fun _ ↦ (hg.sourceCalls v hv).getCall, rfl⟩
  simp only [stepBack, hsource, hcall, bind, Except.bind] at h
  cases hs : v.sourceValueId with
  | some id =>
    obtain ⟨u, hu⟩ := (hg.sourceValues v hv).getValue hs
    simp [hs, hu, pure, Except.pure] at h
  | none =>
    cases hc : v.sourceCallId.bind g.getCall with
    | none => simp [hs, hc, pure, Except.pure] at h
    | some c =>
      simp only [hs, hc, Option.bind_none] at h
      obtain ⟨id, -, hid⟩ := Option.bind_eq_some_iff.1 hc
      obtain ⟨w, hw, hne, rfl⟩ := hg.throughCall_eq_error (getCall_mem hid).1 h
      exact ⟨c, w, by simp only [producer?, hs, hc], hw, hne, rfl⟩

end CallGraph

namespace IntegrityContract

variable {a : IntegrityContract} {report : IntegrityReport}

theorem closed_of_report (hreport : a.report.result = .ok report)
    (hclean : report.Clean Check.links) : a.graph.Closed := by
  refine CallGraph.closed_of_offences fun check hcheck ↦ ?_
  obtain ⟨r, hget, henabled, hcount⟩ := hclean check hcheck
  obtain ⟨r', hget', hrun⟩ := get?_of_report hreport check
  obtain rfl := Option.some.inj (hget'.symm.trans hget)
  -- no lines are read by these checks, so their counts need no readable lines
  have hlocals : check ≠ .localDuplicates := by
    rintro rfl
    exact absurd hcheck (by decide)
  obtain ⟨found, hfound, hlength⟩ :=
    a.graph.exists_find_eq_ok check fun he ↦ absurd he hlocals
  obtain rfl := Except.ok.inj (hfound.symm.trans (find_of_run hrun henabled))
  rw [← hlength, ← CheckResult.count, hcount, Nat.cast_zero]

end IntegrityContract

/-- Where the checks on links were asked for and found nothing, a value has a chain, or its walk
comes back to a value, or comes to a value that is not the result of its call but another value is.
Where neither can be, every value has a chain. -/
theorem verify_startingAt_of_clean_links {a : IntegrityContract} {report : IntegrityReport}
    {id : String} (hreport : a.report.result = .ok report) (hclean : report.Clean Check.links)
    (hid : a.graph.hasValue id = true) :
    ∃ start, a.graph.getValue id = some start ∧
      let outcome := ((ChainContract.ofGraph a.graph).startingAt id).verify
      ((∃ chain, outcome = .ok chain) ∨
        (∃ w, ReflTransGen a.graph.ComesFrom start w ∧ TransGen a.graph.ComesFrom w w ∧
          outcome = .error (.violated (.loop start w))) ∨
        ∃ v c w, ReflTransGen a.graph.ComesFrom start v ∧ a.graph.producer? v = some c ∧
          a.graph.resultOf c = some w ∧ w.id ≠ v.id ∧
          outcome = .error (.violated (.brokenBackLink v c (some w)))) ∧
      (a.graph.BackLinked → a.graph.Acyclic → ∃ chain, outcome = .ok chain) := by
  have hg := IntegrityContract.closed_of_report hreport hclean
  obtain ⟨start, hstart⟩ := Option.isSome_iff_exists.1 hid
  refine ⟨start, hstart, ?_⟩
  simp only [ChainContract.verify_startingAt]
  rcases CallGraph.chainTo_cases hstart with ⟨chain, h⟩ | ⟨e, he, h⟩
  · rw [h]
    exact ⟨.inl ⟨chain, rfl⟩, fun _ _ ↦ ⟨chain, rfl⟩⟩
  · rw [h]
    cases he with
    | @loop w hw hcycle =>
      exact ⟨.inr (.inl ⟨w, hw, hcycle, rfl⟩), fun _ hacyclic ↦ absurd hcycle (hacyclic w)⟩
    | @link v e hv hself hstep =>
      have hmem := (CallGraph.getValue_mem hself).1
      obtain ⟨c, w, hc, hw, hne, rfl⟩ := hg.stepBack_eq_error hmem hstep
      refine ⟨.inr (.inr ⟨v, c, w, hv, hc, hw, hne, rfl⟩), fun hback _ ↦ ?_⟩
      rw [hback v hmem c hc] at hw
      exact absurd (congrArg Value.id (Option.some.inj hw).symm) hne

example :
    let x : Value := ⟨"x", .localVariable, none, none, none, none, none, some "x", none, none⟩
    let g : CallGraph := ⟨⟨"1.0", [x], []⟩, "<memory>"⟩
    ((ChainContract.ofGraph g).startingAt "x").verify = .error (.violated (.loop x x)) := by
  decide

namespace TwoAccesses

def links : IntegrityContract :=
  ⟨graph, Check.links⟩

def linksReport : IntegrityReport :=
  .ofChecks fun check ↦ ⟨check, Check.links.contains check, []⟩

theorem links_report : links.report.result = .ok linksReport := by
  rfl

theorem linksReport_clean : linksReport.Clean Check.links := by
  simp only [IntegrityReport.Clean, Check.links, List.forall_mem_cons]
  exact ⟨⟨_, rfl, rfl, rfl⟩, ⟨_, rfl, rfl, rfl⟩, ⟨_, rfl, rfl, rfl⟩, ⟨_, rfl, rfl, rfl⟩,
    List.forall_mem_nil _⟩

theorem graph_backLinked : graph.BackLinked := by
  intro v hv c hc
  have hall : ∀ v ∈ graph.values, ∀ c ∈ graph.producer? v, graph.resultOf c = some v := by decide
  exact hall v hv c hc

def rank (v : Value) : ℕ :=
  if v.id = "this" then 0 else if v.id = "s" then 2 else 1

theorem graph_acyclic : graph.Acyclic :=
  CallGraph.acyclic_of_rank rank (by decide)

theorem verify_startingAt_saved : links.report.result = .ok linksReport ∧
    linksReport.Clean Check.links ∧ graph.hasValue "s" = true ∧ graph.BackLinked ∧ graph.Acyclic ∧
    ∃ chain, ((ChainContract.ofGraph graph).startingAt "s").verify = .ok chain := by
  have hid : graph.hasValue "s" = true := by decide
  obtain ⟨-, -, -, hchain⟩ :=
    verify_startingAt_of_clean_links links_report linksReport_clean hid
  exact ⟨links_report, linksReport_clean, hid, graph_backLinked, graph_acyclic,
    hchain graph_backLinked graph_acyclic⟩

end TwoAccesses

end GraphContracts
