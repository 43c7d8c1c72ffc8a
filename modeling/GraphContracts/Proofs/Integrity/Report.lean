import GraphContracts.Proofs.Integrity.Count
import GraphContracts.Proofs.Outcome

namespace GraphContracts

theorem Check.name_injective : Function.Injective Check.name :=
  injective_of_readBack ofName?_name

namespace IntegrityReport

variable {report : IntegrityReport}

def ofChecks (entry : Check → CheckResult) : IntegrityReport :=
  ⟨Check.all.map entry⟩

theorem map_check_ofChecks {entry : Check → CheckResult} (h : ∀ c, (entry c).check = c) :
    (ofChecks entry).checks.map CheckResult.check = Check.all := by
  rw [ofChecks, List.map_map]
  exact (List.map_congr_left fun c _ ↦ h c).trans (List.map_id _)

theorem get?_ofChecks {entry : Check → CheckResult} (h : ∀ c, (entry c).check = c) (c : Check) :
    (ofChecks entry).get? c.name = some (entry c) := by
  have hname := Check.ofName?_name c
  rw [get?, ofChecks, List.find?_map]
  simp only [Function.comp_def, h]
  rw [Check.ofName?] at hname
  rw [hname, Option.map_some]

theorem hasIssues_eq_true : report.hasIssues = true ↔ ∃ r ∈ report.checks, r.count ≠ 0 := by
  simp [hasIssues, CheckResult.passed, CheckResult.count]

theorem hasIssues_ofChecks {entry : Check → CheckResult} :
    (ofChecks entry).hasIssues = true ↔ ∃ c, (entry c).count ≠ 0 := by
  simp [hasIssues_eq_true, ofChecks, Check.mem_all]

end IntegrityReport

namespace IntegrityContract

variable {a : IntegrityContract} {found : Check → List Finding}

def entry (a : IntegrityContract) (found : Check → List Finding) (c : Check) : CheckResult :=
  if a.enabled.contains c then ⟨c, true, found c⟩ else ⟨c, false, []⟩

theorem entry_of_mem {c : Check} (h : c ∈ a.enabled) : a.entry found c = ⟨c, true, found c⟩ := by
  rw [entry, if_pos (List.contains_iff_mem.2 h)]

theorem run_of_mem {c : Check} (h : c ∈ a.enabled) :
    a.run c = (c.find a.graph).map (⟨c, true, ·⟩) :=
  if_pos (List.contains_iff_mem.2 h)

theorem run_of_not_mem {c : Check} (h : c ∉ a.enabled) : a.run c = .ok ⟨c, false, []⟩ :=
  if_neg (by simpa using h)

theorem run_eq_ok {c : Check} (h : c.find a.graph = .ok (found c)) :
    a.run c = .ok (a.entry found c) := by
  unfold run entry
  split
  · rw [h, Except.map]
  · rfl

theorem verify_result_of_report {r : IntegrityReport} (h : a.report.result = .ok r) :
    a.verify.result =
      if r.hasIssues then .error (.failure (.integrity r.summary r.record)) else .ok r := by
  unfold verify Logged.bind
  rw [h]
  rfl

theorem run_eq_ok_cases {c : Check} {r : CheckResult} (h : a.run c = .ok r) :
    (∃ findings, c.find a.graph = .ok findings ∧ r = ⟨c, true, findings⟩) ∨ r = ⟨c, false, []⟩ := by
  unfold run at h
  split at h
  · cases hf : c.find a.graph with
    | error e => simp [hf, Except.map] at h
    | ok findings =>
      rw [hf] at h
      exact .inl ⟨findings, rfl, (Except.ok.inj h).symm⟩
  · exact .inr (Except.ok.inj h).symm

theorem check_of_run {c : Check} {r : CheckResult} (h : a.run c = .ok r) : r.check = c := by
  rcases run_eq_ok_cases h with ⟨_, -, rfl⟩ | rfl
  · rfl
  · rfl

theorem find_of_run {c : Check} {r : CheckResult} (h : a.run c = .ok r) (hr : r.enabled = true) :
    c.find a.graph = .ok r.findings := by
  rcases run_eq_ok_cases h with ⟨findings, hf, rfl⟩ | rfl
  · exact hf
  · cases hr

theorem run_eq_error_iff {c : Check} :
    (∃ l, a.run c = .error l) ↔ c ∈ a.enabled ∧ ∃ l, c.find a.graph = .error l := by
  by_cases hc : c ∈ a.enabled
  · rw [run_of_mem hc]
    cases c.find a.graph <;> simp [Except.map, hc]
  · simp [run_of_not_mem hc, hc]

open scoped Classical in
theorem count_of_run {c : Check} {e : CheckResult} (h : a.run c = .ok e) :
    (e.count : ℕ∞) = if c ∈ a.enabled then a.graph.offences c else 0 := by
  by_cases hc : c ∈ a.enabled
  · rw [if_pos hc]
    rw [run_of_mem hc] at h
    cases hfind : c.find a.graph with
    | error l => simp [hfind, Except.map] at h
    | ok found =>
      rw [hfind] at h
      obtain rfl := Except.ok.inj h
      exact CallGraph.length_of_find hfind
  · rw [if_neg hc]
    obtain rfl := Except.ok.inj ((run_of_not_mem hc).symm.trans h)
    rfl

theorem runAll_eq_mapM (cs : List Check) : a.runAll cs = cs.mapM a.run := by
  induction cs with
  | nil => rfl
  | cons c cs ih => rw [runAll, List.mapM_cons, ih]

theorem report_eq_ok_iff {report : IntegrityReport} : a.report.result = .ok report ↔
    List.Forall₂ (fun c e ↦ a.run c = .ok e) Check.all report.checks := by
  rw [← mapM_eq_ok_iff, ← runAll_eq_mapM, IntegrityContract.report, findings]
  cases a.runAll Check.all with
  | error l => simp [Except.map, Except.mapError, Logged.ofExcept, Logged.tell, Logged.bind]
  | ok rs =>
    simp only [Except.map, Except.mapError, Logged.ofExcept, Logged.tell, Logged.bind,
      Except.ok.injEq]
    exact ⟨fun h ↦ h ▸ rfl, fun h ↦ h ▸ rfl⟩

theorem report_result (h : ∀ c : Check, c.find a.graph = .ok (found c)) :
    a.report.result = .ok (.ofChecks (a.entry found)) :=
  report_eq_ok_iff.2 (List.forall₂_map_right_iff.2
    (List.forall₂_same.2 fun c _ ↦ run_eq_ok (h c)))

theorem exists_report_eq_ok (h : a.graph.ReadableLines) :
    ∃ found : Check → List Finding,
      (∀ check, ((found check).length : ℕ∞) = a.graph.offences check) ∧
      a.report.result = .ok (.ofChecks (a.entry found)) := by
  choose found hfind hcount using fun check ↦ a.graph.exists_find_eq_ok check fun _ ↦ h
  exact ⟨found, hcount, report_result hfind⟩

theorem find?_of_runs {cs : List Check} {rs : List CheckResult} {c : Check}
    (h : List.Forall₂ (fun c e ↦ a.run c = .ok e) cs rs) (hc : c ∈ cs) :
    ∃ r, rs.find? (fun r ↦ r.check.name = c.name) = some r ∧ a.run c = .ok r := by
  induction h with
  | nil => cases hc
  | @cons d r cs rest hr _ ih =>
    have hcheck := check_of_run hr
    by_cases hcd : d = c
    · subst hcd
      exact ⟨r, by simp [hcheck], hr⟩
    · have hname : r.check.name ≠ c.name := fun he ↦
        hcd (hcheck.symm.trans (Check.name_injective he))
      have hmem : c ∈ cs := (List.mem_cons.1 hc).resolve_left (Ne.symm hcd)
      simpa [hname] using ih hmem

/-- A report holds, under the name of each check, what the run of the check gave. -/
theorem get?_of_report {report : IntegrityReport} (h : a.report.result = .ok report) (c : Check) :
    ∃ r, report.get? c.name = some r ∧ a.run c = .ok r :=
  find?_of_runs (report_eq_ok_iff.1 h) (Check.mem_all c)

/-- All checks pass an intact graph. Any other graph fails them, with every offence counted under
its check. -/
theorem verify_allChecks {g : CallGraph} (hg : g.ReadableLines) :
    ∃ report : IntegrityReport, report.checks.map CheckResult.check = Check.all ∧
      (∀ check : Check, ∃ r, report.get? check.name = some r ∧ r.enabled = true ∧
        (r.count : ℕ∞) = g.offences check) ∧
      ((ofGraph g).allChecks.verify.result = .ok report ↔ g.Intact) ∧
      ((ofGraph g).allChecks.verify.result =
        .error (.failure (.integrity report.summary report.record)) ↔ ¬g.Intact) := by
  obtain ⟨found, hcount, hreport⟩ := exists_report_eq_ok (a := (ofGraph g).allChecks) hg
  have hentry : ∀ check, (ofGraph g).allChecks.entry found check = ⟨check, true, found check⟩ :=
    fun check ↦ entry_of_mem (Check.mem_all check)
  rw [funext hentry] at hreport
  have hissues :
      (IntegrityReport.ofChecks fun check ↦ ⟨check, true, found check⟩).hasIssues = true ↔
        ¬g.Intact := by
    rw [IntegrityReport.hasIssues_ofChecks, CallGraph.intact_iff, not_forall]
    refine exists_congr fun check ↦ not_congr ?_
    rw [CheckResult.count, ← Nat.cast_eq_zero (R := ℕ∞), hcount check]
    rfl
  refine ⟨.ofChecks fun check ↦ ⟨check, true, found check⟩, ?_, fun check ↦ ?_, ?_, ?_⟩
  · exact IntegrityReport.map_check_ofChecks fun _ ↦ rfl
  · exact ⟨_, IntegrityReport.get?_ofChecks (fun _ ↦ rfl) check, rfl, hcount check⟩
  · rw [verify_result_of_report hreport]
    simp [hissues]
  · rw [verify_result_of_report hreport]
    simp [hissues]

end IntegrityContract

namespace DoubledParameter

def order (id : String) : Value :=
  ⟨id, .parameter, none, some "App/Service#run().($order)", none, none, none, none, none, none⟩

def save : Call :=
  ⟨"s", .method, none, "App/Service#run().", some "App/Orders#save().", none, some "orders", none,
    none, []⟩

def graph : CallGraph :=
  ⟨⟨"1.0", [order "v1", order "v2"], [save]⟩, "<memory>"⟩

theorem readableLines : graph.ReadableLines :=
  CallGraph.readableLines_of_forall_eq_none (by decide)

theorem twice_order : Twice (·.IsParameter "App/Service#run()" "$order") graph.values :=
  ⟨order "v1", order "v2", .refl _, ⟨rfl, by decide, by decide⟩, ⟨rfl, by decide, by decide⟩⟩

theorem verify_graph : graph.ReadableLines ∧ ¬graph.Intact ∧
    ∃ report : IntegrityReport, report.checks.map CheckResult.check = Check.all ∧
      (∀ check : Check, ∃ r, report.get? check.name = some r ∧ r.enabled = true ∧
        (r.count : ℕ∞) = graph.offences check) ∧
      (IntegrityContract.ofGraph graph).allChecks.verify.result =
        .error (.failure (.integrity report.summary report.record)) := by
  have hbroken : ¬graph.Intact := fun h ↦ h.parameters _ _ twice_order
  obtain ⟨report, hall, hcounts, -, herror⟩ := IntegrityContract.verify_allChecks readableLines
  exact ⟨readableLines, hbroken, report, hall, hcounts, herror.2 hbroken⟩

end DoubledParameter

end GraphContracts
