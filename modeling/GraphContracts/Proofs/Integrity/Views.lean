import GraphContracts.Proofs.Integrity.Report
import Mathlib.Data.List.TFAE

namespace GraphContracts

namespace IntegrityReport

variable {r r' : IntegrityReport}

/-- The checks of a report, each with what it found in number. -/
def tally (r : IntegrityReport) : List (Check × Nat) :=
  r.checks.map fun c ↦ (c.check, c.count)

def failed (r : IntegrityReport) : List (Check × Nat) :=
  r.tally.filter fun c ↦ c.2 ≠ 0

theorem passed_eq (c : CheckResult) : c.passed = decide (c.count = 0) := by
  rw [CheckResult.passed, CheckResult.count, Bool.eq_iff_iff, List.isEmpty_iff,
    decide_eq_true_iff, List.length_eq_zero_iff]

theorem failed_eq (r : IntegrityReport) :
    r.failed = (r.checks.filter fun c ↦ !c.passed).map fun c ↦ (c.check, c.count) := by
  rw [failed, tally, List.filter_map]
  refine congrArg _ (List.filter_congr fun c _ ↦ ?_)
  simp [passed_eq]

theorem violatedChecks_eq (r : IntegrityReport) :
    r.violatedChecks = r.failed.map fun c ↦ c.1.name := by
  rw [violatedChecks, failed_eq, List.map_map]
  rfl

theorem hasIssues_eq (r : IntegrityReport) : r.hasIssues = r.tally.any fun c ↦ c.2 ≠ 0 := by
  rw [hasIssues, tally, List.any_map]
  refine List.any_congr rfl fun c ↦ ?_
  simp [passed_eq]

theorem totalIssues_eq (r : IntegrityReport) : r.totalIssues = (r.tally.map Prod.snd).sum := by
  rw [totalIssues, tally, List.length_flatMap, List.map_map]
  rfl

theorem summary_eq (r : IntegrityReport) : r.summary =
    if r.failed = [] then "No issues found"
    else Text.joinWith ", " (r.failed.map fun c ↦ s!"{c.2} {c.1.label}") := by
  have hparts : ((r.checks.filter fun c ↦ !c.passed).map fun c ↦ s!"{c.count} {c.check.label}") =
      r.failed.map fun c ↦ s!"{c.2} {c.1.label}" := by
    rw [failed_eq, List.map_map]
    rfl
  rw [summary, hparts]
  simp

/-- Reports that found as much under each check look the same. -/
theorem views_of_tally_eq (h : r.tally = r'.tally) :
    r.hasIssues = r'.hasIssues ∧ r.totalIssues = r'.totalIssues ∧
      r.violatedChecks = r'.violatedChecks ∧ r.summary = r'.summary := by
  have hfailed : r.failed = r'.failed := by rw [failed, failed, h]
  refine ⟨?_, ?_, ?_, ?_⟩
  · rw [hasIssues_eq, hasIssues_eq, h]
  · rw [totalIssues_eq, totalIssues_eq, h]
  · rw [violatedChecks_eq, violatedChecks_eq, hfailed]
  · rw [summary_eq, summary_eq, hfailed]

theorem exists_toList_joinWith (sep text : String) (more : List String) :
    ∃ rest, (Text.joinWith sep (text :: more)).toList = text.toList ++ rest := by
  cases more with
  | nil => exact ⟨[], by simp [Text.joinWith]⟩
  | cons next more =>
    refine ⟨sep.toList ++ (Text.joinWith sep (next :: more)).toList, ?_⟩
    rw [Text.joinWith, String.intercalate_cons_cons, String.toList_append, String.toList_append,
      List.append_assoc]
    rfl

theorem summary_ne_of_failed (h : r.failed ≠ []) : r.summary ≠ "No issues found" := by
  obtain ⟨⟨check, n⟩, more, hfailed⟩ := List.exists_cons_of_ne_nil h
  obtain ⟨c, cs, hn⟩ := List.exists_cons_of_ne_nil (Nat.toDigits_ne_nil (n := n) (b := 10))
  have hdigit : c.isDigit = true :=
    Nat.isDigit_of_mem_toDigits (b := 10) (n := n) (by decide) (by decide) (by simp [hn])
  have htext : (s!"{n} {check.label}").toList = c :: (cs ++ ' ' :: check.label.toList) := by
    simp [Nat.toString_eq_repr, Nat.toList_repr, hn]
    rfl
  obtain ⟨rest, hrest⟩ := exists_toList_joinWith ", " s!"{n} {check.label}"
    (more.map fun c ↦ s!"{c.2} {c.1.label}")
  rw [summary_eq, if_neg h, hfailed, List.map_cons]
  intro hsame
  rw [hsame, htext] at hrest
  -- a summary of findings starts with a number, the other one with a letter
  have hfirst := congrArg List.head? hrest
  obtain rfl : 'N' = c := Option.some.inj hfirst
  exact absurd hdigit (by decide)

theorem failed_ne_nil : r.failed ≠ [] ↔ ∃ c ∈ r.tally, c.2 ≠ 0 := by
  simp [failed, List.filter_eq_nil_iff]

/-- Whichever way a report is looked at, it has issues or has none. -/
theorem views_tfae (r : IntegrityReport) : [r.hasIssues = true, 0 < r.totalIssues,
    r.violatedChecks ≠ [], r.summary ≠ "No issues found"].TFAE := by
  have hissues : r.hasIssues = true ↔ r.failed ≠ [] := by
    rw [hasIssues_eq, failed_ne_nil]
    simp
  have htotal : 0 < r.totalIssues ↔ r.failed ≠ [] := by
    rw [totalIssues_eq, failed_ne_nil, List.sum_pos_iff_exists_pos_nat]
    simp only [List.mem_map, exists_exists_and_eq_and, Nat.pos_iff_ne_zero]
  have hviolated : r.violatedChecks ≠ [] ↔ r.failed ≠ [] := by
    rw [violatedChecks_eq, ne_eq, List.map_eq_nil_iff]
  have hsummary : r.summary ≠ "No issues found" ↔ r.failed ≠ [] := by
    refine ⟨fun h hnone ↦ h ?_, summary_ne_of_failed⟩
    rw [summary_eq, if_pos hnone]
  tfae_have 1 ↔ 2 := hissues.trans htotal.symm
  tfae_have 1 ↔ 3 := hissues.trans hviolated.symm
  tfae_have 1 ↔ 4 := hissues.trans hsummary.symm
  tfae_finish

end IntegrityReport

namespace IntegrityContract

variable {a a' : IntegrityContract} {r r' : IntegrityReport}

theorem exists_report_eq_ok_iff : (∃ r, a.report.result = .ok r) ↔ ∀ c, ∃ e, a.run c = .ok e := by
  constructor
  · rintro ⟨r, h⟩ c
    obtain ⟨e, -, he⟩ := get?_of_report h c
    exact ⟨e, he⟩
  · intro h
    choose e he using h
    refine ⟨⟨Check.all.map e⟩, report_eq_ok_iff.2 ?_⟩
    exact List.forall₂_map_right_iff.2 (List.forall₂_same.2 fun c _ ↦ he c)

theorem exists_report_eq_error_iff : (∃ e, a.report.result = .error e) ↔
    ∃ c ∈ a.enabled, ∃ l, c.find a.graph = .error l := by
  rw [← not_exists_ok_iff, exists_report_eq_ok_iff, not_forall]
  simp only [not_exists_ok_iff, run_eq_error_iff]

theorem tally_eq_of_runs (h : a.report.result = .ok r) (h' : a'.report.result = .ok r')
    (hcount : ∀ c e e', a.run c = .ok e → a'.run c = .ok e' → e.count = e'.count) :
    r.tally = r'.tally := by
  refine map_eq_map_of_forall₂ (report_eq_ok_iff.1 h) (report_eq_ok_iff.1 h') fun c e e' he he' ↦ ?_
  rw [check_of_run he, check_of_run he', hcount c e e' he he']

end IntegrityContract

end GraphContracts
