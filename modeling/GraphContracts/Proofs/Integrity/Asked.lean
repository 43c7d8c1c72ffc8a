import GraphContracts.Proofs.CommandLine
import GraphContracts.Proofs.Integrity.Views
import Mathlib.Tactic.Choose

namespace GraphContracts

/-- What a contract is asked for at once: one check, or all of them. -/
inductive CheckRequest where
  | one (c : Check)
  | all
  deriving DecidableEq, Repr

def CheckRequest.Asks : CheckRequest → Check → Prop
  | .one c, d => d = c
  | .all, _ => True

/-- A report holds the entries that another one has for some of the checks. For the other checks
its entries are disabled and empty. -/
structure IntegrityReport.Selects (report full : IntegrityReport) (asked : Check → Prop) :
    Prop where
  names : report.checks.map (fun e ↦ e.check.name) = Check.all.map Check.name
  enabled : ∀ c e, report.get? c.name = some e → (e.enabled = true ↔ asked c)
  kept : ∀ c, asked c → report.get? c.name = full.get? c.name
  left : ∀ c, ¬asked c → report.get? c.name = some ⟨c, false, []⟩

theorem Check.find_of_document_eq {g g' : CallGraph} (h : g'.document = g.document)
    (check : Check) : check.find g' = check.find g := by
  obtain ⟨document, source⟩ := g
  obtain ⟨document', source'⟩ := g'
  obtain rfl : document' = document := h
  cases check <;> rfl

namespace IntegrityContract

variable {a : IntegrityContract} {q : CheckRequest} {c : Check} {found : Check → List Finding}

def ask (a : IntegrityContract) : CheckRequest → IntegrityContract
  | .one c => a.enable c
  | .all => a.allChecks

theorem mem_enabled_ask : c ∈ (a.ask q).enabled ↔ c ∈ a.enabled ∨ q.Asks c := by
  cases q with
  | one d => simp [ask, enable, CheckRequest.Asks, or_comm]
  | all => simp [ask, allChecks, CheckRequest.Asks, Check.mem_all]

theorem graph_ask : (a.ask q).graph = a.graph := by
  cases q <;> rfl

theorem mem_enabled_foldl (requests : List CheckRequest) :
    c ∈ (requests.foldl ask a).enabled ↔ c ∈ a.enabled ∨ ∃ q ∈ requests, q.Asks c := by
  induction requests generalizing a with
  | nil => simp
  | cons q requests ih =>
    rw [List.foldl_cons, ih, mem_enabled_ask, List.exists_mem_cons_iff, or_assoc]

theorem graph_foldl (requests : List CheckRequest) : (requests.foldl ask a).graph = a.graph := by
  induction requests generalizing a with
  | nil => rfl
  | cons q requests ih => rw [List.foldl_cons, ih, graph_ask]

theorem check_entry : (a.entry found c).check = c := by
  unfold entry
  split <;> rfl

theorem enabled_entry : (a.entry found c).enabled = true ↔ c ∈ a.enabled := by
  by_cases hc : c ∈ a.enabled <;> simp [entry, hc]

theorem entry_allChecks (g : CallGraph) :
    (ofGraph g).allChecks.entry found c = ⟨c, true, found c⟩ :=
  entry_of_mem (Check.mem_all c)

theorem selects_ofChecks (g : CallGraph) {asked : Check → Prop}
    (hasked : ∀ c, c ∈ a.enabled ↔ asked c) :
    (IntegrityReport.ofChecks (a.entry found)).Selects
      (.ofChecks ((ofGraph g).allChecks.entry found)) asked where
  names := by
    have hchecks : ∀ c, (a.entry found c).check = c := fun _ ↦ check_entry
    rw [← IntegrityReport.map_check_ofChecks hchecks, List.map_map]
    rfl
  enabled c e he := by
    rw [IntegrityReport.get?_ofChecks fun _ ↦ check_entry] at he
    rw [← Option.some.inj he, enabled_entry, hasked]
  kept c hc := by
    rw [IntegrityReport.get?_ofChecks fun _ ↦ check_entry,
      IntegrityReport.get?_ofChecks fun _ ↦ check_entry, entry_allChecks,
      entry_of_mem ((hasked c).2 hc)]
  left c hc := by
    have hnot : c ∉ a.enabled := fun hmem ↦ hc ((hasked c).1 hmem)
    rw [IntegrityReport.get?_ofChecks fun _ ↦ check_entry, entry]
    simp [hnot]

theorem verify_of_report {r : IntegrityReport} (h : a.report.result = .ok r) :
    (r.hasIssues = true → ∃ f : Failure, a.verify.result = .error (.failure f) ∧
      f.family = .integrity ∧ f.details = .object [("report", r.record)]) ∧
    (r.hasIssues = false → a.verify.result = .ok r) := by
  rw [verify_result_of_report h]
  constructor
  · intro hissues
    exact ⟨.integrity r.summary r.record, if_pos hissues, rfl, rfl⟩
  · intro hissues
    exact if_neg (by simp [hissues])

/-- What becomes of any requests. Their report is the part of the report of all checks that they ask
for; its counts, its violated checks and its summary tell the same; it is returned, or raised as one
error, depending on whether it has issues; and the program prints the report of all checks and ends
with the exit code that goes with it. -/
theorem report_of_requests {g : CallGraph} (hg : g.ReadableLines) (requests : List CheckRequest) :
    ∃ report full : IntegrityReport,
      (requests.foldl ask (ofGraph g)).report.result = .ok report ∧
      (ofGraph g).allChecks.report.result = .ok full ∧
      report.Selects full (fun c ↦ ∃ q ∈ requests, q.Asks c) ∧
      report.totalIssues = (report.checks.map CheckResult.count).sum ∧
      [report.hasIssues = true, 0 < report.totalIssues, report.violatedChecks ≠ [],
        report.summary ≠ "No issues found"].TFAE ∧
      (report.hasIssues = true →
        ∃ f : Failure, (requests.foldl ask (ofGraph g)).verify.result = .error (.failure f) ∧
          f.family = .integrity ∧ f.details = .object [("report", report.record)]) ∧
      (report.hasIssues = false →
        (requests.foldl ask (ofGraph g)).verify.result = .ok report) ∧
      ∀ (s : CommandLine.Surroundings) (file : String) (loaded : CallGraph),
        CommandLine.isSwitchWord file = false →
        (CallGraph.load s.files (.ofString file)).result = .ok loaded →
        loaded.document = g.document →
        let out := CommandLine.run s ["report", file, "--json"]
        out.stdout = CommandLine.textOf [Json.write (Json.indented 2) full.record] ∧
          out.exitCode = (if full.hasIssues then 1 else 0) ∧ out.fault = none := by
  choose found hfind _ using fun check ↦ g.exists_find_eq_ok check fun _ ↦ hg
  have hasked : ∀ c, c ∈ (requests.foldl ask (ofGraph g)).enabled ↔ ∃ q ∈ requests, q.Asks c := by
    intro c
    rw [mem_enabled_foldl]
    simp [ofGraph]
  have hgraph : (requests.foldl ask (ofGraph g)).graph = g := graph_foldl requests
  have hreport : (requests.foldl ask (ofGraph g)).report.result =
      .ok (.ofChecks ((requests.foldl ask (ofGraph g)).entry found)) :=
    report_result fun c ↦ by rw [hgraph, hfind]
  obtain ⟨hraised, hreturned⟩ := verify_of_report hreport
  refine ⟨_, _, hreport, report_result hfind, selects_ofChecks g hasked, ?_,
    IntegrityReport.views_tfae _, hraised, hreturned, fun s file loaded hfile hload hsame ↦ ?_⟩
  · rw [IntegrityReport.totalIssues_eq, IntegrityReport.tally, List.map_map]
    rfl
  · refine CommandLine.run_report_json hfile hload ?_
    have hfound : ∀ c, Check.find loaded c = .ok (found c) := fun c ↦ by
      rw [Check.find_of_document_eq hsame, hfind]
    exact report_result (a := (ofGraph loaded).allChecks) hfound

end IntegrityContract

namespace LostSource

open IntegrityContract

def content : String :=
  "\x7b\"values\":[\x7b\"id\":\"v\",\"kind\":\"result\",\"sourceCallId\":\"c\"\x7d],\"calls\":[]\x7d"

def graph : CallGraph :=
  ⟨⟨"0.0", [⟨"v", .result, some "value", none, none, none, some "c", none, none, none⟩], []⟩,
    "calls.json"⟩

def surroundings : CommandLine.Surroundings :=
  ⟨⟨⟨1, ["work"]⟩, [(["work", "calls.json"], .octets content.toUTF8.data.toList)]⟩, 80, "12:00:00"⟩

theorem load_graph :
    (CallGraph.load surroundings.files (.ofString "calls.json")).result = .ok graph :=
  toOption_eq_some_iff.1 (by decide +kernel)

theorem readableLines : graph.ReadableLines :=
  CallGraph.readableLines_of_forall_eq_none (by decide)

def requests : List CheckRequest :=
  [.one .sourceCalls, .one .receivers, .one .sourceCalls]

theorem report_of_content :
    ∃ report full : IntegrityReport,
      (requests.foldl ask (ofGraph graph)).report.result = .ok report ∧
      report.Selects full (fun c ↦ ∃ q ∈ requests, q.Asks c) ∧
      report.summary ≠ "No issues found" ∧
      let out := CommandLine.run surroundings ["report", "calls.json", "--json"]
      out.stdout = CommandLine.textOf [Json.write (Json.indented 2) full.record] ∧
        out.exitCode = 1 ∧ out.fault = none := by
  obtain ⟨report, full, hreport, hfull, hselects, -, hviews, -, -, hrun⟩ :=
    report_of_requests readableLines requests
  obtain ⟨hout, hcode, hfault⟩ :=
    hrun surroundings "calls.json" graph (by decide) load_graph rfl
  have hissues : report.hasIssues = true := by
    have hknown : (requests.foldl ask (ofGraph graph)).report.result.toOption.map
        IntegrityReport.hasIssues = some true := by decide
    rw [hreport] at hknown
    exact Option.some.inj hknown
  have hfullIssues : full.hasIssues = true := by
    have hknown : (ofGraph graph).allChecks.report.result.toOption.map
        IntegrityReport.hasIssues = some true := by decide
    rw [hfull] at hknown
    exact Option.some.inj hknown
  rw [hfullIssues] at hcode
  exact ⟨report, full, hreport, hselects, (hviews.out 0 3).1 hissues, hout, hcode, hfault⟩

end LostSource

end GraphContracts
