import GraphContracts.CommandLine.Run

namespace GraphContracts

namespace Logged

variable {α β : Type}

theorem bind_result_of_ok {x : Logged α} {a : α} (h : x.result = .ok a) (f : α → Logged β) :
    (x >>= f).result = (f a).result := by
  change (Logged.bind x f).result = _
  rw [Logged.bind, h]

end Logged

namespace CommandLine

theorem readFrom_operand {switches : List Switch} {word : String} {rest : List String}
    (h : isSwitchWord word = false) :
    readFrom switches true none (word :: rest) =
      (readFrom switches true none rest).map fun a ↦ a.operate word := by
  have hword : word ≠ "--" := by
    rintro rfl
    exact absurd h (by decide)
  rw [readFrom]
  simp [hword, h]

theorem ofArguments_report_json {word : String} (h : isSwitchWord word = false) :
    Invocation.ofArguments ["report", word, "--json"] = .ok ⟨false, .report word true⟩ := by
  have hswitch : readFrom Command.report.switches true none ["--json"] =
      .ok ⟨[(.json, "")], []⟩ := by rfl
  have hread : (Command.report.read [word, "--json"]).mapError (Misuse.mk (some .report)) =
      .ok (.report word true) := by
    rw [Command.read, CommandLine.read, readFrom_operand h, hswitch]
    rfl
  have hprogram : (CommandLine.read programSwitches false ["report", word, "--json"]).mapError
      (Misuse.mk none) = .ok ⟨[], ["report", word, "--json"]⟩ := by
    rw [CommandLine.read, readFrom]
    rfl
  have hcommand : Command.ofName? "report" = some .report := Command.ofName?_name .report
  have hearly : earlyRequest? none ⟨[], ["report", word, "--json"]⟩ = none := rfl
  simp [Invocation.ofArguments, hprogram, hearly, hcommand, hread, bind, Except.bind, pure,
    Except.pure, Arguments.has]

variable {s : Surroundings} {word : String} {g : CallGraph} {r : IntegrityReport}

/-- A report as JSON is the record of the report of all checks, and its exit code tells whether it
has issues. -/
theorem run_report_json (hword : isSwitchWord word = false)
    (hload : (CallGraph.load s.files (.ofString word)).result = .ok g)
    (hreport : (IntegrityContract.ofGraph g).allChecks.report.result = .ok r) :
    let out := run s ["report", word, "--json"]
    out.stdout = textOf [Json.write (Json.indented 2) r.record] ∧
      out.exitCode = (if r.hasIssues then 1 else 0) ∧ out.fault = none := by
  have hanswer : (answer s (.report word true)).result =
      .ok { Answer.ofLines [Json.write (Json.indented 2) r.record] with
        findsIssues := r.hasIssues } := by
    rw [answer, report, Logged.bind_result_of_ok hload, Logged.bind_result_of_ok hreport]
    rfl
  have hrun : ∃ log, run s ["report", word, "--json"] =
      .ofAnswer log (answer s (.report word true)).result := by
    rw [run, ofArguments_report_json hword]
    exact ⟨_, rfl⟩
  obtain ⟨log, hrun⟩ := hrun
  rw [hrun, hanswer]
  exact ⟨rfl, by simp [Outcome.ofAnswer, Answer.ofLines], rfl⟩

end CommandLine

end GraphContracts
