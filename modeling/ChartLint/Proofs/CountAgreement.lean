import ChartLint.CommandLine.Run
import ChartLint.Proofs.LogTally

/-!
# The counters of runs agree

The findings of a run are counted when the run is summed up, when its exit code is given, when its
record is made, and once more when its record is added to the statistics.  The last time they are
counted by the words of the record.  All these counts are the same, for one run and for any number of
runs.

*Loops.*  The end of a run and its record count the findings in loops of their own.  The one for the
record passes over results without findings.  Both give the numbers of all findings
(`Run.Counts.ofResults_eq`, `LoggedFindings.ofResults_eq`).

*Words.*  The words for a severity and for a rule in a record say what the finding was
(`ofFindings_map_ofDiagnostic`).

*Sums.*  The counts of the findings of a record, all of them or those of one path, are the counts of
the results (`LoggedRun.ofFindings_findings`, `LoggedRun.ofFindings_findings_path`), and what is
recorded adds up.
-/

namespace ChartLint

/-! ## Words -/

theorem Severity.equalIgnoringCase_error (severity : Severity) :
    Text.equalIgnoringCase severity.name "error" = (severity == .error) := by
  cases severity <;> decide

theorem Category.ofRuleId?_ruleId (c : Category) : ofRuleId? c.ruleId = some c := by
  cases c <;> decide

namespace SeverityCount

/-- The errors and the warnings among findings. -/
def ofDiagnostics (found : List Diagnostic) : SeverityCount where
  errors := found.countP (·.severity == .error)
  warnings := found.countP (·.severity == .warning)

theorem ofDiagnostics_append (found found' : List Diagnostic) :
    ofDiagnostics (found ++ found') = ofDiagnostics found + ofDiagnostics found' :=
  mk_countP_append _ _ found found'

/-- Every finding is an error or a warning. -/
theorem total_ofDiagnostics (found : List Diagnostic) : (ofDiagnostics found).total = found.length := by
  have hnot (d : Diagnostic) : ¬ (d.severity == .error) = true ↔ (d.severity == .warning) = true := by
    cases d.severity <;> decide
  rw [List.length_eq_countP_add_countP (·.severity == .error)]
  refine congrArg (found.countP _ + ·) (List.countP_congr fun d _ => ?_)
  rw [decide_eq_true_iff, hnot]

theorem ofDiagnostics_eq_zero_iff {found : List Diagnostic} : ofDiagnostics found = 0 ↔ found = [] := by
  constructor
  · intro h
    have htotal := total_ofDiagnostics found
    rw [h] at htotal
    exact List.length_eq_zero_iff.1 htotal.symm
  · rintro rfl
    rfl

/-- Findings are counted in the log as they are without it. -/
theorem ofFindings_map_ofDiagnostic (path : String) (lines : List String) (found : List Diagnostic) :
    ofFindings (found.map (.ofDiagnostic path lines)) = ofDiagnostics found := by
  induction found with
  | nil => rfl
  | cons d found ih =>
      rw [List.map_cons, ofFindings_cons, ih, ← List.singleton_append, ofDiagnostics_append]
      congr 1
      show ofSeverity d.severity.name = _
      rw [ofSeverity, d.severity.equalIgnoringCase_error, ofDiagnostics, List.countP_singleton,
        List.countP_singleton]
      cases d.severity <;> rfl

end SeverityCount

/-! ## Results and records -/

/-- The number of findings that are errors. -/
def errorCount (results : List LintResult) : Nat :=
  (results.flatMap (·.diagnostics)).countP (·.severity == .error)

/-- The number of findings that are warnings. -/
def warningCount (results : List LintResult) : Nat :=
  (results.flatMap (·.diagnostics)).countP (·.severity == .warning)

/-- The number of files that could not be read. -/
def failedCount (results : List LintResult) : Nat :=
  results.countP (·.failure?.isSome)

/-- The counts of results are those of all their findings. -/
theorem ofDiagnostics_results (results : List LintResult) :
    SeverityCount.ofDiagnostics (results.flatMap (·.diagnostics)) =
      ⟨errorCount results, warningCount results⟩ := rfl

/-- The findings of results as they go into the log. -/
def loggedFindings (linesOf : String → List String) (results : List LintResult) : List LoggedFinding :=
  results.flatMap fun r => r.diagnostics.map (.ofDiagnostic r.path (linesOf r.path))

namespace LoggedFindings

theorem foldl_addFinding (path : String) (lines : List String) (l : LoggedFindings)
    (found : List Diagnostic) :
    found.foldl (addFinding path lines) l =
      ⟨l.errors + found.countP (·.severity == .error),
        l.warnings + found.countP (·.severity == .warning),
        l.findings ++ found.map (.ofDiagnostic path lines)⟩ := by
  induction found generalizing l with
  | nil => simp
  | cons d found ih =>
      rw [List.foldl_cons, ih, addFinding]
      cases hseverity : d.severity <;>
        simp [hseverity, Nat.add_assoc, Nat.add_comm 1]

/-- A result without findings is passed over, but it would put nothing in. -/
theorem addResult_eq (linesOf : String → List String) (l : LoggedFindings) (r : LintResult) :
    addResult linesOf l r = r.diagnostics.foldl (addFinding r.path (linesOf r.path)) l := by
  rw [addResult]
  split
  case isTrue h =>
    rw [List.isEmpty_iff.1 h]
    rfl
  case isFalse => rfl

theorem foldl_addResult (linesOf : String → List String) (l : LoggedFindings)
    (results : List LintResult) :
    results.foldl (addResult linesOf) l =
      ⟨l.errors + errorCount results, l.warnings + warningCount results,
        l.findings ++ loggedFindings linesOf results⟩ := by
  induction results generalizing l with
  | nil => simp [errorCount, warningCount, loggedFindings]
  | cons r results ih =>
      rw [List.foldl_cons, ih, addResult_eq, foldl_addFinding]
      simp [errorCount, warningCount, loggedFindings, Nat.add_assoc]

/-- The record of a run is made of all its findings, and counts them. -/
theorem ofResults_eq (linesOf : String → List String) (results : List LintResult) :
    ofResults linesOf results =
      ⟨errorCount results, warningCount results, loggedFindings linesOf results⟩ := by
  rw [ofResults, foldl_addResult]
  simp

end LoggedFindings

namespace Run.Counts

theorem foldl_addFinding (c : Counts) (found : List Diagnostic) :
    found.foldl addFinding c =
      ⟨c.errors + found.countP (·.severity == .error),
        c.warnings + found.countP (·.severity == .warning), c.unreadable⟩ := by
  induction found generalizing c with
  | nil => rfl
  | cons d found ih =>
      rw [List.foldl_cons, ih, addFinding]
      cases hseverity : d.severity <;>
        simp [hseverity, Nat.add_assoc, Nat.add_comm 1]

theorem foldl_addResult (c : Counts) (results : List LintResult) :
    results.foldl addResult c =
      ⟨c.errors + errorCount results, c.warnings + warningCount results,
        c.unreadable + failedCount results⟩ := by
  induction results generalizing c with
  | nil => rfl
  | cons r results ih =>
      rw [List.foldl_cons, ih, addResult, foldl_addFinding]
      cases hfailed : r.failure?.isSome <;>
        simp [errorCount, warningCount, failedCount, hfailed, Nat.add_assoc, Nat.add_comm 1]

/-- A run is summed up by the numbers of all its findings and of its unreadable files. -/
theorem ofResults_eq (results : List LintResult) :
    ofResults results = ⟨errorCount results, warningCount results, failedCount results⟩ := by
  rw [ofResults, foldl_addResult]
  simp

end Run.Counts

theorem ofFindings_loggedFindings (linesOf : String → List String) (results : List LintResult) :
    SeverityCount.ofFindings (loggedFindings linesOf results) =
      SeverityCount.ofDiagnostics (results.flatMap (·.diagnostics)) := by
  induction results with
  | nil => rfl
  | cons r results ih =>
      rw [loggedFindings, List.flatMap_cons, SeverityCount.ofFindings_append,
        SeverityCount.ofFindings_map_ofDiagnostic, List.flatMap_cons,
        SeverityCount.ofDiagnostics_append, ← ih]
      rfl

/-- The findings of a path are those of the results with this path. -/
theorem filter_loggedFindings (linesOf : String → List String) (results : List LintResult)
    (path : String) :
    (loggedFindings linesOf results).filter (·.path = path) =
      loggedFindings linesOf (results.filter (·.path = path)) := by
  induction results with
  | nil => rfl
  | cons r results ih =>
      rw [loggedFindings, List.flatMap_cons, List.filter_append]
      show _ ++ (loggedFindings linesOf results).filter _ = _
      rw [ih]
      by_cases hpath : r.path = path
      · rw [List.filter_cons_of_pos (by simpa using hpath), List.filter_eq_self.2]
        · rfl
        · intro f hf
          obtain ⟨d, -, rfl⟩ := List.mem_map.1 hf
          exact decide_eq_true hpath
      · rw [List.filter_cons_of_neg (by simpa using hpath), List.filter_eq_nil_iff.2]
        · rfl
        · intro f hf
          obtain ⟨d, -, rfl⟩ := List.mem_map.1 hf
          exact fun h => hpath (of_decide_eq_true h)

theorem length_loggedFindings (linesOf : String → List String) (results : List LintResult) :
    (loggedFindings linesOf results).length = errorCount results + warningCount results := by
  have htotal := SeverityCount.total_ofDiagnostics (results.flatMap (·.diagnostics))
  rw [ofDiagnostics_results] at htotal
  rw [show errorCount results + warningCount results = _ from htotal, loggedFindings,
    List.length_flatMap, List.length_flatMap]
  simp

theorem isSome_ofRuleId?_of_mem_loggedFindings {linesOf : String → List String}
    {results : List LintResult} {f : LoggedFinding} (h : f ∈ loggedFindings linesOf results) :
    (Category.ofRuleId? f.ruleId).isSome = true := by
  obtain ⟨r, -, hf⟩ := List.mem_flatMap.1 h
  obtain ⟨d, -, rfl⟩ := List.mem_map.1 hf
  show (Category.ofRuleId? d.category.ruleId).isSome = true
  rw [Category.ofRuleId?_ruleId]
  rfl

/-! ## One run -/

/-- A run that is logged: what came out of it, and the files, the selected rules and the time when its
record is made. -/
structure LoggedRun where
  /-- The results. -/
  results : List LintResult
  /-- The files. -/
  files : FileSystem
  /-- The ids of the rules, if some were selected. -/
  enabledRules : Option (List String)
  /-- The time. -/
  now : Instant

/-- The record of a run. -/
def LoggedRun.record (run : LoggedRun) : RunRecord :=
  .ofRun run.files run.results run.enabledRules run.now

theorem LintResult.hasErrors_iff {r : LintResult} :
    r.hasErrors = true ↔ r.failure?.isSome = true ∨ ∃ d ∈ r.diagnostics, d.isError = true := by
  rw [hasErrors, Bool.or_eq_true, List.any_eq_true]

/-- There are errors or unreadable files among results exactly if one of the results has errors. -/
theorem any_hasErrors_iff (results : List LintResult) :
    results.any (·.hasErrors) = true ↔ 0 < errorCount results ∨ 0 < failedCount results := by
  rw [List.any_eq_true, errorCount, failedCount, List.countP_pos_iff, List.countP_pos_iff]
  simp only [LintResult.hasErrors_iff, List.mem_flatMap]
  constructor
  · rintro ⟨r, hr, hfailed | ⟨d, hd, herror⟩⟩
    · exact .inr ⟨r, hr, hfailed⟩
    · exact .inl ⟨d, ⟨r, hr, hd⟩, herror⟩
  · rintro (⟨d, ⟨r, hr, hd⟩, herror⟩ | ⟨r, hr, hfailed⟩)
    · exact ⟨r, hr, .inr ⟨d, hd, herror⟩⟩
    · exact ⟨r, hr, .inl hfailed⟩

/-- The record of a run counts what the run says. -/
structure LoggedRun.Agrees (run : LoggedRun) : Prop where
  /-- The number of findings is that of the findings that are listed. -/
  listed : run.record.totalDiagnostics = run.record.diagnostics.length
  /-- Each finding is an error or a warning. -/
  total : run.record.totalDiagnostics = run.record.errorCount + run.record.warningCount
  /-- The errors of the record are those of the results. -/
  errors : run.record.errorCount =
    (run.results.map fun r => r.diagnostics.countP (·.severity == .error)).sum
  /-- The warnings of the record are those of the results. -/
  warnings : run.record.warningCount =
    (run.results.map fun r => r.diagnostics.countP (·.severity == .warning)).sum
  /-- The run is summed up by the numbers of its record. -/
  summary : ∀ verbose, Run.summary verbose run.results =
    if 0 < run.record.totalDiagnostics then
      ["", "Found " ++ toString run.record.totalDiagnostics ++ " issue(s): "
        ++ toString run.record.errorCount ++ " error(s), "
        ++ toString run.record.warningCount ++ " warning(s)"]
    else if verbose then ["", "No issues found."]
    else []
  /-- The exit code is 1 exactly if a result has errors, and it is 0 otherwise. -/
  exitCode : Run.exitCode run.results = if run.results.any (·.hasErrors) then 1 else 0
  /-- A result has errors exactly if the record counts an error or an unreadable file. -/
  hasErrors : run.results.any (·.hasErrors) = true ↔
    0 < run.record.errorCount ∨ 0 < run.record.filesFailed

namespace LoggedRun

theorem diagnostics_record (run : LoggedRun) :
    run.record.diagnostics = loggedFindings run.files.linesOf run.results :=
  congrArg LoggedFindings.findings (LoggedFindings.ofResults_eq run.files.linesOf run.results)

theorem errorCount_record (run : LoggedRun) : run.record.errorCount = errorCount run.results :=
  congrArg LoggedFindings.errors (LoggedFindings.ofResults_eq run.files.linesOf run.results)

theorem warningCount_record (run : LoggedRun) :
    run.record.warningCount = warningCount run.results :=
  congrArg LoggedFindings.warnings (LoggedFindings.ofResults_eq run.files.linesOf run.results)

theorem totalDiagnostics_record (run : LoggedRun) :
    run.record.totalDiagnostics = errorCount run.results + warningCount run.results := by
  rw [← length_loggedFindings run.files.linesOf, ← diagnostics_record]
  rfl

theorem agrees (run : LoggedRun) : run.Agrees where
  listed := rfl
  total := by rw [totalDiagnostics_record, errorCount_record, warningCount_record]
  errors := by
    rw [errorCount_record]
    exact List.countP_flatMap
  warnings := by
    rw [warningCount_record]
    exact List.countP_flatMap
  summary verbose := by
    rw [Run.summary, Run.Counts.ofResults_eq, totalDiagnostics_record, errorCount_record,
      warningCount_record]
  exitCode := by
    rw [Run.exitCode, Run.Counts.ofResults_eq]
    simp only [any_hasErrors_iff]
  hasErrors := by
    rw [errorCount_record]
    exact any_hasErrors_iff run.results

end LoggedRun

/-! ## Many runs -/

theorem Word.foldl_add_zero (ns : List Nat) : ns.foldl Word.add 0 = ns.sum % Word.size := by
  rw [Word.foldl_add Word.size_pos, Nat.zero_add]
  rfl

namespace LogStats

/-- The totals are the counts of all categories together. -/
theorem totals_eq_sum (s : LogStats) : s.totals = (s.byCategory.map (·.2)).sum := by
  have hfold (t : Tally Category) (acc : SeverityCount) :
      t.foldl (fun acc p => acc.add p.2) acc = acc + (t.map (·.2)).sum := by
    induction t generalizing acc with
    | nil => exact (add_zero acc).symm
    | cons p t ih =>
        rw [List.foldl_cons, ih, List.map_cons, List.sum_cons, ← add_assoc]
        rfl
  exact (hfold s.byCategory 0).trans (zero_add _)

/-- If all rules are known, the counts by category add up to those of the findings. -/
theorem sum_snd_categoryCounts {found : List LoggedFinding}
    (h : ∀ f ∈ found, (Category.ofRuleId? f.ruleId).isSome = true) :
    ((categoryCounts found).map (·.2)).sum = SeverityCount.ofFindings found := by
  rw [categoryCounts, List.map_filterMap, ← SeverityCount.sum_ofSeverity, ← List.filterMap_eq_map]
  refine congrArg List.sum (List.filterMap_congr fun f hf => ?_)
  obtain ⟨c, hc⟩ := Option.isSome_iff_exists.1 (h f hf)
  rw [hc]
  rfl

theorem sum_snd_fileCounts (found : List LoggedFinding) :
    ((fileCounts found).map (·.2)).sum = SeverityCount.ofFindings found := by
  rw [fileCounts, List.map_map, ← SeverityCount.sum_ofSeverity]
  rfl

/-- The statistics of runs that are recorded one after the other. -/
def ofRuns (runs : List LoggedRun) : LogStats :=
  (runs.map (·.record)).foldl LogStats.record {}

end LogStats

/-- The findings of the records of runs. -/
def LoggedRun.findings (runs : List LoggedRun) : List LoggedFinding :=
  (runs.map (·.record)).flatMap (·.diagnostics)

namespace LoggedRun

theorem findings_cons (run : LoggedRun) (runs : List LoggedRun) :
    findings (run :: runs) = loggedFindings run.files.linesOf run.results ++ findings runs := by
  rw [← diagnostics_record]
  rfl

theorem isSome_ofRuleId?_of_mem_findings (runs : List LoggedRun) :
    ∀ f ∈ findings runs, (Category.ofRuleId? f.ruleId).isSome = true := by
  intro f hf
  obtain ⟨r, hr, hf⟩ := List.mem_flatMap.1 hf
  obtain ⟨run, -, rfl⟩ := List.mem_map.1 hr
  rw [diagnostics_record] at hf
  exact isSome_ofRuleId?_of_mem_loggedFindings hf

/-- The findings of runs are counted by their records. -/
theorem ofFindings_findings (runs : List LoggedRun) :
    SeverityCount.ofFindings (findings runs) =
      ⟨(runs.map (·.record.errorCount)).sum, (runs.map (·.record.warningCount)).sum⟩ := by
  induction runs with
  | nil => rfl
  | cons run runs ih =>
      rw [findings_cons, SeverityCount.ofFindings_append, ofFindings_loggedFindings,
        ofDiagnostics_results, ih, ← errorCount_record, ← warningCount_record]
      rfl

/-- The findings of a path are counted by the results with this path. -/
theorem ofFindings_findings_path (runs : List LoggedRun) (path : String) :
    SeverityCount.ofFindings ((findings runs).filter (·.path = path)) =
      .ofDiagnostics (((runs.flatMap (·.results)).filter (·.path = path)).flatMap (·.diagnostics)) := by
  induction runs with
  | nil => rfl
  | cons run runs ih =>
      rw [findings_cons, List.filter_append, SeverityCount.ofFindings_append, filter_loggedFindings,
        ofFindings_loggedFindings, ih, List.flatMap_cons, List.filter_append, List.flatMap_append,
        SeverityCount.ofDiagnostics_append]

end LoggedRun

namespace LogStats

theorem byCategory_ofRuns (runs : List LoggedRun) :
    (ofRuns runs).byCategory = Tally.addAll [] (categoryCounts (LoggedRun.findings runs)) := by
  rw [ofRuns, foldl_record]
  rfl

theorem byFile_ofRuns (runs : List LoggedRun) :
    (ofRuns runs).byFile = Tally.addAll [] (fileCounts (LoggedRun.findings runs)) := by
  rw [ofRuns, foldl_record]
  rfl

/-- Both tallies add up to the counts of all findings. -/
theorem totals_ofRuns (runs : List LoggedRun) :
    (ofRuns runs).totals = .ofFindings (LoggedRun.findings runs) := by
  rw [totals_eq_sum, byCategory_ofRuns, Tally.sum_addAll,
    sum_snd_categoryCounts (LoggedRun.isSome_ofRuleId?_of_mem_findings runs)]
  exact zero_add _

theorem sum_byFile_ofRuns (runs : List LoggedRun) :
    ((ofRuns runs).byFile.map (·.2)).sum = .ofFindings (LoggedRun.findings runs) := by
  rw [byFile_ofRuns, Tally.sum_addAll, sum_snd_fileCounts]
  exact zero_add _

/-- The count of a path is that of the results with this path. -/
theorem get_byFile_ofRuns (runs : List LoggedRun) (path : String) :
    (ofRuns runs).byFile.get path =
      .ofDiagnostics (((runs.flatMap (·.results)).filter (·.path = path)).flatMap (·.diagnostics)) := by
  rw [byFile_ofRuns, Tally.get_addAll .nil, sum_fileCounts, LoggedRun.ofFindings_findings_path]
  exact zero_add _

theorem isProper_byFile_ofRuns (runs : List LoggedRun) : (ofRuns runs).byFile.IsProper := by
  rw [byFile_ofRuns]
  exact Tally.isProper_nil.addAll ne_zero_of_mem_fileCounts

/-- Statistics count what the records and the results of runs count. -/
structure Agrees (runs : List LoggedRun) (s : LogStats) : Prop where
  /-- The totals are the sums over the records. -/
  totals : s.totals =
    ⟨(runs.map (·.record.errorCount)).sum, (runs.map (·.record.warningCount)).sum⟩
  /-- The totals are the sums over the files. -/
  totals_byFile : s.totals = ⟨(s.byFile.map (·.2.errors)).sum, (s.byFile.map (·.2.warnings)).sum⟩
  /-- The files are those of all runs, as far as a word can hold their number. -/
  filesScanned : s.filesScanned = (runs.map (·.results.length)).sum % Word.size
  /-- The unreadable files are those of all runs, as far as a word can hold their number. -/
  filesFailed : s.filesFailed =
    (runs.map fun run => run.results.countP (·.failure?.isSome)).sum % Word.size
  /-- A path has the errors and the warnings of all results with this path, and it is left out if
  there are none. -/
  byFile : ∀ path, s.byFile.lookup path =
    let found := ((runs.flatMap (·.results)).filter (·.path = path)).flatMap (·.diagnostics)
    if found = [] then none
    else some ⟨found.countP (·.severity == .error), found.countP (·.severity == .warning)⟩

theorem agrees_ofRuns (runs : List LoggedRun) : (ofRuns runs).Agrees runs where
  totals := by rw [totals_ofRuns, LoggedRun.ofFindings_findings]
  totals_byFile := by
    rw [totals_ofRuns, ← sum_byFile_ofRuns]
    ext
    · rw [SeverityCount.errors_sum, List.map_map]
      rfl
    · rw [SeverityCount.warnings_sum, List.map_map]
      rfl
  filesScanned := by
    rw [ofRuns, foldl_record]
    refine (Word.foldl_add_zero _).trans ?_
    rw [List.map_map]
    rfl
  filesFailed := by
    rw [ofRuns, foldl_record]
    refine (Word.foldl_add_zero _).trans ?_
    rw [List.map_map]
    rfl
  byFile path := by
    rw [(isProper_byFile_ofRuns runs).lookup_eq, get_byFile_ofRuns]
    simp only [SeverityCount.ofDiagnostics_eq_zero_iff]
    rfl

end LogStats

/-- All counters agree.  The record of every run has the numbers by which the run is summed up and by
which its exit code is given, and the statistics of any number of runs add up these numbers, by
category, by file and by run. -/
theorem counters_agree (runs : List LoggedRun) :
    (∀ run : LoggedRun, run.Agrees) ∧ (LogStats.ofRuns runs).Agrees runs :=
  ⟨LoggedRun.agrees, LogStats.agrees_ofRuns runs⟩

end ChartLint
