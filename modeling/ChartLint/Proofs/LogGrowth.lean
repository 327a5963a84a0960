import ChartLint.Proofs.LineTokens
import ChartLint.Proofs.LogTally
import ChartLint.Proofs.RecordRoundTrip

/-!
# Run logs grow by what is logged

A run log keeps every run that is added to it, and counts it once.  Whatever is in the log before, as
long as its last line has its end, the statistics of the log with new records behind it are the
statistics of the log with these records recorded in their order.

*Lines.*  A text whose last line has its end can be cut into lines apart from what follows
(`splitLines_append`).  A record is one line, since there is no end of line in it, and the line is
not blank.

*Statistics.*  The tallies of a run log are proper, there is a first run if any run was counted, and
the numbers of files fit their words (`LogStats.IsSound`).  These numbers grow as words do: a sum that
does not fit wraps around.
-/

namespace ChartLint

/-! ## Lines -/

namespace Text

/-- The last line of a text has its end, if there is a line. -/
def IsComplete (cs : List Char) : Prop :=
  cs = [] ∨ cs.getLast? = some '\n'

theorem isComplete_append_lineFeed (cs : List Char) : IsComplete (cs ++ ['\n']) :=
  .inr List.getLast?_concat

theorem splitLines_eq_nil_iff {cs : List Char} : splitLines cs = [] ↔ cs = [] := by
  fun_induction splitLines cs with
  | case1 => simp
  | case2 => simp
  | case3 c cs hc hreturn ih =>
      rw [ih]
      constructor
      · rintro rfl
        cases hreturn.2
      · intro h
        cases h
  | case4 => simp
  | case5 => simp

/-- A text whose last line has its end is cut into lines apart from what follows. -/
theorem splitLines_append {cs : List Char} (h : IsComplete cs) (ds : List Char) :
    splitLines (cs ++ ds) = splitLines cs ++ splitLines ds := by
  induction cs with
  | nil => rfl
  | cons c cs ih =>
      have hlast : (c :: cs).getLast? = some '\n' := by
        rcases h with h | h
        · cases h
        · exact h
      have hcs : IsComplete cs := by
        cases cs with
        | nil => exact .inl rfl
        | cons d cs => exact .inr (by rwa [List.getLast?_cons_cons] at hlast)
      rw [List.cons_append, splitLines, splitLines, ih hcs]
      split
      next => rfl
      next hc =>
        -- The line goes on behind the character.
        obtain ⟨d, rest, rfl⟩ : ∃ d rest, cs = d :: rest := by
          cases cs with
          | nil => exact absurd (Option.some.inj hlast) hc
          | cons d rest => exact ⟨d, rest, rfl⟩
        rw [List.cons_append, List.head?_cons, List.head?_cons]
        split
        next => rfl
        next =>
          cases hlines : splitLines (d :: rest) with
          | nil => cases splitLines_eq_nil_iff.1 hlines
          | cons line more => rfl

/-- A line feed behind characters without line ends makes them one line. -/
theorem splitLines_line {line : List Char} (hfeed : '\n' ∉ line) (hreturn : '\r' ∉ line) :
    splitLines (line ++ ['\n']) = [line] := by
  induction line with
  | nil => rfl
  | cons c line ih =>
      rw [List.mem_cons, not_or] at hfeed hreturn
      rw [List.cons_append, splitLines, if_neg (Ne.symm hfeed.1),
        if_neg (fun h => hreturn.1 h.1.symm), ih hfeed.2 hreturn.2]

end Text

/-! ## A record behind a log -/

namespace RunRecord

theorem trim_print_ne_empty (r : RunRecord) : Text.trim r.print ≠ "" := by
  intro h
  rw [trim_eq_empty_iff] at h
  have hbrace : Text.isBlank '\x7b' = true := by
    refine h _ ?_
    rw [toList_print, toJson, Json.print]
    exact List.mem_cons_self
  revert hbrace
  decide +kernel

theorem isComplete_logLine (log : String) (r : RunRecord) :
    Text.IsComplete (log ++ r.logLine).toList := by
  rw [logLine, String.toList_append, String.toList_append, ← List.append_assoc]
  exact Text.isComplete_append_lineFeed _

/-- The line of a record is one line more. -/
theorem lines_append_logLine {log : String} (hlog : Text.IsComplete log.toList) {r : RunRecord}
    (h : r.Fits) : Text.lines (log ++ r.logLine) = Text.lines log ++ [r.print] := by
  rw [Text.lines, logLine, String.toList_append, String.toList_append, Text.splitLines_append hlog]
  have hline := Text.splitLines_line (lineFeed_not_mem_print h) (carriageReturn_not_mem_print h)
  show (_ ++ Text.splitLines (r.print.toList ++ ['\n'])).map String.ofList = _
  rw [hline, List.map_append, List.map_singleton, String.ofList_toList]
  rfl

end RunRecord

namespace LogStats

theorem countLine_print (s : LogStats) {r : RunRecord} (h : r.Fits) :
    s.countLine r.print = s.record r := by
  rw [countLine, if_neg r.trim_print_ne_empty, RunRecord.read_print h]

/-- A record that is added to a log is recorded once, behind what was in the log. -/
theorem ofText_append_logLine {log : String} (hlog : Text.IsComplete log.toList) {r : RunRecord}
    (h : r.Fits) : ofText (log ++ r.logLine) = (ofText log).record r := by
  rw [ofText, RunRecord.lines_append_logLine hlog h, List.foldl_append, List.foldl_cons,
    List.foldl_nil, countLine_print _ h]
  rfl

end LogStats

/-- A run log after records were added to it. -/
def logWith (log : String) (rs : List RunRecord) : String :=
  rs.foldl (fun text r => text ++ r.logLine) log

namespace LogStats

/-- Records that are added to a log are recorded in their order, behind what was in the log. -/
theorem ofText_logWith {log : String} (hlog : Text.IsComplete log.toList) {rs : List RunRecord}
    (hrs : ∀ r ∈ rs, r.Fits) : ofText (logWith log rs) = rs.foldl record (ofText log) := by
  induction rs generalizing log with
  | nil => rfl
  | cons r rs ih =>
      obtain ⟨hr, hrs⟩ := List.forall_mem_cons.1 hrs
      show ofText (logWith (log ++ r.logLine) rs) = _
      rw [ih (r.isComplete_logLine log) hrs, ofText_append_logLine hlog hr, List.foldl_cons]

/-! ## Statistics of a log -/

/-- What holds of the statistics of every run log. -/
structure IsSound (s : LogStats) : Prop where
  /-- The counts by category are in order. -/
  byCategory : s.byCategory.IsProper
  /-- The counts by path are in order. -/
  byFile : s.byFile.IsProper
  /-- There is a first run exactly if there are runs. -/
  firstRun : s.firstRun = none ↔ s.runs = 0
  /-- The number of files fits a word. -/
  filesScanned : s.filesScanned < Word.size
  /-- The number of unreadable files fits a word. -/
  filesFailed : s.filesFailed < Word.size

theorem isSound_empty : IsSound {} where
  byCategory := Tally.isProper_nil
  byFile := Tally.isProper_nil
  firstRun := by simp
  filesScanned := Word.size_pos
  filesFailed := Word.size_pos

theorem IsSound.record {s : LogStats} (h : s.IsSound) (r : RunRecord) : (s.record r).IsSound := by
  rw [record_eq]
  refine ⟨h.byCategory.addAll ne_zero_of_mem_categoryCounts,
    h.byFile.addAll ne_zero_of_mem_fileCounts, ?_, Word.add_lt .., Word.add_lt ..⟩
  cases s.firstRun <;> simp

theorem IsSound.countLine {s : LogStats} (h : s.IsSound) (line : String) :
    (s.countLine line).IsSound := by
  rw [LogStats.countLine]
  split
  · exact h
  · cases RunRecord.read line with
    | none => exact ⟨h.byCategory, h.byFile, h.firstRun, h.filesScanned, h.filesFailed⟩
    | some r => exact h.record r

theorem isSound_ofText (log : String) : (ofText log).IsSound := by
  rw [ofText]
  generalize Text.lines log = ls
  induction ls using List.reverseRecOn with
  | nil => exact isSound_empty
  | append_singleton ls line ih =>
      rw [List.foldl_append, List.foldl_cons, List.foldl_nil]
      exact ih.countLine line

end LogStats

end ChartLint
