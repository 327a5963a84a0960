import ChartLint.RunLog.Record
import ChartLint.Word

/-!
# Statistics of a run log

The records of a run log are counted one after the other.  Errors and warnings are tallied by
category and by file; a finding whose rule is not known counts for its file only.  Lines that are no
records are counted too, blank lines apart.  The numbers of files come from the records, so they are
added up in machine words.

A tally is a list of keys in increasing order, each with its counts.
-/

namespace ChartLint

/-- A number of errors and a number of warnings. -/
structure SeverityCount where
  /-- The errors. -/
  errors : Nat := 0
  /-- The warnings. -/
  warnings : Nat := 0
deriving DecidableEq, Repr, Inhabited

namespace SeverityCount

/-- Errors and warnings together. -/
def total (c : SeverityCount) : Nat :=
  c.errors + c.warnings

/-- The sum of two counts. -/
def add (a b : SeverityCount) : SeverityCount :=
  ⟨a.errors + b.errors, a.warnings + b.warnings⟩

/-- The count of one finding.  What is not called an error is a warning. -/
def ofSeverity (severity : String) : SeverityCount :=
  if Text.equalIgnoringCase severity "error" then ⟨1, 0⟩ else ⟨0, 1⟩

end SeverityCount

/-- Keys in increasing order, with counts. -/
abbrev Tally (κ : Type) := List (κ × SeverityCount)

namespace Tally

variable {κ : Type} [LT κ] [DecidableLT κ]

/-- Add to the count of a key. -/
def add (key : κ) (count : SeverityCount) : Tally κ → Tally κ
  | [] => [(key, count)]
  | (k, c) :: rest =>
    if key < k then (key, count) :: (k, c) :: rest
    else if k < key then (k, c) :: add key count rest
    else (k, c.add count) :: rest

end Tally

/-- Categories are ordered as their ids are. -/
instance : LT Category := ⟨fun a b => a.rank < b.rank⟩

instance (a b : Category) : Decidable (a < b) :=
  inferInstanceAs (Decidable (a.rank < b.rank))

/-- What a run log adds up to. -/
structure LogStats where
  /-- The number of records. -/
  runs : Nat := 0
  /-- The number of lines that are no records. -/
  skippedLines : Nat := 0
  /-- The files of all runs. -/
  filesScanned : Nat := 0
  /-- The files of all runs that could not be read. -/
  filesFailed : Nat := 0
  /-- Counts by category. -/
  byCategory : Tally Category := []
  /-- Counts by path. -/
  byFile : Tally String := []
  /-- When the first run was, and its number of findings. -/
  firstRun : Option (String × Nat) := none
  /-- When the last run was, and its number of findings. -/
  lastRun : Option (String × Nat) := none
deriving DecidableEq, Repr, Inhabited

namespace LogStats

/-- Count one finding. -/
def countFinding (s : LogStats) (f : LoggedFinding) : LogStats :=
  let count := SeverityCount.ofSeverity f.severity
  { s with
    byCategory := match Category.ofRuleId? f.ruleId with
      | some c => Tally.add c count s.byCategory
      | none => s.byCategory
    byFile := Tally.add f.path count s.byFile }

/-- Count one record. -/
def record (s : LogStats) (r : RunRecord) : LogStats :=
  let run := (r.datetime, r.totalDiagnostics)
  r.diagnostics.foldl countFinding
    { s with
      runs := s.runs + 1
      filesScanned := Word.add s.filesScanned r.filesScanned
      filesFailed := Word.add s.filesFailed r.filesFailed
      firstRun := s.firstRun <|> some run
      lastRun := some run }

/-- Count one line. -/
def countLine (s : LogStats) (line : String) : LogStats :=
  if Text.trim line = "" then s
  else match RunRecord.read line with
    | some r => s.record r
    | none => { s with skippedLines := s.skippedLines + 1 }

/-- Count the lines of a run log. -/
def ofText (log : String) : LogStats :=
  (Text.lines log).foldl countLine {}

/-- The errors and warnings of all categories. -/
def totals (s : LogStats) : SeverityCount :=
  s.byCategory.foldl (fun acc p => acc.add p.2) {}

/-- Does the first file come before the second in the ranking, or do they tie?  More errors come
first, then more findings. -/
def ranksBefore (a b : String × SeverityCount) : Bool :=
  b.2.errors < a.2.errors || (a.2.errors == b.2.errors && b.2.total ≤ a.2.total)

/-- The first `n` files of the ranking.  Files that tie stay in the order of their paths. -/
def worstFiles (s : LogStats) (n : Nat) : Tally String :=
  (s.byFile.mergeSort ranksBefore).take n

/-- The findings of the last run minus those of the first, in sixty-four bits with a sign. -/
def trend? (s : LogStats) : Option Int := do
  let (_, first) ← s.firstRun
  let (_, last) ← s.lastRun
  return ((last : Int) - first).bmod 0x10000000000000000

end LogStats

end ChartLint
