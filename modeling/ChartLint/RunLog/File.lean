import ChartLint.Instant
import ChartLint.Lint.Batch
import ChartLint.RunLog.Stats

/-!
# Run logs in files

Every run may add its record to a run log, and a run log may be read again for its statistics.  A
record keeps the lines that its findings are on, as they are when the record is made.
-/

namespace ChartLint

/-- The record of a run that ended at a point in time. -/
def RunRecord.ofRun (fs : FileSystem) (results : List LintResult)
    (enabledRules : Option (List String)) (now : Instant) : RunRecord :=
  ofResults results fs.linesOf enabledRules now.seconds now.text

/-- The line of a record in a run log, with its end. -/
def RunRecord.logLine (r : RunRecord) : String :=
  r.print ++ "\n"

namespace FileSystem

/-- Add a record to a run log. -/
def logRun (fs : FileSystem) (log : Path) (r : RunRecord) : Except FileError FileSystem :=
  fs.append log r.logLine.toUTF8

/-- The statistics of a run log. -/
def logStats (fs : FileSystem) (log : Path) : Except FileError LogStats :=
  (fs.readText log).map .ofText

end FileSystem

end ChartLint
