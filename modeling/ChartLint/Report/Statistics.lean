import ChartLint.Report.Share
import ChartLint.Report.Style
import ChartLint.RunLog.Stats

/-!
# The report on a run log

A summary, a table of the rules that were broken, the files with the most findings, and how the
number of findings changed from the first run to the last.
-/

namespace ChartLint

namespace LogStats

/-- The counts of a category. -/
def countOf (s : LogStats) (c : Category) : SeverityCount :=
  (s.byCategory.lookup c).getD {}

/-- A row of the table of rules. -/
def tableRow (id category errors warnings share : String) : String :=
  "  " ++ id ++ " " ++ padRight 22 category ++ " " ++ padLeft 7 errors ++ " " ++ padLeft 9 warnings
    ++ " " ++ padLeft 7 share

/-- The row of a rule; none if it was not broken. -/
def ruleRow? (s : LogStats) (colored : Bool) (c : Category) : Option String :=
  let count := s.countOf c
  if count.total = 0 then none
  else some (tableRow ((Style.ofColor .cyan).paint colored (padRight 8 c.ruleId)) c.name
    (toString count.errors) (toString count.warnings) (shareText count.total s.totals.total))

/-- The longest path that is shown whole. -/
def pathLength : Nat := 60

/-- A path; of a long one, the end. -/
def shortenPath (path : String) : String :=
  if path.length > pathLength then
    "..." ++ String.ofList (path.toList.drop (path.length - (pathLength - 3)))
  else path

/-- The row of a file. -/
def fileRow (colored : Bool) (file : String × SeverityCount) : String :=
  "  " ++ (Style.ofColor .red).paint colored (padLeft 4 (toString file.2.errors)) ++ "E "
    ++ (Style.ofColor .yellow).paint colored (padLeft 4 (toString file.2.warnings)) ++ "W  "
    ++ Style.faint.paint colored (shortenPath file.1)

/-- A change in the number of findings. -/
def changeText (colored : Bool) (change : Int) : String :=
  if 0 < change then (Style.ofColor .red).paint colored ("+" ++ toString change)
  else if change < 0 then (Style.ofColor .green).paint colored (toString change)
  else "no change"

/-- The lines on how the findings changed; none for an empty log. -/
def changeLines (s : LogStats) (colored : Bool) : List String :=
  match s.firstRun, s.lastRun, s.trend? with
  | some (first, _), some (last, _), some change =>
    ["", "  " ++ Style.faint.paint colored first ++ " .. " ++ Style.faint.paint colored last ++ ": "
      ++ changeText colored change]
  | _, _, _ => []

/-- The lines at the top. -/
def summaryLines (s : LogStats) (colored : Bool) : List String :=
  let paint (c : Color) (n : Nat) := (Style.ofColor c).paint colored (toString n)
  let totals := s.totals
  [(Style.boldColor .cyan).paint colored "pine-lint run log",
   "  " ++ paint .yellow s.runs ++ " runs, " ++ toString s.filesScanned ++ " files scanned ("
     ++ toString s.filesFailed ++ " unreadable), " ++ toString totals.total ++ " findings: "
     ++ paint .red totals.errors ++ " errors, " ++ paint .yellow totals.warnings ++ " warnings"]
  ++ (if s.skippedLines = 0 then []
      else ["  " ++ paint .red s.skippedLines ++ " log lines were not run records"])

/-- The table of rules. -/
def ruleLines (s : LogStats) (colored : Bool) : List String :=
  ["", Style.strong.paint colored "Rules",
   tableRow (padRight 8 "id") "category" "errors" "warnings" "share"]
  ++ Category.all.filterMap (s.ruleRow? colored)

/-- The files with the most findings. -/
def fileLines (s : LogStats) (colored : Bool) : List String :=
  match s.worstFiles 10 with
  | [] => []
  | files => ["", Style.strong.paint colored "Files"] ++ files.map (fileRow colored)

/-- The report on a run log. -/
def report (s : LogStats) (colored : Bool) : List String :=
  s.summaryLines colored ++ s.ruleLines colored ++ s.fileLines colored ++ s.changeLines colored

end LogStats

end ChartLint
