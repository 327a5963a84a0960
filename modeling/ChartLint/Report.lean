import ChartLint.Json.Printer
import ChartLint.Lint.Batch
import ChartLint.Report.Group
import ChartLint.Report.Style

/-!
# Reports

There are three reports of the same findings: one line for each finding, the findings by rule with an
explanation, and the findings by rule as a JSON value.  The last two show the line of the script that
a finding is on.

Files that could not be read are part of the JSON value.  The other reports leave them to a list of
their own.
-/

namespace ChartLint

namespace Report

/-- The color of a severity. -/
def color : Severity → Color
  | .error => .red
  | .warning => .yellow

/-- The line of a script that a finding is on, trimmed; empty if there is none. -/
def sourceLine (fs : FileSystem) (f : LocatedFinding) : String :=
  ((fs.linesOf f.path)[f.diagnostic.position.line - 1]?.map Text.trim).getD ""

/-- What to say of the files that could not be read. -/
def failures (colored : Bool) (results : List LintResult) : List String :=
  results.filterMap fun r =>
    r.failure?.map fun failure => (Style.ofColor .red).paint colored r.path ++ ": " ++ failure

/-- The findings on a line each. -/
def plain (colored : Bool) (results : List LintResult) : List String :=
  (locatedFindings results).map fun f =>
    (Style.ofColor (color f.diagnostic.severity)).paint colored (f.diagnostic.render f.path)

/-! ## By rule -/

/-- The number of findings of a group in words. -/
def occurrences (n : Nat) : String :=
  toString n ++ " occurrence" ++ (if n = 1 then "" else "s")

/-- The lines above the findings of a group. -/
def groupHead (colored : Bool) (g : FindingGroup) : List String :=
  let paint (style : Style) (text : String) := style.paint colored text
  ["",
   paint (.boldColor (color g.severity)) g.severity.name ++ " "
     ++ paint (.boldColor .cyan) g.category.ruleId ++ " - "
     ++ paint (.boldColor .white) g.category.title ++ " (" ++ occurrences g.findings.length ++ ")",
   paint .faint (String.ofList (List.replicate 80 '─')),
   "  " ++ paint (.ofColor .brightWhite) "What:" ++ " " ++ g.category.explanation,
   "  " ++ paint (.ofColor .brightGreen) "Fix:" ++ "  " ++ g.category.advice,
   ""]

/-- The lines of a finding in a group.  Its line of the script is left out if it is empty. -/
def groupEntry (colored : Bool) (fs : FileSystem) (f : LocatedFinding) : List String :=
  let position := f.diagnostic.position
  let source := sourceLine fs f
  ("    " ++ Style.faint.paint colored f.path ++ ":"
    ++ (Style.ofColor .yellow).paint colored (toString position.line ++ ":" ++ toString position.column)
    ++ " " ++ f.diagnostic.message)
  :: (if source = "" then [] else ["      " ++ (Style.ofColor .brightWhite).paint colored source])

/-- The findings by rule. -/
def grouped (colored : Bool) (fs : FileSystem) (results : List LintResult) : List String :=
  (groupByRule results).flatMap fun g =>
    groupHead colored g ++ g.findings.flatMap (groupEntry colored fs)

/-! ## As a JSON value

The members of objects are in the order of their names. -/

/-- An object with members that have texts as names. -/
def object (members : List (String × Json)) : Json :=
  .object (members.map fun (name, value) => (some name, value))

/-- A finding as an object. -/
def findingValue (fs : FileSystem) (f : LocatedFinding) : Json :=
  let d := f.diagnostic
  object [("category", .text d.category.name), ("column", .nat d.position.column),
    ("file", .text f.path), ("line", .nat d.position.line), ("message", .text d.message),
    ("severity", .text d.severity.name), ("source", .text (sourceLine fs f))]

/-- The findings of a rule as an object. -/
def groupValue (fs : FileSystem) (g : FindingGroup) : Json :=
  object [("count", .nat g.findings.length), ("description", .text g.category.explanation),
    ("diagnostics", .array (g.findings.map (findingValue fs))), ("fix", .text g.category.advice),
    ("name", .text g.category.title), ("rule", .text g.category.ruleId)]

/-- A file that could not be read, as an object. -/
def failureValue? (r : LintResult) : Option Json :=
  r.failure?.map fun failure => object [("error", .text failure), ("file", .text r.path)]

/-- The findings by rule and the files that could not be read, as one value. -/
def value (fs : FileSystem) (results : List LintResult) : Json :=
  object [("errors", .array (results.filterMap failureValue?)),
    ("rules", .array ((groupByRule results).map (groupValue fs)))]

end Report

end ChartLint
