import ChartLint.Json.Printer
import ChartLint.Json.Reader
import ChartLint.Lint
import ChartLint.Text.Blank

/-!
# Records of the run log

The run log keeps one record for each run of the linter: when it ran, how many files it looked at,
and every finding with the line of the script it is on.

A record is written as an object on one line.  It is read from an object in which members that are
not known are passed over and those that are known occur once, or from a list of all its fields in
order.  The count of unreadable files may be missing; the list of rules and the line of a finding may
be missing or `null`.
-/

namespace ChartLint

/-- A finding in the run log. -/
structure LoggedFinding where
  /-- The id of the rule. -/
  ruleId : String
  /-- The name of the category. -/
  category : String
  /-- The path of the script. -/
  path : String
  /-- The line. -/
  line : Nat
  /-- The column. -/
  column : Nat
  /-- The word for the severity. -/
  severity : String
  /-- The message. -/
  message : String
  /-- The line of the script, unless it is blank. -/
  sourceLine : Option String
deriving DecidableEq, Repr, Inhabited

/-- A run in the run log. -/
structure RunRecord where
  /-- Seconds since the start of 1970. -/
  timestamp : Int
  /-- The same in words. -/
  datetime : String
  /-- The number of files. -/
  filesScanned : Nat
  /-- The number of files that could not be read. -/
  filesFailed : Nat
  /-- The number of findings. -/
  totalDiagnostics : Nat
  /-- The number of errors. -/
  errorCount : Nat
  /-- The number of warnings. -/
  warningCount : Nat
  /-- The findings. -/
  diagnostics : List LoggedFinding
  /-- The ids of the rules, if some were selected. -/
  enabledRules : Option (List String)
deriving DecidableEq, Repr, Inhabited

/-! ## Writing -/

/-- A member that is left out if it has no value. -/
def optionalMember (name : String) : Option Json → List (Option String × Json)
  | none => []
  | some v => [(some name, v)]

/-- A finding as an object. -/
def LoggedFinding.toJson (f : LoggedFinding) : Json :=
  .object ([(some "rule_id", .text f.ruleId), (some "category", .text f.category),
    (some "file_path", .text f.path), (some "line", .nat f.line), (some "column", .nat f.column),
    (some "severity", .text f.severity), (some "message", .text f.message)]
    ++ optionalMember "source_line" (f.sourceLine.map .text))

/-- A record as an object. -/
def RunRecord.toJson (r : RunRecord) : Json :=
  .object ([(some "timestamp", .int r.timestamp), (some "datetime", .text r.datetime),
    (some "files_scanned", .nat r.filesScanned), (some "files_failed", .nat r.filesFailed),
    (some "total_diagnostics", .nat r.totalDiagnostics), (some "error_count", .nat r.errorCount),
    (some "warning_count", .nat r.warningCount),
    (some "diagnostics", .array (r.diagnostics.map (·.toJson)))]
    ++ optionalMember "enabled_rules" (r.enabledRules.map fun ids => .array (ids.map .text)))

/-- A record as a line of the run log, without the line feed. -/
def RunRecord.print (r : RunRecord) : String :=
  r.toJson.compress

/-! ## Reading -/

/-- The member of that name: an error if it occurs twice, and no value if it does not occur. -/
def member? (members : List (Option String × Json)) (name : String) : Option (Option Json) :=
  match members.filter (·.1 == some name) with
  | [] => some none
  | [(_, v)] => some (some v)
  | _ => none

/-- The fields of an object in the order of `names`, or of a list of as many values.  A field that is
missing has no value. -/
def fields? (names : List String) : Json → Option (List (Option Json))
  | .object members =>
    if members.any (·.1.isNone) then none else names.mapM (member? members)
  | .array items => if items.length = names.length then some (items.map some) else none
  | _ => none

/-- The value of a field that may be missing or `null`. -/
def optional? {α : Type} (read : Json → Option α) : Option Json → Option (Option α)
  | none => some none
  | some .null => some none
  | some v => (read v).map some

/-- The value of a field that must be there. -/
def required? {α : Type} (read : Json → Option α) (field : Option Json) : Option α :=
  field.bind read

/-- The names of the fields of a finding. -/
def LoggedFinding.fieldNames : List String :=
  ["rule_id", "category", "file_path", "line", "column", "severity", "message", "source_line"]

/-- The finding that a value writes. -/
def LoggedFinding.ofJson? (v : Json) : Option LoggedFinding := do
  match ← fields? fieldNames v with
  | [ruleId, category, path, line, column, severity, message, sourceLine] =>
    return {
      ruleId := ← required? Json.text? ruleId
      category := ← required? Json.text? category
      path := ← required? Json.text? path
      line := ← required? Json.nat? line
      column := ← required? Json.nat? column
      severity := ← required? Json.text? severity
      message := ← required? Json.text? message
      sourceLine := ← optional? Json.text? sourceLine }
  | _ => none

/-- A list of values of one kind. -/
def list? {α : Type} (read : Json → Option α) (v : Json) : Option (List α) :=
  v.items?.bind (·.mapM read)

/-- The names of the fields of a record. -/
def RunRecord.fieldNames : List String :=
  ["timestamp", "datetime", "files_scanned", "files_failed", "total_diagnostics", "error_count",
   "warning_count", "diagnostics", "enabled_rules"]

/-- The seconds of a timestamp, which fit into sixty-four bits with a sign. -/
def timestamp? (v : Json) : Option Int :=
  v.int?.filter fun n => n < 0x8000000000000000

/-- A count that is zero if it is missing. -/
def countOrZero? : Option Json → Option Nat
  | none => some 0
  | some v => v.nat?

/-- The record that a value writes. -/
def RunRecord.ofJson? (v : Json) : Option RunRecord := do
  match ← fields? fieldNames v with
  | [timestamp, datetime, scanned, failed, total, errors, warnings, diagnostics, rules] =>
    return {
      timestamp := ← required? timestamp? timestamp
      datetime := ← required? Json.text? datetime
      filesScanned := ← required? Json.nat? scanned
      filesFailed := ← countOrZero? failed
      totalDiagnostics := ← required? Json.nat? total
      errorCount := ← required? Json.nat? errors
      warningCount := ← required? Json.nat? warnings
      diagnostics := ← required? (list? LoggedFinding.ofJson?) diagnostics
      enabledRules := ← optional? (list? Json.text?) rules }
  | _ => none

/-- The record that a line of the run log writes. -/
def RunRecord.read (line : String) : Option RunRecord :=
  (Json.read line).bind ofJson?

/-! ## Recording a run -/

/-- The longest part of a line that the run log keeps. -/
def sourceLineLength : Nat := 200

/-- A line, cut off where it is too long to keep. -/
def truncateLine (line : String) : String :=
  if line.length > sourceLineLength then
    String.ofList (line.toList.take sourceLineLength) ++ "..."
  else line

/-- The line of a script that a finding is on, trimmed and cut off; none if it is blank. -/
def loggedLine? (lines : List String) (d : Diagnostic) : Option String :=
  (lines[d.position.line - 1]?.map Text.trim).bind fun line =>
    if line = "" then none else some (truncateLine line)

/-- A finding as it goes into the run log. -/
def LoggedFinding.ofDiagnostic (path : String) (lines : List String) (d : Diagnostic) :
    LoggedFinding :=
  ⟨d.ruleId, d.category.name, path, d.position.line, d.position.column, d.severity.name, d.message,
    loggedLine? lines d⟩

/-- The findings of a run as they are put together for its record, and how many of them are errors and
warnings. -/
structure LoggedFindings where
  /-- The errors. -/
  errors : Nat := 0
  /-- The warnings. -/
  warnings : Nat := 0
  /-- The findings. -/
  findings : List LoggedFinding := []

namespace LoggedFindings

/-- Put in a finding about the script of that path and those lines. -/
def addFinding (path : String) (lines : List String) (l : LoggedFindings) (d : Diagnostic) :
    LoggedFindings :=
  let counted := match d.severity with
    | .error => { l with errors := l.errors + 1 }
    | .warning => { l with warnings := l.warnings + 1 }
  { counted with findings := counted.findings ++ [.ofDiagnostic path lines d] }

/-- Put in the findings of a result.  If there are none, its lines are not looked at. -/
def addResult (linesOf : String → List String) (l : LoggedFindings) (r : LintResult) :
    LoggedFindings :=
  if r.diagnostics.isEmpty then l
  else r.diagnostics.foldl (addFinding r.path (linesOf r.path)) l

/-- The findings of all results.  `linesOf` gives the lines of a script by its path. -/
def ofResults (linesOf : String → List String) (results : List LintResult) : LoggedFindings :=
  results.foldl (addResult linesOf) {}

end LoggedFindings

/-- The record of a run.  `linesOf` gives the lines of a script by its path. -/
def RunRecord.ofResults (results : List LintResult) (linesOf : String → List String)
    (enabledRules : Option (List String)) (timestamp : Int) (datetime : String) : RunRecord :=
  let logged := LoggedFindings.ofResults linesOf results
  { timestamp, datetime, filesScanned := results.length
    filesFailed := results.countP (·.failure?.isSome), totalDiagnostics := logged.findings.length
    errorCount := logged.errors, warningCount := logged.warnings, diagnostics := logged.findings
    enabledRules }

end ChartLint
