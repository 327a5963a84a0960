import ChartLint.Files.FileError
import ChartLint.Rule
import ChartLint.Sorted
import ChartLint.Suppression

/-!
# Linting a script

The rules are run one after the other over a script.  Their findings are put together: those that a
comment silences are dropped, and the others are sorted, without repetition.  Since the order of
findings looks at every field, the result depends only on which findings there are.
-/

namespace ChartLint

/-- Findings in order, without repetition and without those that are silenced. -/
def aggregate (found : List Diagnostic) (silenced : Suppressions) : List Diagnostic :=
  Sorted.ofList (found.filter fun d => !silenced.suppresses d)

/-- What came out of linting a file. -/
structure LintResult where
  /-- The path of the file. -/
  path : String
  /-- The findings, or why the file could not be read. -/
  outcome : Except FileError (List Diagnostic)

namespace LintResult

/-- The findings; none if the file could not be read. -/
def diagnostics (r : LintResult) : List Diagnostic :=
  match r.outcome with
  | .ok found => found
  | .error _ => []

/-- What to say of a file that could not be read. -/
def failure? (r : LintResult) : Option String :=
  match r.outcome with
  | .ok _ => none
  | .error e => some s!"Failed to read file: {e.message}"

/-- Is there an error among the findings, or could the file not be read? -/
def hasErrors (r : LintResult) : Bool :=
  r.failure?.isSome || r.diagnostics.any (·.isError)

/-- The findings as lines of text. -/
def rendered (r : LintResult) : List String :=
  r.diagnostics.map (·.render r.path)

end LintResult

/-- The findings of some rules on a script. -/
def lintSource (source : String) (rules : List Category) (settings : Settings) : List Diagnostic :=
  let script := Script.read source settings
  aggregate (rules.flatMap (·.check script))
    (.ofTokens (script.outline.tokens.map (·.toToken)))

/-- The findings of all rules on a script. -/
def checkSource (source : String) (settings : Settings) : List Diagnostic :=
  lintSource source Category.all settings

end ChartLint
