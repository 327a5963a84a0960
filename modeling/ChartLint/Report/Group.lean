import ChartLint.Lint

/-!
# Findings by rule

Two of the reports put the findings of all files together by rule.  The groups come in the order of
the rules, none of them is empty, and in each the findings keep the order in which the files and
their findings came.

Every rule has a title, an explanation and advice for the author.
-/

namespace ChartLint

namespace Category

/-- The title of a rule. -/
def title : Category → String
  | .hardcodedString => "Hardcoded String"
  | .hardcodedColor => "Hardcoded Color"
  | .badIndentation => "Bad Indentation"
  | .operatorPlacement => "Operator Placement"
  | .forwardReference => "Forward Reference"
  | .mixedThresholdUsage => "Mixed Threshold Usage"
  | .unusedConstant => "Unused Constant"

/-- What is wrong where a rule is broken. -/
def explanation : Category → String
  | .hardcodedString =>
    "A string literal appears inline instead of in an UPPER_SNAKE_CASE constant."
  | .hardcodedColor =>
    "A color is constructed inline, or one color constructor is nested inside another."
  | .badIndentation =>
    "A continuation line is not indented exactly two spaces past its statement."
  | .operatorPlacement => "A wrapped expression ends a line with its operator."
  | .forwardReference => "A function is called above the line where it is defined."
  | .mixedThresholdUsage =>
    "A value derived from several independent control inputs drives a plot or alert."
  | .unusedConstant => "A constant is declared but never referenced."

/-- What to do where a rule is broken. -/
def advice : Category → String
  | .hardcodedString =>
    "Declare it at the top of the script: `TITLE_MAIN = \"My Indicator\"`. Short "
      ++ "`tooltip=` texts may stay inline."
  | .hardcodedColor =>
    "Declare colors as constants: `COLOR_BULL = color.rgb(0, 200, 120)`, then "
      ++ "`color.new(COLOR_BULL, 50)`."
  | .badIndentation =>
    "Indent wrapped lines by two spaces relative to the line that starts the statement."
  | .operatorPlacement =>
    "Move the operator to the start of the next line: `a\\n  and b` instead of `a and\\n  b`."
  | .forwardReference => "Move the function definition above its first use."
  | .mixedThresholdUsage =>
    "Give each visual subsystem its own threshold logic instead of sharing a combined value."
  | .unusedConstant => "Remove the constant or use it where the literal was meant to go."

end Category

/-- A finding and the path of the file it is in. -/
structure LocatedFinding where
  /-- The path of the file. -/
  path : String
  /-- The finding. -/
  diagnostic : Diagnostic
deriving DecidableEq, Repr

/-- The findings of all results in order. -/
def locatedFindings (results : List LintResult) : List LocatedFinding :=
  results.flatMap fun r => r.diagnostics.map (⟨r.path, ·⟩)

/-- The findings of one rule. -/
structure FindingGroup where
  /-- The category of the findings. -/
  category : Category
  /-- The findings in order. -/
  findings : List LocatedFinding
deriving DecidableEq, Repr

namespace FindingGroup

/-- The findings of one category among others. -/
def ofCategory (findings : List LocatedFinding) (c : Category) : FindingGroup :=
  ⟨c, findings.filter (·.diagnostic.category == c)⟩

/-- The severity of the worst finding. -/
def severity (g : FindingGroup) : Severity :=
  if g.findings.any (·.diagnostic.isError) then .error else .warning

end FindingGroup

/-- The findings of all results by rule. -/
def groupByRule (results : List LintResult) : List FindingGroup :=
  (Category.all.map (.ofCategory (locatedFindings results))).filter (!·.findings.isEmpty)

end ChartLint
