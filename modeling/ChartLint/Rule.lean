import ChartLint.Flow.Coupling
import ChartLint.Layout
import ChartLint.Pattern.Reader
import ChartLint.Pattern.Search
import ChartLint.Rule.Literal
import ChartLint.Rule.Usage
import ChartLint.Text.Blank

/-!
# The rules

There is one rule for each category of findings, so a category names its rule.  A rule looks at one
script by itself, and the findings of several rules are put together later.

The rule on coupled control inputs reads patterns from the settings.  If one of them is no pattern,
the rule goes on without any.
-/

namespace ChartLint

namespace Category

/-- What the rule of a category asks for. -/
def description : Category → String
  | .hardcodedString => "String literals must be declared as UPPER_SNAKE_CASE constants"
  | .hardcodedColor => "Colors must be declared as UPPER_SNAKE_CASE constants and never nested"
  | .badIndentation =>
    "Continuation lines must be indented exactly two spaces past their statement"
  | .operatorPlacement => "Operators must lead continuation lines, not trail the line before"
  | .forwardReference => "Functions must be defined before they are used"
  | .mixedThresholdUsage =>
    "Independent control inputs must not be combined in values that reach an output"
  | .unusedConstant => "Declared constants must be used"

/-- The findings about the layout of a script that belong to one category. -/
def layoutFindings (c : Category) (s : Script) : List Diagnostic :=
  (Layout.check s.settings (Text.lines s.source)).filter (·.category == c)

/-- The patterns of the settings as conditions on names; none if one of them cannot be read. -/
def inputPatterns (s : Settings) : List (String → Bool) :=
  match readPatterns s.controlInputPatterns with
  | .ok patterns => patterns.map Pattern.occursIn
  | .error _ => []

/-- The findings of the rule of a category. -/
def check (c : Category) (s : Script) : List Diagnostic :=
  match c with
  | .hardcodedString => Literal.checkStrings s
  | .hardcodedColor => Literal.checkColors s
  | .badIndentation => c.layoutFindings s
  | .operatorPlacement => c.layoutFindings s
  | .forwardReference => Usage.checkForward s.index
  | .mixedThresholdUsage => Coupling.check s.outline s.index s.settings (inputPatterns s.settings)
  | .unusedConstant => Usage.checkUnused s.index

/-- The rules that a list of ids selects, in the order of the rules; all of them without a list. -/
def enabled : Option (List String) → List Category
  | none => all
  | some ids => all.filter fun c => ids.any (Text.equalIgnoringCase · c.ruleId)

end Category

end ChartLint
