import ChartLint.Position
import ChartLint.Text.Uppercase

/-!
# Findings

A finding says that a rule is broken at a position.  Each rule has one category, and the category has
a stable rule id under which it is switched on and off.  Findings are ordered by position, then by
category in the order below, then errors before warnings, then by message.  The order looks at
every field, so findings that are neither before nor behind each other are equal.
-/

namespace ChartLint

/-- How bad a finding is. -/
inductive Severity where
  /-- The script does not do what its author expects. -/
  | error
  /-- The script works, against the style guide. -/
  | warning
deriving DecidableEq, Repr

/-- The word for a severity. -/
def Severity.name : Severity → String
  | .error => "error"
  | .warning => "warning"

/-- Errors come first. -/
def Severity.rank : Severity → Nat
  | .error => 0
  | .warning => 1

/-- What a finding is about. -/
inductive Category where
  /-- A string outside a constant. -/
  | hardcodedString
  /-- A color outside a constant, or one built inside another. -/
  | hardcodedColor
  /-- A continuation line with the wrong indentation. -/
  | badIndentation
  /-- An operator at the end of a line that goes on. -/
  | operatorPlacement
  /-- A function that is used above its definition. -/
  | forwardReference
  /-- Independent inputs that meet in a value that is shown. -/
  | mixedThresholdUsage
  /-- A constant that nothing uses. -/
  | unusedConstant
deriving DecidableEq, Repr

namespace Category

/-- All categories, in the order of their ids. -/
def all : List Category :=
  [.hardcodedString, .hardcodedColor, .badIndentation, .operatorPlacement, .forwardReference,
   .mixedThresholdUsage, .unusedConstant]

theorem mem_all (c : Category) : c ∈ all := by
  cases c <;> decide

/-- The place of a category in the order of their ids. -/
def rank : Category → Nat
  | .hardcodedString => 0
  | .hardcodedColor => 1
  | .badIndentation => 2
  | .operatorPlacement => 3
  | .forwardReference => 4
  | .mixedThresholdUsage => 5
  | .unusedConstant => 6

/-- The id of the rule that reports findings of a category. -/
def ruleId : Category → String
  | .hardcodedString => "PINE001"
  | .hardcodedColor => "PINE002"
  | .badIndentation => "PINE003"
  | .operatorPlacement => "PINE004"
  | .forwardReference => "PINE005"
  | .mixedThresholdUsage => "PINE006"
  | .unusedConstant => "PINE007"

/-- The name of a category. -/
def name : Category → String
  | .hardcodedString => "HardcodedString"
  | .hardcodedColor => "HardcodedColor"
  | .badIndentation => "BadIndentation"
  | .operatorPlacement => "OperatorPlacement"
  | .forwardReference => "ForwardReference"
  | .mixedThresholdUsage => "MixedThresholdUsage"
  | .unusedConstant => "UnusedConstant"

/-- The category of a rule id, in any case of its English letters. -/
def ofRuleId? (id : String) : Option Category :=
  all.find? fun c => Text.equalIgnoringCase c.ruleId id

/-- The category of that name. -/
def ofName? (name : String) : Option Category :=
  all.find? (·.name == name)

end Category

/-- A broken rule at a position. -/
structure Diagnostic where
  /-- What it is about. -/
  category : Category
  /-- How bad it is. -/
  severity : Severity
  /-- Where it is. -/
  position : Position
  /-- What to tell the author. -/
  message : String
deriving DecidableEq, Repr

namespace Diagnostic

/-- A finding that is an error. -/
def error (category : Category) (position : Position) (message : String) : Diagnostic :=
  ⟨category, .error, position, message⟩

/-- A finding that is a warning. -/
def warning (category : Category) (position : Position) (message : String) : Diagnostic :=
  ⟨category, .warning, position, message⟩

/-- The id of the rule that is broken. -/
def ruleId (d : Diagnostic) : String :=
  d.category.ruleId

/-- Is the finding an error? -/
def isError (d : Diagnostic) : Bool :=
  d.severity == .error

/-- By position, category, severity and message. -/
instance : LT Diagnostic where
  lt a b :=
    a.position < b.position ∨ (a.position = b.position ∧
      (a.category.rank < b.category.rank ∨ (a.category = b.category ∧
        (a.severity.rank < b.severity.rank ∨ (a.severity = b.severity ∧ a.message < b.message)))))

instance (a b : Diagnostic) : Decidable (a < b) :=
  inferInstanceAs (Decidable (a.position < b.position ∨ (a.position = b.position ∧
    (a.category.rank < b.category.rank ∨ (a.category = b.category ∧
      (a.severity.rank < b.severity.rank ∨
        (a.severity = b.severity ∧ a.message < b.message)))))))

/-- A finding on one line, with the path of its script. -/
def render (d : Diagnostic) (path : String) : String :=
  s!"{path}:{d.position.line}:{d.position.column}: {d.severity.name} {d.category.name} - {d.message}"

end Diagnostic

end ChartLint
