import ChartLint.Diagnostic
import ChartLint.Script

/-!
# Literals in the code

Strings and colors belong in constants.

*Strings.*  A string outside the value of a constant is reported, unless it is a short tooltip: the
value of an argument named `tooltip` with fewer characters than the settings allow.

*Colors.*  Calls that build colors form trees by nesting.  The root of a tree is a color call that is
in no other one.  A tree with an inner call is an error at the first inner call, wherever it stands.
A root alone is reported unless it stands in the value of a constant, and so is a color literal that
is in no color call.
-/

namespace ChartLint

namespace Literal

/-- The longest part of a string that a message quotes. -/
def excerptLength : Nat := 40

/-- A text, cut off where it is too long to quote. -/
def excerpt (text : String) : String :=
  if text.length > excerptLength then String.ofList (text.toList.take excerptLength) ++ "..."
  else text

/-- Does `tooltip =` stand in front of the token of that number? -/
def followsTooltip (index : Nat) : List Lexeme → Bool
  | name :: equals :: value :: rest =>
    (value.index == index && equals.isOperator "=" && name.isIdentifier && name.text == "tooltip")
      || followsTooltip index (equals :: value :: rest)
  | _ => false

/-- Is the string a tooltip that may stand in the code? -/
def isShortTooltip (s : Script) (t : Lexeme) : Bool :=
  t.stringValue.length < s.settings.tooltipMaxLength
    && s.outline.statements.any (followsTooltip t.index ·.tokens)

/-- The findings about strings. -/
def checkStrings (s : Script) : List Diagnostic :=
  let declared := s.outline.constantValues
  let strings := s.outline.tokens.filter fun t =>
    t.kind == .stringLiteral && !declared.contains t.index && !isShortTooltip s t
  strings.map fun t => .warning .hardcodedString t.position
    s!"hardcoded string {excerpt t.text}; declare it as an UPPER_SNAKE_CASE constant"

/-- The calls of a script that build colors. -/
def colorCalls (s : Script) : List Call :=
  s.outline.calls.filter fun c => s.settings.isColorConstructor c.name

/-- Does the token of that number stand inside one of the calls? -/
def insideAny (calls : List Call) (index : Nat) : Bool :=
  calls.any (·.contains index)

/-- The finding about the tree of color calls at a root.  `colors` are the color calls of the script
and `declared` the tokens in the values of its constants. -/
def treeFinding? (colors : List Call) (declared : List Nat) (root : Call) : Option Diagnostic :=
  match colors.find? fun inner => root.contains inner.nameStart with
  | some inner => some (.error .hardcodedColor inner.position
      s!"nested color construction: '{inner.name}' inside '{root.name}'; declare the inner color as a constant")
  | none =>
    if declared.contains root.nameStart then none
    else some (.warning .hardcodedColor root.position
      s!"hardcoded color '{root.name}(...)'; declare it as an UPPER_SNAKE_CASE constant")

/-- The findings about colors: those about calls, then those about literals. -/
def checkColors (s : Script) : List Diagnostic :=
  let colors := colorCalls s
  let declared := s.outline.constantValues
  let roots := colors.filter fun c => !insideAny colors c.nameStart
  let literals := s.outline.tokens.filter fun t =>
    t.kind == .colorLiteral && !insideAny colors t.index && !declared.contains t.index
  roots.filterMap (treeFinding? colors declared) ++ literals.map fun t =>
    .warning .hardcodedColor t.position
      s!"hardcoded color literal {t.text}; declare it as an UPPER_SNAKE_CASE constant"

end Literal

end ChartLint
