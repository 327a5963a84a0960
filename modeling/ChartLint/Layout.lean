import ChartLint.Diagnostic
import ChartLint.Layout.Line
import ChartLint.Settings

/-!
# The layout of continuation lines

A line continues the statement of the lines before it when a bracket is still open, when the line
before it ends with an operator or a comma, or when it starts with an operator and the line before
opens no block.  Lines without code are passed over, so they neither continue a statement nor break
one.

A continuation line is indented by a fixed number of columns past the first line of its statement,
with spaces only.  An operator that joins two operands belongs in front of the continuation and not
at the end of the line before.  Both are reported when the continuation line is met.
-/

namespace ChartLint

namespace Layout

/-- Operators that belong at the start of a continuation line. -/
def placementOperators : List String :=
  ["+", "-", "*", "/", "%", "and", "or", "?", ":", "==", "!=", "<", ">", "<=", ">="]

/-- A line with code, and its number. -/
structure Previous where
  /-- The number of the line. -/
  number : Nat
  /-- Its shape. -/
  shape : LineShape

/-- Does a line of that shape continue the statement of the line before, when it starts at a bracket
depth? -/
def continues (previous : Option Previous) (depth : Nat) (l : LineShape) : Bool :=
  previous.any fun p =>
    depth != 0 || p.shape.asksForMore || (l.leadsContinuation && !p.shape.opensBlock)

/-- A number of spaces in words. -/
def spaces (n : Nat) : String :=
  if n = 1 then "1 space" else s!"{n} spaces"

/-- What to say of a continuation line that is to be indented by `expected` columns.  `base` is the
indentation of its statement. -/
def indentationMessage (tab : Nat) (l : LineShape) (base expected : Nat) : String :=
  let subject := if l.isLoneCloser then "closing bracket on its own line" else "continuation line"
  let found := if l.hasTab then "tab indentation" else spaces (l.indent tab)
  let why := if base = 0 then ""
    else s!" ({base} for the statement + {Word.sub expected base})"
  s!"{subject} must be indented by exactly {expected} spaces{why}, found {found}"

/-- The indentation that a continuation line must have, a sum of machine words. -/
def requiredIndent (s : Settings) (base : Nat) : Nat :=
  Word.add base s.continuationIndent

/-- The finding about the indentation of a continuation line. -/
def indentationFinding (s : Settings) (number : Nat) (l : LineShape) (base : Nat) :
    List Diagnostic :=
  if l.hasTab || l.indent s.tabWidth != requiredIndent s base then
    [.error .badIndentation ⟨number, 1⟩
      (indentationMessage s.tabWidth l base (requiredIndent s base))]
  else []

/-- The finding about an operator at the end of a line that goes on. -/
def placementFinding (s : Settings) (p : Previous) : List Diagnostic :=
  match p.shape.trailing? with
  | some op =>
    if placementOperators.contains op then
      [.warning .operatorPlacement ⟨p.number, p.shape.trailingColumn s.tabWidth op⟩
        s!"operator '{op}' ends line {p.number}; move it to the start of the continuation line"]
    else []
  | none => []

/-- The findings about the lines from `number` on.  `depth` is the bracket depth in front of them,
`previous` the last line with code, and `base` the indentation of the current statement. -/
def checkFrom (s : Settings) (depth : Nat) (previous : Option Previous) (base number : Nat) :
    List (List Char) → List Diagnostic
  | [] => []
  | line :: rest =>
    let l := LineShape.ofLine depth line
    if l.isExempt then checkFrom s depth previous base (number + 1) rest
    else if continues previous depth l then
      indentationFinding s number l base ++ (previous.toList.flatMap (placementFinding s))
        ++ checkFrom s l.depthAfter (some ⟨number, l⟩) base (number + 1) rest
    else checkFrom s l.depthAfter (some ⟨number, l⟩) (l.indent s.tabWidth) (number + 1) rest

/-- The findings about the layout of lines. -/
def check (s : Settings) (lines : List String) : List Diagnostic :=
  checkFrom s 0 none 0 1 (lines.map String.toList)

end Layout

end ChartLint
