import ChartLint.Pattern.Footprint
import ChartLint.Text.Blank

/-!
# Errors in patterns

An error in a pattern has a cause and a span, the part of the pattern that is to blame.  A few causes
have a second span, where the same thing was written before.

The message shows the pattern with its spans marked below the line they are in.  A pattern of several
lines is shown with line numbers between two rules.
-/

namespace ChartLint

namespace Pattern

/-- A part of the text of a pattern, from the place `start` to the place `stop`. -/
structure Span where
  /-- The place before its first character. -/
  start : Nat
  /-- The place behind its last character. -/
  stop : Nat
deriving DecidableEq, Repr

/-- The deepest that groups, classes, repetitions, sequences and alternatives may be nested. -/
def nestingLimit : Nat := 250

/-- What is wrong with a pattern. -/
inductive Flaw where
  /-- An anchor is in a class. -/
  | anchorInClass
  /-- The ends of a range are in the wrong order. -/
  | reversedRange
  /-- An end of a range is a class. -/
  | rangeOfClass
  /-- A class is not closed. -/
  | unclosedClass
  /-- A number is too large. -/
  | hugeNumber
  /-- There is no digit between the braces of a character code. -/
  | emptyCode
  /-- A character code belongs to no character. -/
  | badCode
  /-- A character code has a character that is no digit. -/
  | badCodeDigit
  /-- The pattern ends in an escape. -/
  | unfinishedEscape
  /-- The escape is not known. -/
  | unknownEscape
  /-- A minus switches nothing off. -/
  | danglingMinus
  /-- A mode is given twice. -/
  | repeatedMode
  /-- The minus is given twice. -/
  | repeatedMinus
  /-- The pattern ends in a list of modes. -/
  | unfinishedModes
  /-- The mode is not known. -/
  | unknownMode
  /-- Two groups have one name. -/
  | repeatedName
  /-- A group has an empty name. -/
  | emptyName
  /-- A character may not stand in a name. -/
  | badName
  /-- The pattern ends in a name. -/
  | unfinishedName
  /-- A group is not closed. -/
  | unclosedGroup
  /-- A group is closed that was not opened. -/
  | unopenedGroup
  /-- The pattern is nested too deeply. -/
  | tooDeep
  /-- The bounds of a repetition are in the wrong order. -/
  | reversedBounds
  /-- A bound of a repetition is no number. -/
  | badBound
  /-- The bounds of a repetition are not closed. -/
  | unclosedBounds
  /-- There is nothing to repeat. -/
  | nothingToRepeat
  /-- The name of a word edge is not closed. -/
  | unclosedEdge
  /-- The name of a word edge is not known. -/
  | unknownEdge
  /-- The pattern ends in braces that name a word edge or bound a repetition. -/
  | unfinishedBraces
  /-- The name of a property is an escape. -/
  | badProperty
  /-- The pattern refers to what a group matched. -/
  | backReference
  /-- The pattern looks around. -/
  | lookAround
  /-- A character beyond `0x7F` is in a class that knows the characters below alone. -/
  | beyondAscii
  /-- The pattern may match a part of a character. -/
  | partOfCharacter
  /-- There is no such property. -/
  | unknownProperty
  /-- A property has no such value. -/
  | unknownPropertyValue
deriving DecidableEq, Repr

/-- What is wrong with a pattern, in words. -/
def Flaw.message : Flaw → String
  | anchorInClass => "invalid escape sequence found in character class"
  | reversedRange => "invalid character class range, the start must be <= the end"
  | rangeOfClass => "invalid range boundary, must be a literal"
  | unclosedClass => "unclosed character class"
  | hugeNumber => "decimal literal invalid"
  | emptyCode => "hexadecimal literal empty"
  | badCode => "hexadecimal literal is not a Unicode scalar value"
  | badCodeDigit => "invalid hexadecimal digit"
  | unfinishedEscape => "incomplete escape sequence, reached end of pattern prematurely"
  | unknownEscape => "unrecognized escape sequence"
  | danglingMinus => "dangling flag negation operator"
  | repeatedMode => "duplicate flag"
  | repeatedMinus => "flag negation operator repeated"
  | unfinishedModes => "expected flag but got end of regex"
  | unknownMode => "unrecognized flag"
  | repeatedName => "duplicate capture group name"
  | emptyName => "empty capture group name"
  | badName => "invalid capture group character"
  | unfinishedName => "unclosed capture group name"
  | unclosedGroup => "unclosed group"
  | unopenedGroup => "unopened group"
  | tooDeep =>
    "exceed the maximum number of nested parentheses/brackets (" ++ toString nestingLimit ++ ")"
  | reversedBounds => "invalid repetition count range, the start must be <= the end"
  | badBound => "repetition quantifier expects a valid decimal"
  | unclosedBounds => "unclosed counted repetition"
  | nothingToRepeat => "repetition operator missing expression"
  | unclosedEdge =>
    "special word boundary assertion is either unclosed or contains an invalid character"
  | unknownEdge =>
    "unrecognized special word boundary assertion, valid choices are: start, end, start-half or end-half"
  | unfinishedBraces =>
    "found either the beginning of a special word boundary or a bounded repetition on a \\b with an opening brace, but no closing brace"
  | badProperty => "invalid Unicode character class"
  | backReference => "backreferences are not supported"
  | lookAround => "look-around, including look-ahead and look-behind, is not supported"
  | beyondAscii => "Unicode not allowed here"
  | partOfCharacter => "pattern can match invalid UTF-8"
  | unknownProperty => "Unicode property not found"
  | unknownPropertyValue => "Unicode property value not found"

end Pattern

/-- Why a text is no pattern. -/
inductive PatternError where
  /-- A part of it is wrong, perhaps because of an earlier part. -/
  | flawed (flaw : Pattern.Flaw) (span : Pattern.Span) (earlier : Option Pattern.Span)
  /-- Its automaton takes too much room. -/
  | tooLarge
deriving DecidableEq, Repr

namespace PatternError

/-! ## Messages -/

/-- The line and the column of a place, both from one. -/
def position (text : List Char) (place : Nat) : Nat × Nat :=
  (text.take place).foldl
    (fun (line, column) c => if c = '\n' then (line + 1, 1) else (line, column + 1)) (1, 1)

/-- A span as lines and columns. -/
structure Marking where
  /-- Where it starts. -/
  start : Nat × Nat
  /-- Where it ends. -/
  stop : Nat × Nat

/-- Is the marking in one line? -/
def Marking.oneLine (m : Marking) : Bool := m.start.1 == m.stop.1

/-- A text of one character. -/
def repeated (c : Char) (n : Nat) : String := String.ofList (List.replicate n c)

/-- The marks below a line, behind what they start with. -/
def underline (indent : String) (markings : List Marking) : String :=
  (markings.foldl (fun (column, text) m =>
    let width := max 1 (m.stop.2 - m.start.2)
    (max column (m.start.2 - 1) + width,
      text ++ repeated ' ' (m.start.2 - 1 - column) ++ repeated '^' width)) (0, indent)).2

/-- The markings of an error in order. -/
def markings (text : List Char) (span : Pattern.Span) (earlier : Option Pattern.Span) : List Marking :=
  let marking (s : Pattern.Span) : Marking := ⟨position text s.start, position text s.stop⟩
  match earlier with
  | none => [marking span]
  | some other =>
    if other.start < span.start then [marking other, marking span] else [marking span, marking other]

/-- The pattern, line by line, with marks below. -/
def notated (pattern : String) (markings : List Marking) : List String :=
  let count := (Text.lines pattern).length + if pattern.endsWith "\n" then 1 else 0
  let width := if count ≤ 1 then 0 else (toString count).length
  let label (n : Nat) : String :=
    if width = 0 then "    " else repeated ' ' (width - (toString n).length) ++ toString n ++ ": "
  let indent := repeated ' ' (if width = 0 then 4 else width + 2)
  (Text.lines pattern).zipIdx.flatMap fun (line, i) =>
    let here := markings.filter fun m => m.oneLine && m.start.1 == i + 1
    (label (i + 1) ++ line) :: if here.isEmpty then [] else [underline indent here]

/-- What is wrong with the pattern, in words. -/
def message (pattern : String) : PatternError → String
  | tooLarge =>
    "Compiled regex exceeds size limit of " ++ toString footprintLimit ++ " bytes."
  | flawed flaw span earlier =>
    let marks := markings pattern.toList span earlier
    let lines := notated pattern marks
    let shown :=
      if pattern.contains '\n' then
        let rule := repeated '~' 79
        let notes := (marks.filter (!·.oneLine)).map fun m =>
          "on line " ++ toString m.start.1 ++ " (column " ++ toString m.start.2 ++ ") through line "
            ++ toString m.stop.1 ++ " (column " ++ toString (m.stop.2 - 1) ++ ")"
        rule :: lines ++ rule :: notes
      else lines
    "\n".intercalate ("regex parse error:" :: shown ++ ["error: " ++ flaw.message])

end PatternError

end ChartLint
