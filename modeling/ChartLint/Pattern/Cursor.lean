import ChartLint.Pattern.Error

/-!
# Reading at a place

A cursor is a place in the text of a pattern together with what follows it.  A mode says how what
follows is to be understood.  In the spaced mode, blanks and comments between the constructs of a
pattern count for nothing; a comment starts with `#` and ends with its line.
-/

namespace ChartLint.Pattern

/-- How a pattern is to be understood. -/
structure Mode where
  /-- Case does not count. -/
  caseless : Bool := false
  /-- The anchors `^` and `$` look at lines. -/
  multiLine : Bool := false
  /-- The point stands for line ends too. -/
  dotAll : Bool := false
  /-- Carriage returns end lines, too. -/
  returns : Bool := false
  /-- Blanks and comments count for nothing. -/
  spaced : Bool := false
  /-- Classes know the characters below `0x80` alone. -/
  ascii : Bool := false
deriving DecidableEq, Repr

/-- A set as the mode asks for it. -/
def Mode.close (m : Mode) (s : CharSet) : CharSet :=
  if !m.caseless then s else if m.ascii then s.asciiCaseless else s.caseless

/-- A place in the text of a pattern. -/
structure Cursor where
  /-- The number of characters before the place. -/
  place : Nat
  /-- The characters behind the place. -/
  rest : List Char

namespace Cursor

/-- The next character. -/
def head? (k : Cursor) : Option Char := k.rest.head?

/-- Is the place the end of the pattern? -/
def atEnd (k : Cursor) : Bool := k.rest.isEmpty

/-- The place behind the next `n` characters. -/
def drop (n : Nat) (k : Cursor) : Cursor :=
  ⟨k.place + min n k.rest.length, k.rest.drop n⟩

/-- The place behind the next character. -/
def next (k : Cursor) : Cursor := k.drop 1

/-- The place behind a text, if it follows. -/
def after? (text : String) (k : Cursor) : Option Cursor :=
  if text.toList.isPrefixOf k.rest then some (k.drop text.length) else none

/-- The empty span at the place. -/
def here (k : Cursor) : Span := ⟨k.place, k.place⟩

/-- The span of the next character. -/
def char (k : Cursor) : Span := ⟨k.place, k.next.place⟩

/-- The span from a place up to this one. -/
def since (start : Nat) (k : Cursor) : Span := ⟨start, k.place⟩

/-- How many characters blanks and comments take. -/
def spaceLength (inComment : Bool) : List Char → Nat
  | [] => 0
  | c :: cs =>
    if inComment then spaceLength (c != '\n') cs + 1
    else if Text.isBlank c then spaceLength false cs + 1
    else if c = '#' then spaceLength true cs + 1
    else 0

/-- The place behind blanks and comments, where they count for nothing. -/
def skip (m : Mode) (k : Cursor) : Cursor :=
  if m.spaced then k.drop (spaceLength false k.rest) else k

/-- The place behind the next character and what counts for nothing. -/
def step (m : Mode) (k : Cursor) : Cursor := k.next.skip m

/-- The place behind blanks, whether they count or not. -/
def skipBlanks (k : Cursor) : Cursor := k.drop (k.rest.takeWhile Text.isBlank).length

/-- The first character that counts, where the start of a comment counts for nothing and the comment
itself does. -/
def firstSolid? (inComment : Bool) : List Char → Option Char
  | [] => none
  | c :: cs =>
    if Text.isBlank c then firstSolid? inComment cs
    else if !inComment && c = '#' then firstSolid? true cs
    else some c

/-- The character behind the next one. -/
def second? (m : Mode) (k : Cursor) : Option Char :=
  if m.spaced then firstSolid? false k.rest.tail else k.rest.tail.head?

end Cursor

/-- An error at a span. -/
def flawAt {α : Type} (flaw : Flaw) (span : Span) : Except PatternError α :=
  .error (.flawed flaw span none)

end ChartLint.Pattern
