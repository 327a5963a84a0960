import ChartLint.Pattern.Cursor
import ChartLint.Text.Numeric

/-!
# How groups start and repetitions end

Behind an opening parenthesis, a question mark starts the name of a group or a list of modes.  Modes
in front of a colon hold for the group; modes in front of a closing parenthesis make no group and
hold for what follows them.  Modes behind a minus are switched off.

The bounds of a repetition stand in braces: a number, a number and a comma, or two numbers.  A
question mark behind a repetition asks for short matches first, which makes no difference to the
question whether a pattern occurs.
-/

namespace ChartLint.Pattern

/-! ## Modes -/

/-- A mode with the one of a letter switched on or off. -/
def Mode.set? (m : Mode) (letter : Char) (on : Bool) : Option Mode :=
  match letter with
  | 'i' => some { m with caseless := on }
  | 'm' => some { m with multiLine := on }
  | 's' => some { m with dotAll := on }
  | 'R' => some { m with returns := on }
  | 'x' => some { m with spaced := on }
  | 'u' => some { m with ascii := !on }
  | 'U' => some m
  | _ => none

/-- A list of modes as far as it has been read. -/
structure Switches where
  /-- The mode that it makes. -/
  mode : Mode
  /-- The letters and the minus in it, with their places. -/
  seen : List (Char × Span)
  /-- The minus, if nothing stands behind it. -/
  minus : Option Span

namespace Switches

/-- One letter or the minus more. -/
def push (s : Switches) (c : Char) (span : Span) : Except PatternError Switches :=
  let seen := (c, span) :: s.seen
  if c = '-' then
    match s.seen.lookup c with
    | some earlier => .error (.flawed .repeatedMinus span (some earlier))
    | none => .ok { s with seen, minus := some span }
  else match s.mode.set? c (s.seen.lookup '-').isNone with
    | none => flawAt .unknownMode span
    | some mode =>
      match s.seen.lookup c with
      | some earlier => .error (.flawed .repeatedMode span (some earlier))
      | none => .ok { mode, seen, minus := none }

end Switches

/-- A list of modes up to the colon or the parenthesis that ends it.  `fuel` is at least the number
of characters. -/
def readSwitches : Nat → Switches → Cursor → Except PatternError (Switches × Cursor)
  | 0, _, k => flawAt .unfinishedModes k.here
  | fuel + 1, s, k =>
    match k.head? with
    | none => flawAt .unfinishedModes k.here
    | some c =>
      if c = ':' ∨ c = ')' then
        match s.minus with
        | some span => flawAt .danglingMinus span
        | none => .ok (s, k)
      else do
        let s ← s.push c k.char
        readSwitches fuel s k.next

/-! ## Names -/

/-- May the character stand in a name? -/
def isNameChar (first : Bool) (c : Char) : Bool :=
  if first then c == '_' || Text.isAlphabetic c
  else Text.isWordChar c || c == '.' || c == '[' || c == ']'

/-- The characters of a name up to `>`.  `fuel` is at least the number of characters. -/
def readName : Nat → List Char → Cursor → Except PatternError (List Char × Cursor)
  | 0, _, k => flawAt .unfinishedName k.here
  | fuel + 1, name, k =>
    match k.head? with
    | none => flawAt .unfinishedName k.here
    | some '>' => .ok (name.reverse, k)
    | some c =>
      if isNameChar name.isEmpty c then readName fuel (c :: name) k.next
      else flawAt .badName k.char

/-! ## Openings -/

/-- How a group starts. -/
inductive Opening where
  /-- A group that keeps what it matches, perhaps under a name. -/
  | keeping (name : Option (String × Span))
  /-- A group in a mode. -/
  | plain (mode : Mode)
  /-- No group; the mode changes for what follows. -/
  | change (mode : Mode)

/-- Is the pattern about to look around? -/
def lookAround? (k : Cursor) : Option Cursor :=
  ["?=", "?!", "?<=", "?<!"].findSome? (k.after? ·)

/-- What stands behind an opening parenthesis, given the parenthesis. -/
def readOpening (m : Mode) (k : Cursor) : Except PatternError (Opening × Cursor) := do
  let inside := k.step m
  if let some behind := lookAround? inside then
    flawAt .lookAround (behind.since k.place)
  else if let some nameStart := inside.after? "?P<" <|> inside.after? "?<" then
    let (name, close) ← readName (nameStart.rest.length + 1) [] nameStart
    if name.isEmpty then flawAt .emptyName nameStart.here
    else return (.keeping (some (String.ofList name, close.since nameStart.place)), close.next)
  else if let some modes := inside.after? "?" then
    if modes.atEnd then flawAt .unclosedGroup k.char
    else
      let (s, close) ← readSwitches (modes.rest.length + 1) ⟨m, [], none⟩ modes
      if close.head? = some ':' then return (.plain s.mode, close.next)
      else if s.seen.isEmpty then flawAt .nothingToRepeat inside.here
      else return (.change s.mode, close.next)
  else return (.keeping none, inside)

/-! ## Bounds -/

/-- The digits of a number.  `fuel` is at least the number of characters. -/
def readDigits (m : Mode) : Nat → List Char → Cursor → List Char × Cursor
  | 0, digits, k => (digits.reverse, k)
  | fuel + 1, digits, k =>
    match k.head? with
    | some c => if c.isDigit then readDigits m fuel (c :: digits) (k.step m) else (digits.reverse, k)
    | none => (digits.reverse, k)

/-- The largest number that a bound may be. -/
def largestBound : Nat := 0xFFFFFFFF

/-- A number between blanks, and what follows it. -/
def readNumber (m : Mode) (k : Cursor) : Except PatternError Nat × Cursor :=
  let start := k.skipBlanks
  let (digits, behind) := readDigits m (start.rest.length + 1) [] start
  let span := behind.since start.place
  let value := digits.foldl (fun n c => 10 * n + (c.toNat - '0'.toNat)) 0
  (if digits.isEmpty then flawAt .badBound span
    else if value ≤ largestBound then .ok value
    else flawAt .hugeNumber span, behind.skipBlanks)

/-- What follows a repetition, without the mark of a lazy one. -/
def dropLazy (k : Cursor) : Cursor :=
  if k.head? = some '?' then k.next else k

/-- The bounds between the braces, and the place of the closing brace.  `start` is the place of the
opening one. -/
def readInnerBounds (m : Mode) (start : Nat) (k : Cursor) :
    Except PatternError ((Nat × Option Nat) × Cursor) := do
  let (least, behind) := readNumber m k
  if behind.atEnd then flawAt .unclosedBounds (behind.since start)
  else if behind.head? = some ',' then
    let second := behind.step m
    if second.atEnd then flawAt .unclosedBounds (second.since start)
    else if second.head? = some '\x7d' then
      let least ← least
      return ((least, none), second)
    else
      let least ← least
      let (most, close) := readNumber m second
      let most ← most
      return ((least, some most), close)
  else
    let least ← least
    return ((least, some least), behind)

/-- The bounds of a repetition at their brace, and what follows them. -/
def readBounds (m : Mode) (k : Cursor) : Except PatternError ((Nat × Option Nat) × Cursor) := do
  let start := k.place
  let inside := k.step m
  if inside.atEnd then flawAt .unclosedBounds (inside.since start)
  else
    let (bounds, close) ← readInnerBounds m start inside
    if close.head? ≠ some '\x7d' then flawAt .unclosedBounds (close.since start)
    else
      let behind := dropLazy (close.step m)
      if bounds.2.any (· < bounds.1) then flawAt .reversedBounds (behind.since start)
      else return (bounds, behind)

end ChartLint.Pattern
