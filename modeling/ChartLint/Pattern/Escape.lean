import ChartLint.Pattern.Property

/-!
# Escapes

What a backslash and the characters behind it stand for: a character that means something else by
itself, a character given by its code, a class, or an anchor.

Some escapes are well formed and still mean nothing, such as a property that does not exist.  Their
flaw is kept beside them, because errors in the form of the pattern are reported first.
-/

namespace ChartLint.Pattern

/-- What an escape stands for. -/
inductive Escape where
  /-- A character; `byte` if it is given by the two digits of a byte. -/
  | char (c : Char) (byte : Bool)
  /-- A class, and what is wrong with it. -/
  | set (s : CharSet) (flaw : Option Flaw)
  /-- An anchor. -/
  | anchor (a : Anchor)

namespace Escape

/-! ## Classes -/

/-- The class of a letter in lower case. -/
def classOf (m : Mode) (letter : Char) : CharSet :=
  match letter with
  | 'd' => if m.ascii then .asciiDigit else .digit
  | 's' => if m.ascii then .asciiBlank else .blank
  | _ => if m.ascii then .asciiWord else .word

/-- A class, or its complement. -/
def ofClass (m : Mode) (negated : Bool) (s : CharSet) : Escape :=
  if negated then .set s.negate (if m.ascii then some .partOfCharacter else none) else .set s none

/-- The class of a property.  Where case does not count, it is closed under case first. -/
def ofProperty (m : Mode) (negated : Bool) (p : Property) : Escape :=
  if m.ascii then .set .none (some .beyondAscii)
  else match p.chars with
    | .error flaw => .set .none (some flaw)
    | .ok s =>
      let s := m.close s
      .set (if negated then s.negate else s) none

/-! ## Codes -/

/-- The character of a code. -/
def charOf? (code : Nat) : Option Char :=
  if code < 0xD800 ∨ (0xDFFF < code ∧ code ≤ 0x10FFFF) then some (Char.ofNat code) else none

/-- A code of exactly `count` digits, of which `value` has been read. -/
def fixedCode (m : Mode) : (count value : Nat) → Cursor → Except PatternError (Nat × Cursor)
  | 0, value, k => .ok (value, k)
  | count + 1, value, k =>
    match k.head? with
    | none => flawAt .unfinishedEscape k.here
    | some c =>
      match Text.hexValue? c with
      | none => flawAt .badCodeDigit k.char
      | some d => fixedCode m count (16 * value + d) (k.step m)

/-- The digits of a code up to a closing brace.  `fuel` is at least the number of characters. -/
def bracedDigits (m : Mode) (brace : Nat) : Nat → List Nat → Cursor →
    Except PatternError (List Nat × Cursor)
  | 0, _, k => flawAt .unfinishedEscape (k.since brace)
  | fuel + 1, digits, k =>
    match k.head? with
    | none => flawAt .unfinishedEscape (k.since brace)
    | some '\x7d' => .ok (digits.reverse, k)
    | some c =>
      match Text.hexValue? c with
      | none => flawAt .badCodeDigit k.char
      | some d => bracedDigits m brace fuel (d :: digits) (k.step m)

/-- The character that digits from a place stand for, or an error at a span. -/
def charAt (code : Nat) (span : Span) (byte : Bool) (k : Cursor) :
    Except PatternError (Escape × Cursor) :=
  match charOf? code with
  | some c => .ok (.char c byte, k)
  | none => flawAt .badCode span

/-- A character given by its code, behind the letter that says how many digits there are. -/
def readCode (m : Mode) (letter : Char) (k : Cursor) : Except PatternError (Escape × Cursor) :=
  let k := k.step m
  match k.head? with
  | none => flawAt .unfinishedEscape k.here
  | some '\x7b' => do
    let (digits, close) ← bracedDigits m k.place (k.rest.length + 1) [] (k.step m)
    let behind := close.step m
    if digits.isEmpty then flawAt .emptyCode (behind.since k.place)
    else
      charAt (digits.foldl (fun n d => 16 * n + d) 0) ⟨k.place + 1, close.place⟩ false behind
  | some _ => do
    let count := match letter with
      | 'x' => 2
      | 'u' => 4
      | _ => 8
    let (code, behind) ← fixedCode m count 0 k
    charAt code (behind.since k.place) (letter = 'x') behind

/-! ## Word edges -/

/-- The characters of words. -/
def wordChars (m : Mode) : CharSet := if m.ascii then .asciiWord else .word

/-- The anchor of an edge. -/
def edge (m : Mode) (e : WordEdge) : Escape := .anchor (.word e (wordChars m))

/-- May the character stand in the name of an edge? -/
def isEdgeChar (c : Char) : Bool := c.isAlpha || c = '-'

/-- The name of an edge.  `fuel` is at least the number of characters. -/
def readEdgeName (m : Mode) : Nat → List Char → Cursor → List Char × Cursor
  | 0, name, k => (name.reverse, k)
  | fuel + 1, name, k =>
    match k.head? with
    | some c => if isEdgeChar c then readEdgeName m fuel (c :: name) (k.step m) else (name.reverse, k)
    | none => (name.reverse, k)

/-- The edge with a name. -/
def edge? (name : String) : Option WordEdge :=
  match name with
  | "start" => some .start
  | "end" => some .finish
  | "start-half" => some .halfStart
  | "end-half" => some .halfFinish
  | _ => none

/-- What follows `\b`: the name of an edge in braces, or nothing that belongs to it.  `start` is the
place of the backslash. -/
def readBoundary (m : Mode) (start : Nat) (k : Cursor) : Except PatternError (Escape × Cursor) :=
  if k.head? = some '\x7b' then
    let inside := k.step m
    match inside.head? with
    | none => flawAt .unfinishedBraces (inside.since start)
    | some c =>
      if isEdgeChar c then
        let (name, close) := readEdgeName m (k.rest.length + 1) [] inside
        if close.head? = some '\x7d' then
          match edge? (String.ofList name) with
          | some e => .ok (edge m e, close.next)
          | none => flawAt .unknownEdge (close.since inside.place)
        else flawAt .unclosedEdge (close.since k.place)
      else .ok (edge m .boundary, k)
  else .ok (edge m .boundary, k)

/-! ## All escapes -/

/-- The character that a letter stands for. -/
def control? (c : Char) : Option Char :=
  match c with
  | 'a' => some (Char.ofNat 0x07)
  | 'f' => some (Char.ofNat 0x0C)
  | 't' => some '\t'
  | 'n' => some '\n'
  | 'r' => some '\r'
  | 'v' => some (Char.ofNat 0x0B)
  | _ => none

/-- May the character be escaped to stand for itself? -/
def standsForItself (c : Char) : Bool :=
  c.toNat < 0x80 && !c.isAlphanum && c != '<' && c != '>'

/-- An escape at its backslash, and what follows it. -/
def read (m : Mode) (k : Cursor) : Except PatternError (Escape × Cursor) :=
  let start := k.place
  let k := k.next
  match k.head? with
  | none => flawAt .unfinishedEscape (k.since start)
  | some c =>
    let behind := k.next
    if c.isDigit then flawAt .backReference (behind.since start)
    else if c = 'x' ∨ c = 'u' ∨ c = 'U' then readCode m c k
    else if c = 'p' ∨ c = 'P' then do
      let (property, behind) ← Property.read m k
      return (ofProperty m (c = 'P') property, behind)
    else if "dDsSwW".contains c then .ok (ofClass m c.isUpper (classOf m c.toLower), behind)
    else if standsForItself c then .ok (.char c false, behind)
    else match c, control? c with
      | _, some d => .ok (.char d false, behind)
      | 'A', _ => .ok (.anchor .textStart, behind)
      | 'z', _ => .ok (.anchor .textEnd, behind)
      | 'b', _ => readBoundary m start behind
      | 'B', _ => .ok (edge m .interior, behind)
      | '<', _ => .ok (edge m .start, behind)
      | '>', _ => .ok (edge m .finish, behind)
      | _, _ => flawAt .unknownEscape (behind.since start)

end Escape

end ChartLint.Pattern
