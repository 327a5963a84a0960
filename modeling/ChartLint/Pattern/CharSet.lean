import ChartLint.Text.Blank
import ChartLint.Text.CaseFold
import ChartLint.Text.GeneralCategory
import ChartLint.Text.Trait

/-!
# Sets of characters

A set of characters is a list of ranges of code points.  The ranges are in increasing order, and
there is a gap between any two of them, so equal sets are equal lists.  Every operation keeps that
form: it collects ranges in any order and leaves it to `CharSet.ofRanges` to sort and join them.
-/

namespace ChartLint

open Text (CodeRange CodeShift)

/-- A set of characters. -/
structure CharSet where
  /-- Ranges in increasing order with gaps between them. -/
  ranges : List CodeRange
deriving DecidableEq, Repr

namespace CharSet

/-- Is the character in the set? -/
def contains (s : CharSet) (c : Char) : Bool :=
  s.ranges.any (·.contains c.toNat)

/-- A range in front of ranges that start no earlier, where ranges that touch become one. -/
def joinFrom (r : CodeRange) : List CodeRange → List CodeRange
  | [] => [r]
  | q :: rest =>
    if q.first ≤ r.last + 1 then joinFrom ⟨r.first, max r.last q.last⟩ rest
    else r :: joinFrom q rest

/-- The set of the characters in some ranges. -/
def ofRanges (ranges : List CodeRange) : CharSet :=
  match ranges.mergeSort fun a b => decide (a.first ≤ b.first) with
  | [] => ⟨[]⟩
  | r :: rest => ⟨joinFrom r rest⟩

/-- No character. -/
def none : CharSet := ⟨[]⟩

/-- The characters from the first to the second, both included. -/
def range (first last : Char) : CharSet := ⟨[⟨first.toNat, last.toNat⟩]⟩

/-- One character. -/
def single (c : Char) : CharSet := range c c

/-! ## Operations -/

/-- The characters of either set. -/
def union (s t : CharSet) : CharSet :=
  ofRanges (s.ranges ++ t.ranges)

/-- The largest code point. -/
def lastCode : Nat := 0x10FFFF

/-- What is left out from a code point upwards. -/
def gaps (start : Nat) : List CodeRange → List CodeRange
  | [] => if start ≤ lastCode then [⟨start, lastCode⟩] else []
  | r :: rest => (if start < r.first then [⟨start, r.first - 1⟩] else []) ++ gaps (r.last + 1) rest

/-- The characters that are not in the set. -/
def negate (s : CharSet) : CharSet := ⟨gaps 0 s.ranges⟩

/-- The characters of both sets. -/
def inter (s t : CharSet) : CharSet :=
  (s.negate.union t.negate).negate

/-- The characters of the first set that are not in the second. -/
def difference (s t : CharSet) : CharSet :=
  s.inter t.negate

/-- The characters of exactly one of the sets. -/
def symmetricDifference (s t : CharSet) : CharSet :=
  (s.union t).difference (s.inter t)

/-! ## Case -/

/-- Where a shift moves the code points of a range. -/
def shifted (s : CodeShift) (r : CodeRange) : List CodeRange :=
  let first := max s.first r.first
  let last := min s.last r.last
  let move (n : Nat) : Nat := (n + s.offset).toNat
  if last < first then []
  else if s.step = 1 then [⟨move first, move last⟩]
  else (List.range (last - first + 1)).filterMap fun i =>
    if s.moves (first + i) then some ⟨move (first + i), move (first + i)⟩ else Option.none

/-- A set together with the characters that shifts make of its members. -/
def withShifts (s : CharSet) (shifts : List CodeShift) : CharSet :=
  ofRanges (s.ranges ++ shifts.flatMap fun shift => s.ranges.flatMap (shifted shift))

/-- The shift that undoes another one. -/
def undo (s : CodeShift) : CodeShift where
  first := (s.first + s.offset).toNat
  last := (s.last + s.offset).toNat
  step := s.step
  offset := -s.offset

/-- A set together with the characters that some foldings of case make equal to its members: those
that the members fold to, and those that fold to one of them. -/
def closed (foldings : List CodeShift) (s : CharSet) : CharSet :=
  (s.withShifts foldings).withShifts (foldings.map undo)

/-- The characters that differ from one of the set in case only. -/
def caseless (s : CharSet) : CharSet :=
  s.closed Text.foldShifts.toList

/-- The same for the English letters alone. -/
def asciiCaseless (s : CharSet) : CharSet :=
  s.closed [⟨0x41, 0x5A, 1, 32⟩]

/-! ## Classes -/

/-- The decimal digits. -/
def asciiDigit : CharSet := range '0' '9'

/-- The letters of the English alphabet. -/
def asciiLetter : CharSet := (range 'A' 'Z').union (range 'a' 'z')

/-- English letters, decimal digits and the underscore. -/
def asciiWord : CharSet := (asciiLetter.union asciiDigit).union (single '_')

/-- The blanks below `0x80`. -/
def asciiBlank : CharSet := (range '\t' '\r').union (single ' ')

/-- The characters below `0x80`. -/
def ascii : CharSet := ⟨[⟨0, 0x7F⟩]⟩

/-- The characters of general categories. -/
def ofCategories (categories : List String) : CharSet :=
  ofRanges (categories.flatMap Text.categoryRanges)

/-- The characters with a trait. -/
def ofTrait (t : Text.Trait) : CharSet :=
  ((ofCategories t.categories).union ⟨Text.rangesOfText t.added⟩).difference
    ⟨Text.rangesOfText t.removed⟩

/-- The characters with the trait of a name. -/
def trait? (name : String) : Option CharSet :=
  (Text.traits.find? (·.names.contains name)).map ofTrait

/-- Decimal digits of any script. -/
def digit : CharSet := ofCategories ["Nd"]

/-- Word characters: alphabetic characters, digits, marks, connectors such as the underscore, and
the two joiners. -/
def word : CharSet :=
  ((ofCategories ("Nd" :: "Pc" :: Text.markCategories)).union
    ((trait? "alphabetic").getD none)).union ((trait? "joincontrol").getD none)

/-- Blanks. -/
def blank : CharSet := ofRanges Text.blankRanges.toList

end CharSet

end ChartLint
