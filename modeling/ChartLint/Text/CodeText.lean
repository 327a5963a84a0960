import ChartLint.Text.CodeRange
import ChartLint.Text.Digit

/-!
# Ranges written as text

Long tables of ranges are written as text.  Each range is a number, the distance of its first code
from the last code of the range before it; a range of more than one code goes on with `+` and the
distance from its first code to its last.  Numbers are hexadecimal, and ranges are separated by
spaces or by the ends of lines.  So `41+19 7` is the range from `0x41` to `0x5A` and the code `0x61`.
-/

namespace ChartLint.Text

/-- What has been read of a table. -/
structure CodeReading where
  /-- The ranges, the last one first. -/
  ranges : List CodeRange := []
  /-- The last code of the last range. -/
  last : Nat := 0
  /-- The first code of the range being read, if its `+` has been read. -/
  first : Option Nat := none
  /-- The number being read. -/
  number : Nat := 0

namespace CodeReading

/-- The range being read ends. -/
def close (r : CodeReading) : CodeReading :=
  let range : CodeRange := match r.first with
    | none => ⟨r.last + r.number, r.last + r.number⟩
    | some first => ⟨first, first + r.number⟩
  { ranges := range :: r.ranges, last := range.last }

/-- One more character. -/
def step (r : CodeReading) (c : Char) : CodeReading :=
  match hexValue? c with
  | some d => { r with number := 16 * r.number + d }
  | none => if c = '+' then { r with first := some (r.last + r.number), number := 0 } else r.close

/-- One more line. -/
def line (r : CodeReading) (text : String) : CodeReading :=
  (text.toList.foldl step r).close

end CodeReading

/-- The ranges that lines of text write. -/
def rangesOfText (lines : List String) : List CodeRange :=
  (lines.foldl CodeReading.line {}).ranges.reverse

end ChartLint.Text
