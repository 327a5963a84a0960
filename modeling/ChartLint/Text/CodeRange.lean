/-!
# Ranges of characters

The properties of characters that the linter needs are tables over code points.  A property is a
list of ranges, and a mapping from characters to characters is a list of ranges that are shifted by
a fixed distance.  The tables themselves stand in the modules named for the property.
-/

namespace ChartLint.Text

/-- The code points from `first` to `last`, both included. -/
structure CodeRange where
  /-- The smallest code point. -/
  first : Nat
  /-- The largest code point. -/
  last : Nat
deriving DecidableEq, Repr

/-- Does the range hold the code point? -/
def CodeRange.contains (r : CodeRange) (n : Nat) : Bool :=
  r.first ≤ n && n ≤ r.last

/-- Does one of the ranges hold the character? -/
def inRanges (table : Array CodeRange) (c : Char) : Bool :=
  table.any (·.contains c.toNat)

/-- Every `step`-th code point from `first` to `last`, moved by `offset`. -/
structure CodeShift where
  /-- The smallest code point that is moved. -/
  first : Nat
  /-- The largest code point that is moved. -/
  last : Nat
  /-- The distance between two code points that are moved. -/
  step : Nat
  /-- How far each of them goes. -/
  offset : Int

/-- Does the shift move the code point? -/
def CodeShift.moves (s : CodeShift) (n : Nat) : Bool :=
  s.first ≤ n && n ≤ s.last && (n - s.first) % s.step == 0

/-- The character where the first shift that moves `c` puts it, or `c` itself if none does. -/
def shiftChar (table : Array CodeShift) (c : Char) : Char :=
  match table.find? (·.moves c.toNat) with
  | some s => Char.ofNat (c.toNat + s.offset).toNat
  | none => c

end ChartLint.Text
