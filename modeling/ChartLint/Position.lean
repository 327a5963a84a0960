import ChartLint.Word

/-!
# Positions in a script

A position is a line and a column, both counted from one.  Reading a character moves the position:
a line feed to the start of the next line, a tab by the width of a tab, every other character by one
column.  A tab is never narrower than one column.

Positions are ordered by line, then by column.  The order is the one in which a reader meets them,
and findings are reported in it.

Columns are counted in two ways.  `step` and `advance` count them without bound.  `stepWord` and
`advanceWord` count them in machine words, as the reader of tokens does: a column that does not fit
wraps around, and nothing else changes (`wrap_advance`).
-/

namespace ChartLint

/-- A place in a script. -/
structure Position where
  /-- The line, counted from one. -/
  line : Nat
  /-- The column, counted from one. -/
  column : Nat
deriving DecidableEq, Repr

namespace Position

/-- Where a script starts. -/
def origin : Position := ⟨1, 1⟩

/-- Lines first, then columns. -/
instance : LT Position where
  lt a b := a.line < b.line ∨ (a.line = b.line ∧ a.column < b.column)

instance (a b : Position) : Decidable (a < b) :=
  inferInstanceAs (Decidable (a.line < b.line ∨ (a.line = b.line ∧ a.column < b.column)))

theorem lt_iff {a b : Position} :
    a < b ↔ a.line < b.line ∨ (a.line = b.line ∧ a.column < b.column) := Iff.rfl

/-- The columns a character takes on its line. -/
def width (tab : Nat) (c : Char) : Nat :=
  if c = '\t' then max tab 1 else 1

/-- The position after one character. -/
def step (tab : Nat) (p : Position) (c : Char) : Position :=
  if c = '\n' then ⟨p.line + 1, 1⟩ else ⟨p.line, p.column + width tab c⟩

/-- The position after a run of characters. -/
def advance (tab : Nat) (p : Position) (cs : List Char) : Position :=
  cs.foldl (step tab) p

@[simp] theorem advance_nil (tab : Nat) (p : Position) : p.advance tab [] = p := rfl

@[simp] theorem advance_cons (tab : Nat) (p : Position) (c : Char) (cs : List Char) :
    p.advance tab (c :: cs) = (p.step tab c).advance tab cs := rfl

theorem advance_append (tab : Nat) (p : Position) (cs ds : List Char) :
    p.advance tab (cs ++ ds) = (p.advance tab cs).advance tab ds := by
  simp [advance]

/-! ## Columns in machine words -/

/-- The position after one character, with the column in a word. -/
def stepWord (tab : Nat) (p : Position) (c : Char) : Position :=
  if c = '\n' then ⟨p.line + 1, 1⟩ else ⟨p.line, Word.add p.column (width tab c)⟩

/-- The position after a run of characters, with the column in a word. -/
def advanceWord (tab : Nat) (p : Position) (cs : List Char) : Position :=
  cs.foldl (stepWord tab) p

theorem advanceWord_append (tab : Nat) (p : Position) (cs ds : List Char) :
    p.advanceWord tab (cs ++ ds) = (p.advanceWord tab cs).advanceWord tab ds := by
  simp [advanceWord]

/-- The position with what a word can hold of its column. -/
def wrap (p : Position) : Position :=
  ⟨p.line, p.column % Word.size⟩

theorem wrap_of_lt {p : Position} (h : p.column < Word.size) : p.wrap = p := by
  rw [wrap, Nat.mod_eq_of_lt h]

theorem wrap_origin : origin.wrap = origin :=
  wrap_of_lt Word.one_lt_size

theorem wrap_step (tab : Nat) (p : Position) (c : Char) :
    (p.step tab c).wrap = p.wrap.stepWord tab c := by
  rw [step, stepWord]
  split
  case isTrue => exact wrap_of_lt (p := ⟨p.line + 1, 1⟩) Word.one_lt_size
  case isFalse => rw [wrap, wrap, Word.mod_add, Word.add_eq]

/-- Counting in words gives what a word can hold of the column. -/
theorem wrap_advance (tab : Nat) (p : Position) (cs : List Char) :
    (p.advance tab cs).wrap = p.wrap.advanceWord tab cs := by
  induction cs generalizing p with
  | nil => rfl
  | cons c cs ih => rw [advance_cons, ih, wrap_step]; rfl

end Position

end ChartLint
