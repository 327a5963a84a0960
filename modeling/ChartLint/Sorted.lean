/-!
# Sorted lists

Sets of names, findings and paths are kept as lists in strictly increasing order, so that equal sets
are equal lists and there is one order to print them in.  Insertion keeps the order and lets a new
element take the place of an equivalent one; a list is sorted by inserting its elements from the
last to the first, so of equivalent elements the first one stays.

The order is a strict one given by `<`.  Two elements are equivalent when neither is below the
other.  Where equivalent elements are equal, `mem_insert` and `mem_ofList` say what is in the list.
Where elements are ordered by a key, the keys are sorted with them (`map_ofList`).
-/

namespace ChartLint.Sorted

variable {α : Type} [LT α] [DecidableLT α]

/-- Put an element into a sorted list. -/
def insert (x : α) : List α → List α
  | [] => [x]
  | y :: ys => if x < y then x :: y :: ys else if y < x then y :: insert x ys else x :: ys

/-- The elements of a list in increasing order, without repetition. -/
def ofList (xs : List α) : List α :=
  xs.foldr insert []

/-- What is in a list after an insertion was there before or is new. -/
theorem eq_or_mem_of_mem_insert {x z : α} {ys : List α} (h : z ∈ insert x ys) :
    z = x ∨ z ∈ ys := by
  induction ys with
  | nil => simpa [insert] using h
  | cons y ys ih =>
    rw [insert] at h
    split at h
    · simpa using h
    · split at h
      · rcases List.mem_cons.1 h with rfl | h
        · simp
        · rcases ih h with rfl | h <;> simp [*]
      · rcases List.mem_cons.1 h with rfl | h <;> simp [*]

/-- Insertion keeps a list in strictly increasing order. -/
theorem pairwise_insert (trans : ∀ a b c : α, a < b → b < c → a < c)
    (tri : ∀ a b : α, ¬ a < b → ¬ b < a → a = b) (x : α) {ys : List α}
    (h : ys.Pairwise (· < ·)) : (insert x ys).Pairwise (· < ·) := by
  induction ys with
  | nil => simp [insert]
  | cons y ys ih =>
    obtain ⟨hy, hys⟩ := List.pairwise_cons.1 h
    rw [insert]
    split
    case isTrue hxy =>
      refine List.pairwise_cons.2 ⟨fun z hz => ?_, h⟩
      rcases List.mem_cons.1 hz with rfl | hz
      · exact hxy
      · exact trans _ _ _ hxy (hy z hz)
    case isFalse hxy =>
      split
      case isTrue hyx =>
        refine List.pairwise_cons.2 ⟨fun z hz => ?_, ih hys⟩
        rcases eq_or_mem_of_mem_insert hz with rfl | hz
        · exact hyx
        · exact hy z hz
      case isFalse hyx =>
        obtain rfl := tri _ _ hxy hyx
        exact h

/-- A sorted list is in strictly increasing order. -/
theorem pairwise_ofList (trans : ∀ a b c : α, a < b → b < c → a < c)
    (tri : ∀ a b : α, ¬ a < b → ¬ b < a → a = b) (xs : List α) :
    (ofList xs).Pairwise (· < ·) := by
  induction xs with
  | nil => simp [ofList]
  | cons x xs ih => exact pairwise_insert trans tri x ih

/-- After an insertion the list holds the new element and what it held before. -/
theorem mem_insert (tri : ∀ a b : α, ¬ a < b → ¬ b < a → a = b) {x z : α} {ys : List α} :
    z ∈ insert x ys ↔ z = x ∨ z ∈ ys := by
  refine ⟨eq_or_mem_of_mem_insert, fun h => ?_⟩
  induction ys with
  | nil => simpa [insert] using h
  | cons y ys ih =>
    rw [insert]
    split
    case isTrue => simpa using h
    case isFalse hxy =>
      split
      case isTrue =>
        rcases h with h | h
        · exact List.mem_cons_of_mem _ (ih (.inl h))
        · rcases List.mem_cons.1 h with rfl | h
          · simp
          · exact List.mem_cons_of_mem _ (ih (.inr h))
      case isFalse hyx =>
        obtain rfl := tri _ _ hxy hyx
        simpa using h

/-- Sorting keeps the elements. -/
theorem mem_ofList (tri : ∀ a b : α, ¬ a < b → ¬ b < a → a = b) {z : α} {xs : List α} :
    z ∈ ofList xs ↔ z ∈ xs := by
  induction xs with
  | nil => simp [ofList]
  | cons x xs ih =>
    rw [List.mem_cons, ← ih]
    exact mem_insert tri

/-- Keys by which elements are ordered are inserted with the elements. -/
theorem map_insert {β : Type} [LT β] [DecidableLT β] (key : α → β)
    (h : ∀ a b, a < b ↔ key a < key b) (x : α) (ys : List α) :
    (insert x ys).map key = insert (key x) (ys.map key) := by
  induction ys with
  | nil => rfl
  | cons y ys ih =>
    rw [insert, List.map_cons, insert]
    by_cases hxy : x < y
    · rw [if_pos hxy, if_pos ((h x y).1 hxy), List.map_cons, List.map_cons]
    · rw [if_neg hxy, if_neg (mt (h x y).2 hxy)]
      by_cases hyx : y < x
      · rw [if_pos hyx, if_pos ((h y x).1 hyx), List.map_cons, ih]
      · rw [if_neg hyx, if_neg (mt (h y x).2 hyx), List.map_cons]

/-- Keys by which elements are ordered are sorted with the elements. -/
theorem map_ofList {β : Type} [LT β] [DecidableLT β] (key : α → β)
    (h : ∀ a b, a < b ↔ key a < key b) (xs : List α) :
    (ofList xs).map key = ofList (xs.map key) := by
  induction xs with
  | nil => rfl
  | cons x xs ih =>
    show (insert x (ofList xs)).map key = insert (key x) (ofList (xs.map key))
    rw [map_insert key h, ih]

end ChartLint.Sorted
