import ChartLint.Sorted
import Mathlib.Data.List.Destutter

/-!
# Sorting and dropping repetitions

A sorted list without repetition can be made in two steps: the list is sorted, so that equivalent
elements are neighbours in the order in which they were found, and then each element that is
equivalent to the one kept last is dropped.  This gives the same list as inserting one element after
the other (`sortedDistinct_eq`).

The step is the insertion of one element into a list in both forms (`destutter_middle`): sorting puts
a new first element in front of all that are not below it, and there it takes the place of those that
are equivalent to it.
-/

namespace ChartLint

variable {α : Type} [LT α] [DecidableLT α]

/-- The list is sorted, and an element that is equivalent to the one in front of it is dropped. -/
def sortedDistinct (xs : List α) : List α :=
  (xs.mergeSort fun a b => ¬ b < a).destutter fun a b => a < b ∨ b < a

namespace Sorted

/-- What is kept behind an element does not depend on which of two equivalent elements it is. -/
theorem exists_tail_destutter' (conn : ∀ a b c : α, a < b → a < c ∨ c < b) {x y : α}
    (hxy : ¬ x < y) (hyx : ¬ y < x) (zs : List α) :
    ∃ rest, zs.destutter' (fun a b => a < b ∨ b < a) x = x :: rest ∧
      zs.destutter' (fun a b => a < b ∨ b < a) y = y :: rest := by
  have hlow (z : α) : x < z ↔ y < z :=
    ⟨fun h => (conn x z y h).resolve_left hxy, fun h => (conn y z x h).resolve_left hyx⟩
  have hhigh (z : α) : z < x ↔ z < y :=
    ⟨fun h => (conn z x y h).resolve_right hyx, fun h => (conn z y x h).resolve_right hxy⟩
  induction zs with
  | nil => exact ⟨[], rfl, rfl⟩
  | cons z zs ih =>
      rw [List.destutter', List.destutter']
      simp only [hlow z, hhigh z]
      split
      · exact ⟨_, rfl, rfl⟩
      · exact ih

/-- In front of elements that are not below it, an element is kept as it is inserted. -/
theorem destutter_cons (asymm : ∀ a b : α, a < b → ¬ b < a)
    (conn : ∀ a b c : α, a < b → a < c ∨ c < b) {x : α} {zs : List α} (h : ∀ z ∈ zs, ¬ z < x) :
    (x :: zs).destutter (fun a b => a < b ∨ b < a) =
      insert x (zs.destutter fun a b => a < b ∨ b < a) := by
  cases zs with
  | nil => rfl
  | cons z zs =>
      have hz := h z List.mem_cons_self
      have hirrefl : ¬ z < z := fun h => asymm z z h h
      rw [List.destutter_cons_cons, List.destutter_cons']
      by_cases hlt : x < z
      · obtain ⟨rest, hrest, -⟩ := exists_tail_destutter' conn hirrefl hirrefl zs
        rw [if_pos (.inl hlt), hrest, insert, if_pos hlt]
      · obtain ⟨rest, hx, hrest⟩ := exists_tail_destutter' conn hlt hz zs
        rw [if_neg (not_or.2 ⟨hlt, hz⟩), hx, hrest, insert, if_neg hlt, if_neg hz]

theorem insert_cons_of_lt (asymm : ∀ a b : α, a < b → ¬ b < a) {x y : α} (h : y < x)
    (ys : List α) : insert x (y :: ys) = y :: insert x ys := by
  rw [insert, if_neg (asymm y x h), if_pos h]

/-- An element that is behind all that are below it, and in front of all others, is kept as it is
inserted. -/
theorem destutter_middle (asymm : ∀ a b : α, a < b → ¬ b < a)
    (conn : ∀ a b c : α, a < b → a < c ∨ c < b) {x : α} {ys zs : List α} (hys : ∀ y ∈ ys, y < x)
    (hzs : ∀ z ∈ zs, ¬ z < x) :
    (ys ++ x :: zs).destutter (fun a b => a < b ∨ b < a) =
      insert x ((ys ++ zs).destutter fun a b => a < b ∨ b < a) := by
  cases ys with
  | nil => exact destutter_cons asymm conn hzs
  | cons y ys =>
      rw [List.cons_append, List.cons_append, List.destutter_cons', List.destutter_cons']
      -- the element kept last is below the new one
      induction ys generalizing y with
      | nil =>
          have hy := hys y List.mem_cons_self
          have hkept : zs.destutter' (fun a b => a < b ∨ b < a) y =
              y :: zs.destutter fun a b => a < b ∨ b < a := by
            cases zs with
            | nil => rfl
            | cons z zs =>
                have hz := (conn y x z hy).resolve_right (hzs z List.mem_cons_self)
                rw [List.destutter'_cons_pos _ (.inl hz), List.destutter_cons']
          rw [List.nil_append, List.nil_append, List.destutter'_cons_pos _ (.inl hy), hkept,
            insert_cons_of_lt asymm hy, ← destutter_cons asymm conn hzs, List.destutter_cons']
      | cons w ys ih =>
          obtain ⟨hy, hrest⟩ := List.forall_mem_cons.1 hys
          rw [List.cons_append, List.cons_append, List.destutter', List.destutter']
          split
          · rw [ih w hrest, insert_cons_of_lt asymm hy]
          · exact ih y (List.forall_mem_cons.2 ⟨hy, (List.forall_mem_cons.1 hrest).2⟩)

end Sorted

/-- Sorting and dropping repetitions gives the list that insertions give. -/
theorem sortedDistinct_eq (asymm : ∀ a b : α, a < b → ¬ b < a)
    (conn : ∀ a b c : α, a < b → a < c ∨ c < b) (xs : List α) :
    sortedDistinct xs = Sorted.ofList xs := by
  have htrans (a b c : α) (hab : decide (¬ b < a) = true) (hbc : decide (¬ c < b) = true) :
      decide (¬ c < a) = true := by
    rw [decide_eq_true_iff] at *
    exact fun h => (conn c a b h).elim hbc hab
  have htotal (a b : α) : (decide (¬ b < a) || decide (¬ a < b)) = true := by
    rw [Bool.or_eq_true, decide_eq_true_iff, decide_eq_true_iff, ← not_and_or]
    exact fun h => asymm b a h.1 h.2
  induction xs with
  | nil =>
      rw [sortedDistinct, List.mergeSort_nil]
      rfl
  | cons x xs ih =>
      obtain ⟨ys, zs, hcons, hsorted, hys⟩ := List.mergeSort_cons htrans htotal x xs
      have hzs : ∀ z ∈ zs, ¬ z < x := by
        have h := List.pairwise_mergeSort htrans htotal (x :: xs)
        rw [hcons] at h
        intro z hz
        exact of_decide_eq_true ((List.pairwise_cons.1 (List.pairwise_append.1 h).2.1).1 z hz)
      have hbelow : ∀ y ∈ ys, y < x := by
        intro y hy
        simpa using hys y hy
      show _ = Sorted.insert x (Sorted.ofList xs)
      rw [← ih, sortedDistinct, sortedDistinct, hcons, hsorted]
      exact Sorted.destutter_middle asymm conn hbelow hzs

end ChartLint
