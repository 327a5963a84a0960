import ChartLint.Sorted

/-!
# Sets of names

A set of names is a list of strings in strictly increasing order of their code points.  The order is
part of the type, so two sets with the same names are the same value, and a set is printed and
searched in one order only.
-/

namespace ChartLint

/-- Distinct names in increasing order. -/
structure NameSet where
  /-- The names. -/
  names : List String
  /-- They increase. -/
  sorted : names.Pairwise (· < ·)

namespace NameSet

theorem string_trichotomy (a b : String) (h : ¬ a < b) (h' : ¬ b < a) : a = b :=
  String.le_antisymm (String.not_lt.1 h') (String.not_lt.1 h)

instance : Membership String NameSet where
  mem s x := x ∈ s.names

instance (x : String) (s : NameSet) : Decidable (x ∈ s) :=
  inferInstanceAs (Decidable (x ∈ s.names))

theorem mem_def {x : String} {s : NameSet} : x ∈ s ↔ x ∈ s.names := Iff.rfl

/-- The set without names. -/
def empty : NameSet := ⟨[], .nil⟩

instance : EmptyCollection NameSet := ⟨empty⟩

instance : Inhabited NameSet := ⟨empty⟩

/-- Is the name in the set? -/
def contains (s : NameSet) (x : String) : Bool :=
  s.names.contains x

@[simp] theorem contains_iff {s : NameSet} {x : String} : s.contains x = true ↔ x ∈ s := by
  simp [contains, mem_def]

@[simp] theorem not_mem_empty (x : String) : ¬ x ∈ (∅ : NameSet) := by
  simp [mem_def, EmptyCollection.emptyCollection, empty]

/-- The number of names. -/
def size (s : NameSet) : Nat :=
  s.names.length

/-- No name is listed twice. -/
theorem nodup (s : NameSet) : s.names.Nodup := by
  refine s.sorted.imp ?_
  rintro a b hlt rfl
  exact String.lt_irrefl a hlt

/-- A set of names of another set is no larger. -/
theorem size_le_of_subset {s t : NameSet} (h : ∀ x ∈ s, x ∈ t) : s.size ≤ t.size :=
  s.nodup.length_le_of_subset h

/-- A set of names of another set that is no smaller has all of them. -/
theorem mem_of_size_le {s t : NameSet} (h : ∀ x ∈ s, x ∈ t) (hsize : t.size ≤ s.size) {x : String}
    (hx : x ∈ t) : x ∈ s := by
  by_cases hs : x ∈ s
  · exact hs
  · have hlt : (x :: s.names).length ≤ t.names.length := by
      refine List.Nodup.length_le_of_subset (List.nodup_cons.2 ⟨hs, s.nodup⟩) ?_
      exact List.cons_subset.2 ⟨hx, h⟩
    rw [List.length_cons] at hlt
    exact absurd hsize (Nat.not_le_of_lt hlt)

/-- Sets with the same names are equal. -/
theorem ext {s t : NameSet} (h : ∀ x, x ∈ s ↔ x ∈ t) : s = t := by
  obtain ⟨xs, hs⟩ := s
  obtain ⟨ys, ht⟩ := t
  have hperm : xs.Perm ys := (List.perm_ext_iff_of_nodup (nodup ⟨xs, hs⟩) (nodup ⟨ys, ht⟩)).2 h
  obtain rfl : xs = ys := hperm.eq_of_pairwise
    (fun a b _ _ hab hba => absurd (String.lt_trans hab hba) (String.lt_irrefl a)) hs ht
  rfl

/-- The set of the names of a list. -/
def ofList (xs : List String) : NameSet :=
  ⟨Sorted.ofList xs, Sorted.pairwise_ofList (fun _ _ _ => String.lt_trans) string_trichotomy xs⟩

@[simp] theorem mem_ofList {x : String} {xs : List String} : x ∈ ofList xs ↔ x ∈ xs :=
  Sorted.mem_ofList string_trichotomy

/-- One more name. -/
def insert (s : NameSet) (x : String) : NameSet :=
  ⟨Sorted.insert x s.names,
    Sorted.pairwise_insert (fun _ _ _ => String.lt_trans) string_trichotomy x s.sorted⟩

@[simp] theorem mem_insert {x y : String} {s : NameSet} : y ∈ s.insert x ↔ y = x ∨ y ∈ s :=
  Sorted.mem_insert string_trichotomy

/-- The names of both sets. -/
def union (s t : NameSet) : NameSet :=
  s.names.foldr (fun x u => u.insert x) t

@[simp] theorem mem_union {x : String} {s t : NameSet} : x ∈ s.union t ↔ x ∈ s ∨ x ∈ t := by
  obtain ⟨names, _⟩ := s
  simp only [union, mem_def]
  induction names with
  | nil => simp
  | cons y ys ih =>
    rename_i h
    have := ih (List.pairwise_cons.1 h).2
    simp only [List.foldr_cons, List.mem_cons, ← mem_def, mem_insert] at this ⊢
    rw [this, or_assoc]

/-- The names of a set that satisfy `p`. -/
def filter (p : String → Bool) (s : NameSet) : NameSet :=
  ⟨s.names.filter p, s.sorted.filter p⟩

@[simp] theorem mem_filter {x : String} {p : String → Bool} {s : NameSet} :
    x ∈ s.filter p ↔ x ∈ s ∧ p x = true := by
  simp [filter, mem_def]

/-- Is every name of `s` in `t`? -/
def subset (s t : NameSet) : Bool :=
  s.names.all t.contains

theorem subset_iff {s t : NameSet} : s.subset t = true ↔ ∀ x ∈ s, x ∈ t := by
  simp [subset, List.all_eq_true, mem_def, contains]

end NameSet

end ChartLint
