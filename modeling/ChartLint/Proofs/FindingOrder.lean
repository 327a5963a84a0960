import ChartLint.Lint
import Mathlib.Data.List.Sort
import Mathlib.Data.Prod.Lex
import Mathlib.Data.String.Basic

/-!
# The order of findings

Findings are ordered by line, column, category, severity and message.  Read as a tuple of these, in
the lexicographic order, a finding is below another one exactly if its tuple is (`lt_iff_key`).  So
the order of findings is a linear one.

Findings in strictly increasing order are told by what they are (`eq_of_pairwise_lt`).  So leaving
findings out before they are sorted is leaving them out afterwards (`sorted_filter`), and directives
that silence more take findings out of the result (`aggregate_filter`).
-/

namespace ChartLint

theorem Category.rank_injective : Function.Injective Category.rank := by
  intro a b h
  cases a <;> cases b <;> first | rfl | cases h

theorem Severity.rank_injective : Function.Injective Severity.rank := by
  intro a b h
  cases a <;> cases b <;> first | rfl | cases h

namespace Diagnostic

/-- What findings are ordered by. -/
def key (d : Diagnostic) : ℕ ×ₗ ℕ ×ₗ ℕ ×ₗ ℕ ×ₗ String :=
  toLex (d.position.line, toLex (d.position.column, toLex (d.category.rank,
    toLex (d.severity.rank, d.message))))

theorem key_injective : Function.Injective key := by
  rintro ⟨c, s, ⟨l, k⟩, m⟩ ⟨c', s', ⟨l', k'⟩, m'⟩ h
  simp only [key, EmbeddingLike.apply_eq_iff_eq, Prod.mk.injEq] at h
  obtain ⟨rfl, rfl, hc, hs, rfl⟩ := h
  rw [Category.rank_injective hc, Severity.rank_injective hs]

/-- The order of findings is the lexicographic one. -/
theorem lt_iff_key {a b : Diagnostic} : a < b ↔ a.key < b.key := by
  have hcategory : a.category = b.category ↔ a.category.rank = b.category.rank :=
    Category.rank_injective.eq_iff.symm
  have hseverity : a.severity = b.severity ↔ a.severity.rank = b.severity.rank :=
    Severity.rank_injective.eq_iff.symm
  have hposition : a.position = b.position ↔
      a.position.line = b.position.line ∧ a.position.column = b.position.column := by
    cases a.position
    cases b.position
    simp
  have hlt : a < b ↔ a.position < b.position ∨ (a.position = b.position ∧
      (a.category.rank < b.category.rank ∨ (a.category = b.category ∧
        (a.severity.rank < b.severity.rank ∨ (a.severity = b.severity ∧ a.message < b.message))))) :=
    Iff.rfl
  rw [hlt, key, key, Prod.Lex.toLex_lt_toLex, Prod.Lex.toLex_lt_toLex, Prod.Lex.toLex_lt_toLex,
    Prod.Lex.toLex_lt_toLex, Position.lt_iff, hposition, hcategory, hseverity]
  simp only [or_assoc, and_assoc, and_or_left]

theorem lt_trans (a b c : Diagnostic) (h : a < b) (h' : b < c) : a < c :=
  lt_iff_key.2 ((lt_iff_key.1 h).trans (lt_iff_key.1 h'))

theorem lt_trichotomy (a b : Diagnostic) (h : ¬ a < b) (h' : ¬ b < a) : a = b := by
  rw [lt_iff_key, not_lt] at h h'
  exact key_injective (le_antisymm h' h)

theorem lt_irrefl (a : Diagnostic) : ¬ a < a := fun h => (lt_iff_key.1 h).false

theorem lt_asymm (a b : Diagnostic) (h : a < b) : ¬ b < a :=
  fun h' => lt_irrefl a (lt_trans a b a h h')

/-- What is between two findings, or beside them, is behind the first or in front of the second. -/
theorem lt_or_lt_of_lt (a b c : Diagnostic) (h : a < b) : a < c ∨ c < b := by
  rw [lt_iff_key] at h
  rw [lt_iff_key, lt_iff_key]
  exact (lt_or_ge a.key c.key).imp_right fun hle => hle.trans_lt h

end Diagnostic

/-! ## Sorted findings -/

theorem pairwise_sorted (found : List Diagnostic) : (Sorted.ofList found).Pairwise (· < ·) :=
  Sorted.pairwise_ofList Diagnostic.lt_trans Diagnostic.lt_trichotomy found

theorem mem_sorted {found : List Diagnostic} {d : Diagnostic} : d ∈ Sorted.ofList found ↔ d ∈ found :=
  Sorted.mem_ofList Diagnostic.lt_trichotomy

/-- Findings in strictly increasing order are told by what they are. -/
theorem eq_of_pairwise_lt {xs ys : List Diagnostic} (hx : xs.Pairwise (· < ·))
    (hy : ys.Pairwise (· < ·)) (h : ∀ d, d ∈ xs ↔ d ∈ ys) : xs = ys := by
  have hirrefl : @Std.Irrefl Diagnostic (· < ·) := ⟨Diagnostic.lt_irrefl⟩
  have hantisymm : @Std.Antisymm Diagnostic (· < ·) :=
    ⟨fun a b hab hba => absurd (Diagnostic.lt_trans a b a hab hba) (Diagnostic.lt_irrefl a)⟩
  exact hx.eq_of_mem_iff hy h

/-- Leaving findings out before sorting is leaving them out afterwards. -/
theorem sorted_filter (found : List Diagnostic) (p : Diagnostic → Bool) :
    Sorted.ofList (found.filter p) = (Sorted.ofList found).filter p := by
  refine eq_of_pairwise_lt (pairwise_sorted _) ((pairwise_sorted found).filter p) fun d => ?_
  rw [mem_sorted, List.mem_filter, List.mem_filter, mem_sorted]

/-- If directives silence what others silence and what satisfies a condition, the latter is left out
of the result. -/
theorem aggregate_filter {silenced silenced' : Suppressions} {p : Diagnostic → Bool}
    (h : ∀ d, silenced'.suppresses d = (silenced.suppresses d || p d)) (found : List Diagnostic) :
    aggregate found silenced' = (aggregate found silenced).filter fun d => !p d := by
  rw [aggregate, aggregate, ← sorted_filter, List.filter_filter]
  refine congrArg _ (List.filter_congr fun d _ => ?_)
  rw [h d, Bool.not_or, Bool.and_comm]

end ChartLint
