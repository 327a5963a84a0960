import ChartLint.Proofs.FindingOrder
import ChartLint.Proofs.SortedDistinct

/-!
# Findings in one form

What is reported is told by which findings there are.  It does not matter in which order the rules
found them, how often, and in how many parts they are put together.

*One form.*  The report is in strictly increasing order and holds the findings that no comment
silences, and no other list does (`eq_aggregate_iff`).  The rest follows from this.

*Sorting.*  The same report comes out if the findings are sorted and each one that equals its
predecessor is dropped (`aggregate_eq_sortedDistinct`).  Only neighbours are compared there.  Equal
findings are neighbours since the key that they are sorted by leaves no field out: if it did, findings
with one key would come in the order in which they were found, and equal ones could stand apart.
-/

namespace ChartLint

/-! ## The report of some findings -/

theorem mem_aggregate {found : List Diagnostic} {silenced : Suppressions} {d : Diagnostic} :
    d ∈ aggregate found silenced ↔ d ∈ found ∧ silenced.suppresses d = false := by
  rw [aggregate, mem_sorted, List.mem_filter, Bool.not_eq_true']

theorem pairwise_aggregate (found : List Diagnostic) (silenced : Suppressions) :
    (aggregate found silenced).Pairwise (· < ·) :=
  pairwise_sorted _

/-- The report is the only list in strictly increasing order that holds what is not silenced. -/
theorem eq_aggregate_iff {found out : List Diagnostic} {silenced : Suppressions} :
    out = aggregate found silenced ↔
      out.Pairwise (· < ·) ∧ ∀ d, d ∈ out ↔ d ∈ found ∧ silenced.suppresses d = false := by
  constructor
  · rintro rfl
    exact ⟨pairwise_aggregate found silenced, fun d => mem_aggregate⟩
  · rintro ⟨hsorted, hmem⟩
    refine eq_of_pairwise_lt hsorted (pairwise_aggregate found silenced) fun d => ?_
    rw [hmem d, mem_aggregate]

theorem aggregate_congr {found found' : List Diagnostic} {silenced : Suppressions}
    (h : ∀ d, silenced.suppresses d = false → (d ∈ found ↔ d ∈ found')) :
    aggregate found silenced = aggregate found' silenced := by
  refine eq_aggregate_iff.2 ⟨pairwise_aggregate found silenced, fun d => ?_⟩
  rw [mem_aggregate]
  exact and_congr_left (h d)

/-- After sorting, findings that are equal are neighbours. -/
theorem aggregate_eq_sortedDistinct (found : List Diagnostic) (silenced : Suppressions) :
    aggregate found silenced = sortedDistinct (found.filter fun d => !silenced.suppresses d) :=
  (sortedDistinct_eq Diagnostic.lt_asymm Diagnostic.lt_or_lt_of_lt _).symm

/-! ## The main result -/

/-- The report is canonical.  It is what sorting the findings that are not silenced and dropping
repetitions of neighbours gives, and it is the only list that strictly increases by line, column,
category, severity and message and holds just these findings.  So it is the same for findings in
another order or with repetitions, it does not change when it is made again, and it can be put
together from the reports of two parts. -/
theorem aggregate_canonical (found : List Diagnostic) (silenced : Suppressions) :
    aggregate found silenced = sortedDistinct (found.filter fun d => !silenced.suppresses d) ∧
      (∀ out, out = aggregate found silenced ↔
        out.Pairwise (fun a b => a.key < b.key) ∧
          ∀ d, d ∈ out ↔ d ∈ found ∧ silenced.suppresses d = false) ∧
      (∀ again, (∀ d, d ∈ again ↔ d ∈ found) →
        aggregate again silenced = aggregate found silenced) ∧
      aggregate (aggregate found silenced) silenced = aggregate found silenced ∧
      ∀ more, aggregate (found ++ more) silenced =
        aggregate (aggregate found silenced ++ aggregate more silenced) silenced := by
  refine ⟨aggregate_eq_sortedDistinct found silenced, fun out => ?_, fun again h => ?_, ?_,
    fun more => ?_⟩
  · simp only [← Diagnostic.lt_iff_key]
    exact eq_aggregate_iff
  · exact aggregate_congr fun d _ => h d
  · refine aggregate_congr fun d hd => ?_
    rw [mem_aggregate, and_iff_left hd]
  · refine aggregate_congr fun d hd => ?_
    rw [List.mem_append, List.mem_append, mem_aggregate, mem_aggregate, and_iff_left hd,
      and_iff_left hd]

/-- Two warnings that differ in their messages alone, found in the other order and one of them
twice, are reported the same; a third one, on a silenced line, is not. -/
theorem aggregate_canonical_messages :
    let a := Diagnostic.warning .hardcodedString ⟨1, 1⟩ "a"
    let b := Diagnostic.warning .hardcodedString ⟨1, 1⟩ "b"
    let c := Diagnostic.warning .hardcodedString ⟨2, 1⟩ "c"
    let silenced : Suppressions := ⟨[(2, .all)]⟩
    (∀ d, d ∈ [b, c, a, b] ↔ d ∈ [a, b, c]) ∧
      aggregate [b, c, a, b] silenced = aggregate [a, b, c] silenced ∧
      aggregate [a, b, c] silenced = [a, b] := by
  intro a b c silenced
  have hsame : ∀ d, d ∈ [b, c, a, b] ↔ d ∈ [a, b, c] := by
    intro d
    simp only [List.mem_cons, List.not_mem_nil, or_false]
    tauto
  obtain ⟨-, -, hcongr, -, -⟩ := aggregate_canonical [a, b, c] silenced
  exact ⟨hsame, hcongr [b, c, a, b] hsame, by decide +kernel⟩

end ChartLint
