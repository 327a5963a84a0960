import ChartLint.Proofs.LogGrowth

/-!
# The ranking of files

The statistics of a run log list the files with the most errors first, then those with the most
findings.  Files that tie are in the order of their paths, although the comparison does not look at
paths: the tally by path has its keys in increasing order, and the sort keeps the order of what ties
(`pairwise_mergeSort`).

*Ranking.*  So the files of a tally are arranged strictly (`pairwise_ranking`), and the first `n`
files of the ranking are the true top.

*Order of findings.*  The tally by path adds up the findings of all records (`byFile_foldl`), and
adding does not depend on the order.  So a log in which records have their findings in another order
has the same ranking.
-/

namespace ChartLint

/-! ## Sorting keeps the order of what ties -/

section Sorting

variable {α : Type} {a b : α} {xs : List α}

/-- Of two elements of a list, one stands in front of the other. -/
theorem pair_sublist_or (ha : a ∈ xs) (hb : b ∈ xs) (hne : a ≠ b) :
    [a, b].Sublist xs ∨ [b, a].Sublist xs := by
  obtain ⟨front, back, rfl⟩ := List.append_of_mem ha
  rcases List.mem_append.1 hb with hb | hb
  · right
    have hfront := List.singleton_sublist.2 hb
    exact hfront.append (List.singleton_sublist.2 List.mem_cons_self)
  · left
    have hback := (List.mem_cons.1 hb).resolve_left hne.symm
    exact ((List.singleton_sublist.2 hback).cons_cons a).trans (List.sublist_append_right front _)

/-- In a list without repetition no element stands both in front of another one and behind it. -/
theorem not_pair_sublist_swap (hxs : xs.Nodup) (h : [a, b].Sublist xs) : ¬ [b, a].Sublist xs := by
  intro hswap
  obtain ⟨front, back, rfl, ha, hb⟩ := List.cons_sublist_iff.1 h
  rw [List.singleton_sublist] at hb
  have hapart := (List.nodup_append.1 hxs).2.2
  obtain ⟨inFront, inBack, heq, hfront, hback⟩ := List.sublist_append_iff.1 hswap
  cases inFront with
  | nil =>
      rw [List.nil_append] at heq
      subst heq
      exact hapart a ha a (hback.subset (by simp)) rfl
  | cons c inFront =>
      obtain ⟨rfl, -⟩ := List.cons.inj heq
      exact hapart b (hfront.subset List.mem_cons_self) b hb rfl

/-- A sorted list is in the order of the sort, and what ties is in the order that it had. -/
theorem pairwise_mergeSort {le : α → α → Bool} (trans : ∀ a b c, le a b → le b c → le a c)
    (total : ∀ a b, le a b || le b a) {R : α → α → Prop} (hxs : xs.Nodup) (hR : xs.Pairwise R) :
    (xs.mergeSort le).Pairwise fun a b => le a b = true ∧ (le b a = true → R a b) := by
  refine List.pairwise_iff_forall_sublist.2 fun {a b} hab => ?_
  have hle := List.pairwise_iff_forall_sublist.1 (List.pairwise_mergeSort trans total xs) hab
  refine ⟨hle, fun hba => ?_⟩
  have hnodup : (xs.mergeSort le).Nodup := (List.mergeSort_perm xs le).nodup_iff.2 hxs
  have ha : a ∈ xs := List.mem_mergeSort.1 (hab.subset (by simp))
  have hb : b ∈ xs := List.mem_mergeSort.1 (hab.subset (by simp))
  have hne : a ≠ b := List.pairwise_iff_forall_sublist.1 hnodup hab
  rcases pair_sublist_or ha hb hne with horder | horder
  · exact List.pairwise_iff_forall_sublist.1 hR horder
  · exact absurd (List.pair_sublist_mergeSort trans total hba horder)
      (not_pair_sublist_swap hnodup hab)

end Sorting

namespace LogStats

/-! ## The ranking -/

/-- A file stands before another one in the ranking: it has more errors, or as many and more
findings, or as many of both and the smaller path. -/
def RanksAbove (a b : String × SeverityCount) : Prop :=
  b.2.errors < a.2.errors ∨ (a.2.errors = b.2.errors ∧
    (b.2.total < a.2.total ∨ (a.2.total = b.2.total ∧ a.1 < b.1)))

/-- All files in the order of the ranking. -/
def ranking (s : LogStats) : Tally String :=
  s.byFile.mergeSort ranksBefore

variable {s : LogStats}

theorem ranksBefore_iff {a b : String × SeverityCount} :
    ranksBefore a b = true ↔
      b.2.errors < a.2.errors ∨ (a.2.errors = b.2.errors ∧ b.2.total ≤ a.2.total) := by
  simp [ranksBefore]

theorem perm_ranking (s : LogStats) : s.ranking.Perm s.byFile :=
  List.mergeSort_perm s.byFile ranksBefore

/-- The ranking is strict. -/
theorem pairwise_ranking (h : s.byFile.IsProper) : s.ranking.Pairwise RanksAbove := by
  have hpaths : s.byFile.Pairwise (·.1 < ·.1) := List.pairwise_map.1 h.ordered
  have hnodup : s.byFile.Nodup := by
    refine hpaths.imp ?_
    rintro a b hlt rfl
    exact String.lt_irrefl a.1 hlt
  have htrans : ∀ a b c, ranksBefore a b = true → ranksBefore b c = true → ranksBefore a c = true := by
    intro a b c hab hbc
    rw [ranksBefore_iff] at *
    omega
  have htotal : ∀ a b, (ranksBefore a b || ranksBefore b a) = true := by
    intro a b
    rw [Bool.or_eq_true, ranksBefore_iff, ranksBefore_iff]
    omega
  refine (pairwise_mergeSort htrans htotal hnodup hpaths).imp fun {a b} hab => ?_
  obtain ⟨hle, htie⟩ := hab
  rw [ranksBefore_iff] at hle htie
  rw [RanksAbove]
  by_cases hback : a.2.errors < b.2.errors ∨ (b.2.errors = a.2.errors ∧ a.2.total ≤ b.2.total)
  · have hlt := htie hback
    exact .inr ⟨by omega, .inr ⟨by omega, hlt⟩⟩
  · omega

theorem worstFiles_eq_take (s : LogStats) (n : Nat) : s.worstFiles n = s.ranking.take n := rfl

/-- What the first files of a statistics are. -/
structure TopFiles (s : LogStats) : Prop where
  /-- There are as many as are asked for, if there are so many. -/
  length : ∀ n, (s.worstFiles n).length = min n s.byFile.length
  /-- They are the front of all files in a strict order. -/
  arranged : ∃ files, files.Perm s.byFile ∧ files.Pairwise RanksAbove ∧
    ∀ n, s.worstFiles n <+: files
  /-- A file that is not among them comes behind each of them. -/
  above : ∀ n, ∀ a ∈ s.worstFiles n, ∀ b ∈ s.byFile, b ∉ s.worstFiles n → RanksAbove a b
  /-- Fewer files are the front of more files. -/
  fewer : ∀ m n, m ≤ n → s.worstFiles m <+: s.worstFiles n

theorem topFiles (h : s.byFile.IsProper) : s.TopFiles where
  length n := by
    rw [worstFiles_eq_take, List.length_take, (perm_ranking s).length_eq]
  arranged := ⟨s.ranking, perm_ranking s, pairwise_ranking h, fun n => List.take_prefix n s.ranking⟩
  above n a ha b hb hnot := by
    have hmem : b ∈ s.ranking.take n ++ s.ranking.drop n := by
      rw [List.take_append_drop]
      exact (perm_ranking s).mem_iff.2 hb
    have hbehind := (List.mem_append.1 hmem).resolve_left hnot
    have hordered := pairwise_ranking h
    rw [← List.take_append_drop n s.ranking] at hordered
    exact (List.pairwise_append.1 hordered).2.2 a ha b hbehind
  fewer m n hmn := List.take_prefix_take_left hmn

/-! ## The records of a log -/

/-- The record that a line of a log is counted as. -/
def recordOf? (line : String) : Option RunRecord :=
  if Text.trim line = "" then none else RunRecord.read line

/-- The findings in the record of a line; none if it is not counted as a record. -/
def findingsOf (line : String) : List LoggedFinding :=
  match recordOf? line with
  | some r => r.diagnostics
  | none => []

theorem byFile_countLine (s : LogStats) (line : String) :
    (s.countLine line).byFile = s.byFile.addAll (fileCounts (findingsOf line)) := by
  rw [countLine, findingsOf, recordOf?]
  split
  · rfl
  · cases RunRecord.read line with
    | none => rfl
    | some r =>
        show (s.record r).byFile = _
        rw [record_eq]

/-- The tally by path adds up the findings of the records. -/
theorem byFile_foldl (s : LogStats) (lines : List String) :
    (lines.foldl countLine s).byFile = s.byFile.addAll (fileCounts (lines.flatMap findingsOf)) := by
  induction lines generalizing s with
  | nil => rfl
  | cons line lines ih =>
      rw [List.foldl_cons, ih, byFile_countLine, ← Tally.addAll_append, ← fileCounts_append,
        ← List.flatMap_cons]

theorem byFile_ofText (log : String) :
    (ofText log).byFile = Tally.addAll [] (fileCounts ((Text.lines log).flatMap findingsOf)) :=
  byFile_foldl {} (Text.lines log)

theorem recordOf?_print {r : RunRecord} (h : r.Fits) : recordOf? r.print = some r := by
  rw [recordOf?, if_neg r.trim_print_ne_empty, RunRecord.read_print h]

/-- Two lines of a log say the same, but for the order of the findings in a record. -/
inductive SameRun : String → String → Prop where
  /-- They are the same line. -/
  | same (line : String) : SameRun line line
  /-- They are records that differ in the order of their findings alone. -/
  | reordered {line line' : String} {r : RunRecord} {found : List LoggedFinding}
      (hline : recordOf? line = some r) (hline' : recordOf? line' = some { r with diagnostics := found })
      (hfound : found.Perm r.diagnostics) : SameRun line line'

theorem SameRun.perm {line line' : String} (h : SameRun line line') :
    (findingsOf line').Perm (findingsOf line) := by
  cases h with
  | same => exact .refl _
  | reordered hline hline' hfound =>
      rw [findingsOf, findingsOf, hline, hline']
      exact hfound

/-- Lines that say the same but for the order of findings have the same findings. -/
theorem perm_flatMap_findingsOf {lines lines' : List String} (h : List.Forall₂ SameRun lines lines') :
    (lines'.flatMap findingsOf).Perm (lines.flatMap findingsOf) := by
  induction h with
  | nil => exact .refl _
  | cons hline _ ih =>
      rw [List.flatMap_cons, List.flatMap_cons]
      exact hline.perm.append ih

/-- The order of the findings in records makes no difference to the tally by path. -/
theorem byFile_ofText_eq {log log' : String}
    (h : List.Forall₂ SameRun (Text.lines log) (Text.lines log')) :
    (ofText log').byFile = (ofText log).byFile := by
  rw [byFile_ofText, byFile_ofText]
  exact Tally.isProper_nil.addAll_perm ne_zero_of_mem_fileCounts ((perm_flatMap_findingsOf h).map _)

/-- A file is in the statistics with the errors and the warnings of the findings that name it. -/
theorem mem_byFile_ofText {log path : String} {c : SeverityCount} :
    (path, c) ∈ (ofText log).byFile ↔
      c = .ofFindings (((Text.lines log).flatMap findingsOf).filter (·.path = path)) ∧ c ≠ 0 := by
  have hget : (ofText log).byFile.get path =
      .ofFindings (((Text.lines log).flatMap findingsOf).filter (·.path = path)) := by
    rw [byFile_ofText, Tally.get_addAll .nil, sum_fileCounts]
    exact zero_add _
  rw [(isSound_ofText log).byFile.mem_iff, hget, eq_comm]

/-- Whatever is in a log, its first files are the top of a strict order: more errors first, then more
findings, then the smaller path.  What is counted for a file are the findings of the records that
name it, and their order within records makes no difference. -/
theorem worst_files_rank (log : String) :
    (ofText log).TopFiles ∧
      (∀ path c, (path, c) ∈ (ofText log).byFile ↔
        c = .ofFindings (((Text.lines log).flatMap findingsOf).filter (·.path = path)) ∧ c ≠ 0) ∧
      ∀ log', List.Forall₂ SameRun (Text.lines log) (Text.lines log') →
        ∀ n, (ofText log').worstFiles n = (ofText log).worstFiles n := by
  refine ⟨topFiles (isSound_ofText log).byFile, fun path c => mem_byFile_ofText, fun log' h n => ?_⟩
  rw [worstFiles, worstFiles, byFile_ofText_eq h]

/-- The findings of the only record of a log are put the other way round. -/
theorem worst_files_rank_reverse :
    let r := { RunRecord.extreme with diagnostics := RunRecord.extreme.diagnostics.reverse }
    let log := logWith "" [.extreme]
    let log' := logWith "" [r]
    r ≠ .extreme ∧ List.Forall₂ SameRun (Text.lines log) (Text.lines log') ∧
      (ofText log).worstFiles 1 = [("", ⟨1, 0⟩)] ∧ (ofText log').worstFiles 1 = [("", ⟨1, 0⟩)] := by
  intro r log log'
  have hempty : Text.IsComplete "".toList := .inl rfl
  have hfits : r.Fits := { RunRecord.fits_extreme with
    diagnostics := fun f hf => RunRecord.fits_extreme.diagnostics f (List.mem_reverse.1 hf) }
  have hlines : Text.lines log = [RunRecord.extreme.print] :=
    RunRecord.lines_append_logLine hempty RunRecord.fits_extreme
  have hlines' : Text.lines log' = [r.print] := RunRecord.lines_append_logLine hempty hfits
  have hsame : List.Forall₂ SameRun (Text.lines log) (Text.lines log') := by
    rw [hlines, hlines']
    refine .cons (.reordered (recordOf?_print RunRecord.fits_extreme) (recordOf?_print hfits) ?_) .nil
    exact List.reverse_perm _
  have hbyFile : (ofText log).byFile = [("", ⟨1, 0⟩), ("a\\b\n.pine", ⟨0, 1⟩)] := by
    rw [ofText_logWith hempty (by simp [RunRecord.fits_extreme])]
    decide +kernel
  have hworst : (ofText log).worstFiles 1 = [("", ⟨1, 0⟩)] := by
    rw [worstFiles, hbyFile, List.mergeSort_of_pairwise (by decide)]
    rfl
  refine ⟨by decide, hsame, hworst, ?_⟩
  rw [(worst_files_rank log).2.2 log' hsame, hworst]

end LogStats

end ChartLint
