import ChartLint.Proofs.FindingOrder
import ChartLint.RunLog.Stats
import Mathlib.Algebra.BigOperators.Group.List.Basic
import Mathlib.Algebra.GroupWithZero.Nat

/-!
# What recording runs adds up to

Recording runs is adding.  After any number of records, each field of the statistics is what it was
before together with what the records have (`foldl_record`).

*Counts.*  Errors and warnings are counted apart, and the counts of findings add up
(`SeverityCount.ofFindings_append`).

*Tallies.*  A tally has its keys in increasing order and no empty counts, and adding to one keeps it
so.  Then the count of a key is the sum of what was added for this key (`Tally.get_addAll`), and the
counts of all keys together are the sum of all that was added (`Tally.sum_addAll`).  The order in
which counts are added makes no difference (`Tally.IsProper.addAll_perm`).
-/

namespace ChartLint

/-! ## Counts -/

namespace SeverityCount

instance : Zero SeverityCount := ⟨{}⟩

instance : Add SeverityCount := ⟨add⟩

@[ext] theorem ext {a b : SeverityCount} (he : a.errors = b.errors) (hw : a.warnings = b.warnings) :
    a = b := by
  cases a
  cases b
  cases he
  cases hw
  rfl

@[simp] theorem errors_zero : (0 : SeverityCount).errors = 0 := rfl

@[simp] theorem warnings_zero : (0 : SeverityCount).warnings = 0 := rfl

@[simp] theorem errors_add (a b : SeverityCount) : (a + b).errors = a.errors + b.errors := rfl

@[simp] theorem warnings_add (a b : SeverityCount) : (a + b).warnings = a.warnings + b.warnings := rfl

instance : AddCommMonoid SeverityCount where
  add_assoc a b c := by ext <;> simp [Nat.add_assoc]
  zero_add a := by ext <;> simp
  add_zero a := by ext <;> simp
  add_comm a b := by ext <;> simp [Nat.add_comm]
  nsmul := nsmulRec

theorem errors_sum (counts : List SeverityCount) : counts.sum.errors = (counts.map (·.errors)).sum := by
  induction counts with
  | nil => rfl
  | cons c counts ih => rw [List.sum_cons, List.map_cons, List.sum_cons, errors_add, ih]

theorem warnings_sum (counts : List SeverityCount) :
    counts.sum.warnings = (counts.map (·.warnings)).sum := by
  induction counts with
  | nil => rfl
  | cons c counts ih => rw [List.sum_cons, List.map_cons, List.sum_cons, warnings_add, ih]

theorem add_ne_zero {a : SeverityCount} (h : a ≠ 0) (b : SeverityCount) : a + b ≠ 0 := by
  intro hab
  apply h
  have he := congrArg errors hab
  have hw := congrArg warnings hab
  rw [errors_add, errors_zero] at he
  rw [warnings_add, warnings_zero] at hw
  ext
  · rw [errors_zero]
    omega
  · rw [warnings_zero]
    omega

theorem ofSeverity_ne_zero (severity : String) : ofSeverity severity ≠ 0 := by
  intro h
  unfold ofSeverity at h
  split at h
  · cases congrArg errors h
  · cases congrArg warnings h

/-- Errors and warnings that are counted by conditions add up along a list. -/
theorem mk_countP_append {α : Type} (p q : α → Bool) (xs ys : List α) :
    (⟨(xs ++ ys).countP p, (xs ++ ys).countP q⟩ : SeverityCount) =
      ⟨xs.countP p, xs.countP q⟩ + ⟨ys.countP p, ys.countP q⟩ := by
  ext
  · rw [errors_add]
    exact List.countP_append
  · rw [warnings_add]
    exact List.countP_append

/-- The errors and the warnings among findings.  What is not called an error is a warning. -/
def ofFindings (found : List LoggedFinding) : SeverityCount where
  errors := found.countP fun f => Text.equalIgnoringCase f.severity "error"
  warnings := found.countP fun f => !Text.equalIgnoringCase f.severity "error"

theorem ofFindings_append (found found' : List LoggedFinding) :
    ofFindings (found ++ found') = ofFindings found + ofFindings found' :=
  mk_countP_append _ _ found found'

theorem ofFindings_singleton (f : LoggedFinding) : ofFindings [f] = ofSeverity f.severity := by
  rw [ofFindings, ofSeverity, List.countP_singleton, List.countP_singleton]
  cases Text.equalIgnoringCase f.severity "error" <;> rfl

theorem ofFindings_cons (f : LoggedFinding) (found : List LoggedFinding) :
    ofFindings (f :: found) = ofSeverity f.severity + ofFindings found := by
  rw [← List.singleton_append, ofFindings_append, ofFindings_singleton]

/-- The counts of findings are the sum of the counts of each. -/
theorem sum_ofSeverity (found : List LoggedFinding) :
    (found.map fun f => ofSeverity f.severity).sum = ofFindings found := by
  induction found with
  | nil => rfl
  | cons f found ih => rw [List.map_cons, List.sum_cons, ih, ofFindings_cons]

end SeverityCount

/-! ## Tallies -/

instance : IsStrictTotalOrder Category (· < ·) where
  irrefl a := Nat.lt_irrefl a.rank
  trans _ _ _ := Nat.lt_trans
  trichotomous _ _ h h' :=
    Category.rank_injective (Nat.le_antisymm (Nat.le_of_not_lt h') (Nat.le_of_not_lt h))

namespace Tally

variable {κ : Type}

section Lookup

variable [DecidableEq κ]

/-- The count of a key, which is zero if the tally does not have the key. -/
def get (t : Tally κ) (key : κ) : SeverityCount :=
  (t.lookup key).getD 0

theorem get_cons_self (key : κ) (c : SeverityCount) (t : Tally κ) : get ((key, c) :: t) key = c := by
  rw [get, List.lookup_cons_self, Option.getD_some]

theorem get_cons_of_ne {key k : κ} (h : key ≠ k) (c : SeverityCount) (t : Tally κ) :
    get ((k, c) :: t) key = get t key := by
  rw [get, List.lookup_cons, beq_false_of_ne h]
  rfl

theorem get_eq_zero {t : Tally κ} {key : κ} (h : key ∉ t.map (·.1)) : get t key = 0 := by
  induction t with
  | nil => rfl
  | cons p t ih =>
      rw [List.map_cons, List.mem_cons, not_or] at h
      rw [get_cons_of_ne h.1, ih h.2]

end Lookup

variable [LT κ]

/-- The keys of a tally are in increasing order, and each has something to count. -/
structure IsProper (t : Tally κ) : Prop where
  /-- The keys are in increasing order. -/
  ordered : (t.map (·.1)).Pairwise (· < ·)
  /-- No count is empty. -/
  counted : ∀ p ∈ t, p.2 ≠ 0

theorem isProper_nil : IsProper ([] : Tally κ) where
  ordered := .nil
  counted := by
    intro p hp
    cases hp

/-- A proper tally does not have a key if and only if the count of the key is zero. -/
theorem IsProper.lookup_eq [DecidableEq κ] {t : Tally κ} (h : IsProper t) (key : κ) :
    t.lookup key = if t.get key = 0 then none else some (t.get key) := by
  rw [get]
  cases hkey : t.lookup key with
  | none => rfl
  | some c =>
      obtain ⟨above, below, rfl, -⟩ := List.lookup_eq_some_iff.1 hkey
      rw [Option.getD_some, if_neg (h.counted (key, c) (by simp))]

variable [DecidableLT κ]

/-- Add one count after the other. -/
def addAll (t : Tally κ) (counts : List (κ × SeverityCount)) : Tally κ :=
  counts.foldl (fun t p => add p.1 p.2 t) t

theorem addAll_append (t : Tally κ) (counts counts' : List (κ × SeverityCount)) :
    t.addAll (counts ++ counts') = (t.addAll counts).addAll counts' :=
  List.foldl_append

/-- What a tally has after an addition it had before, or it is the key of the addition. -/
theorem mem_of_mem_add {key : κ} {count : SeverityCount} {t : Tally κ} {k : κ}
    (h : k ∈ (add key count t).map (·.1)) : k = key ∨ k ∈ t.map (·.1) := by
  induction t with
  | nil =>
      rw [add] at h
      exact .inl (List.mem_singleton.1 h)
  | cons p t ih =>
      obtain ⟨k', c⟩ := p
      rw [add] at h
      split at h
      · exact List.mem_cons.1 h
      · split at h
        · rcases List.mem_cons.1 h with rfl | h
          · exact .inr List.mem_cons_self
          · rcases ih h with rfl | h
            · exact .inl rfl
            · exact .inr (List.mem_cons_of_mem _ h)
        · exact .inr h

theorem counted_add {key : κ} {count : SeverityCount} (hcount : count ≠ 0) {t : Tally κ}
    (h : ∀ p ∈ t, p.2 ≠ 0) : ∀ p ∈ add key count t, p.2 ≠ 0 := by
  induction t with
  | nil => exact List.forall_mem_singleton.2 hcount
  | cons p t ih =>
      obtain ⟨k, c⟩ := p
      obtain ⟨hc, ht⟩ := List.forall_mem_cons.1 h
      rw [add]
      split
      · exact List.forall_mem_cons.2 ⟨hcount, h⟩
      · split
        · exact List.forall_mem_cons.2 ⟨hc, ih ht⟩
        · exact List.forall_mem_cons.2 ⟨SeverityCount.add_ne_zero hc count, ht⟩

/-- An addition adds to the counts of all keys together. -/
theorem sum_add (key : κ) (count : SeverityCount) (t : Tally κ) :
    ((add key count t).map (·.2)).sum = (t.map (·.2)).sum + count := by
  induction t with
  | nil => exact add_comm count 0
  | cons p t ih =>
      obtain ⟨k, c⟩ := p
      rw [add]
      split
      · exact add_comm count _
      · split
        · rw [List.map_cons, List.sum_cons, ih, List.map_cons, List.sum_cons, add_assoc]
        · exact add_right_comm c count _

/-- The counts of all keys together grow by all that is added. -/
theorem sum_addAll (t : Tally κ) (counts : List (κ × SeverityCount)) :
    ((t.addAll counts).map (·.2)).sum = (t.map (·.2)).sum + (counts.map (·.2)).sum := by
  induction counts generalizing t with
  | nil => exact (add_zero _).symm
  | cons p counts ih =>
      show ((addAll (add p.1 p.2 t) counts).map (·.2)).sum = _
      rw [ih, sum_add, List.map_cons, List.sum_cons, add_assoc]

variable [IsStrictTotalOrder κ (· < ·)]

theorem ordered_add (key : κ) (count : SeverityCount) {t : Tally κ}
    (h : (t.map (·.1)).Pairwise (· < ·)) : ((add key count t).map (·.1)).Pairwise (· < ·) := by
  induction t with
  | nil => exact List.pairwise_singleton _ _
  | cons p t ih =>
      obtain ⟨k, c⟩ := p
      obtain ⟨hk, ht⟩ := List.pairwise_cons.1 h
      rw [add]
      split
      next hlt =>
        refine List.pairwise_cons.2 ⟨?_, h⟩
        intro k' hk'
        rcases List.mem_cons.1 hk' with rfl | hk'
        · exact hlt
        · exact IsTrans.trans _ _ _ hlt (hk k' hk')
      next =>
        split
        next hlt =>
          refine List.pairwise_cons.2 ⟨?_, ih ht⟩
          intro k' hk'
          rcases mem_of_mem_add hk' with rfl | hk'
          · exact hlt
          · exact hk k' hk'
        next => exact h

/-- An addition keeps a tally proper. -/
theorem IsProper.add {t : Tally κ} (h : IsProper t) (key : κ) {count : SeverityCount}
    (hcount : count ≠ 0) : IsProper (Tally.add key count t) where
  ordered := ordered_add key count h.ordered
  counted := counted_add hcount h.counted

theorem IsProper.addAll {t : Tally κ} (h : IsProper t) {counts : List (κ × SeverityCount)}
    (hcounts : ∀ p ∈ counts, p.2 ≠ 0) : IsProper (t.addAll counts) := by
  induction counts generalizing t with
  | nil => exact h
  | cons p counts ih =>
      obtain ⟨hp, hcounts⟩ := List.forall_mem_cons.1 hcounts
      exact ih (h.add p.1 hp) hcounts

variable [DecidableEq κ]

/-- An addition adds to the count of its key and leaves the others as they are. -/
theorem get_add {t : Tally κ} (h : (t.map (·.1)).Pairwise (· < ·)) (key : κ) (count : SeverityCount)
    (k : κ) : (add key count t).get k = t.get k + if key = k then count else 0 := by
  induction t with
  | nil =>
      split
      next heq =>
        subst heq
        exact (get_cons_self key count []).trans (zero_add count).symm
      next hne => exact get_cons_of_ne (Ne.symm hne) count []
  | cons p t ih =>
      obtain ⟨k', c⟩ := p
      obtain ⟨hk', ht⟩ := List.pairwise_cons.1 h
      rw [add]
      split
      next hlt =>
        -- All keys are above the new one, so it is not among them.
        split
        next heq =>
          subst heq
          have hnot : key ∉ ((k', c) :: t).map (·.1) := by
            intro hmem
            rcases List.mem_cons.1 hmem with rfl | hmem
            · exact Std.Irrefl.irrefl _ hlt
            · exact Std.Irrefl.irrefl _ (IsTrans.trans _ _ _ hlt (hk' _ hmem))
          rw [get_cons_self, get_eq_zero hnot, zero_add]
        next hne => rw [get_cons_of_ne (Ne.symm hne), add_zero]
      next hge =>
        split
        next hlt =>
          by_cases heq : k = k'
          · subst heq
            have hne : key ≠ k := by
              rintro rfl
              exact hge hlt
            rw [get_cons_self, get_cons_self, if_neg hne, add_zero]
          · rw [get_cons_of_ne heq, get_cons_of_ne heq, ih ht]
        next hle =>
          obtain rfl : key = k' := Std.Trichotomous.trichotomous _ _ hge hle
          split
          next heq =>
            subst heq
            rw [get_cons_self, get_cons_self]
            rfl
          next hne =>
            rw [get_cons_of_ne (Ne.symm hne), get_cons_of_ne (Ne.symm hne), add_zero]

/-- The count of a key grows by what is added for this key. -/
theorem get_addAll {t : Tally κ} (h : (t.map (·.1)).Pairwise (· < ·))
    (counts : List (κ × SeverityCount)) (key : κ) :
    (t.addAll counts).get key =
      t.get key + ((counts.filter (·.1 = key)).map (·.2)).sum := by
  induction counts generalizing t with
  | nil => exact (add_zero _).symm
  | cons p counts ih =>
      show (addAll (add p.1 p.2 t) counts).get key = _
      rw [ih (ordered_add p.1 p.2 h), get_add h, add_assoc]
      split
      next heq => rw [List.filter_cons_of_pos (by simpa using heq), List.map_cons, List.sum_cons]
      next hne => rw [List.filter_cons_of_neg (by simpa using hne), zero_add]

omit [DecidableLT κ] in
/-- A proper tally has a key with a count exactly if this is the count of the key and not zero. -/
theorem IsProper.mem_iff {t : Tally κ} (h : IsProper t) {key : κ} {c : SeverityCount} :
    (key, c) ∈ t ↔ t.get key = c ∧ c ≠ 0 := by
  induction t with
  | nil =>
      refine iff_of_false List.not_mem_nil ?_
      rintro ⟨rfl, hc⟩
      exact hc rfl
  | cons p t ih =>
      obtain ⟨k, d⟩ := p
      obtain ⟨hbehind, hordered⟩ := List.pairwise_cons.1 h.ordered
      obtain ⟨hd, hcounted⟩ := List.forall_mem_cons.1 h.counted
      rw [List.mem_cons, Prod.mk.injEq, ih ⟨hordered, hcounted⟩]
      by_cases heq : key = k
      · subst heq
        have hnot : key ∉ t.map (·.1) := fun hmem => Std.Irrefl.irrefl _ (hbehind key hmem)
        rw [get_cons_self, get_eq_zero hnot]
        constructor
        · rintro (⟨-, rfl⟩ | ⟨rfl, hc⟩)
          · exact ⟨rfl, hd⟩
          · exact absurd rfl hc
        · rintro ⟨rfl, -⟩
          exact .inl ⟨rfl, rfl⟩
      · rw [get_cons_of_ne heq]
        simp [heq]

omit [DecidableLT κ] in
/-- Proper tallies are told by their counts. -/
theorem IsProper.ext {t u : Tally κ} (ht : IsProper t) (hu : IsProper u)
    (h : ∀ key, t.get key = u.get key) : t = u := by
  have hirrefl : @Std.Irrefl (κ × SeverityCount) (·.1 < ·.1) := ⟨fun p => Std.Irrefl.irrefl p.1⟩
  have hantisymm : @Std.Antisymm (κ × SeverityCount) (·.1 < ·.1) :=
    ⟨fun p q hpq hqp => absurd (IsTrans.trans _ _ _ hpq hqp) (Std.Irrefl.irrefl p.1)⟩
  refine (List.pairwise_map.1 ht.ordered).eq_of_mem_iff (List.pairwise_map.1 hu.ordered) ?_
  rintro ⟨key, c⟩
  rw [ht.mem_iff, hu.mem_iff, h]

/-- The order in which counts are added makes no difference. -/
theorem IsProper.addAll_perm {t : Tally κ} (h : IsProper t) {counts counts' : List (κ × SeverityCount)}
    (hcounts : ∀ p ∈ counts, p.2 ≠ 0) (hperm : counts'.Perm counts) :
    t.addAll counts' = t.addAll counts := by
  refine (h.addAll fun p hp => hcounts p (hperm.mem_iff.1 hp)).ext (h.addAll hcounts) fun key => ?_
  rw [get_addAll h.ordered, get_addAll h.ordered, ((hperm.filter _).map _).sum_eq]

end Tally

/-! ## Records -/

namespace LogStats

/-- What findings add to the counts by category.  A rule that is not known adds nothing. -/
def categoryCounts (found : List LoggedFinding) : List (Category × SeverityCount) :=
  found.filterMap fun f =>
    (Category.ofRuleId? f.ruleId).map fun c => (c, SeverityCount.ofSeverity f.severity)

/-- What findings add to the counts by path. -/
def fileCounts (found : List LoggedFinding) : List (String × SeverityCount) :=
  found.map fun f => (f.path, SeverityCount.ofSeverity f.severity)

theorem ne_zero_of_mem_categoryCounts {found : List LoggedFinding} :
    ∀ p ∈ categoryCounts found, p.2 ≠ 0 := by
  intro p hp
  obtain ⟨f, -, hf⟩ := List.mem_filterMap.1 hp
  obtain ⟨c, -, rfl⟩ := Option.map_eq_some_iff.1 hf
  exact SeverityCount.ofSeverity_ne_zero f.severity

theorem ne_zero_of_mem_fileCounts {found : List LoggedFinding} : ∀ p ∈ fileCounts found, p.2 ≠ 0 := by
  intro p hp
  obtain ⟨f, -, rfl⟩ := List.mem_map.1 hp
  exact SeverityCount.ofSeverity_ne_zero f.severity

/-- What findings add for a path are the counts of those with the path. -/
theorem sum_fileCounts (found : List LoggedFinding) (path : String) :
    (((fileCounts found).filter (·.1 = path)).map (·.2)).sum =
      SeverityCount.ofFindings (found.filter (·.path = path)) := by
  rw [fileCounts, List.filter_map, List.map_map, ← SeverityCount.sum_ofSeverity]
  rfl

theorem categoryCounts_append (found found' : List LoggedFinding) :
    categoryCounts (found ++ found') = categoryCounts found ++ categoryCounts found' :=
  List.filterMap_append

theorem fileCounts_append (found found' : List LoggedFinding) :
    fileCounts (found ++ found') = fileCounts found ++ fileCounts found' :=
  List.map_append

/-- Counting a finding is adding to the two tallies. -/
theorem countFinding_eq (s : LogStats) (f : LoggedFinding) :
    s.countFinding f =
      { s with
        byCategory := s.byCategory.addAll (categoryCounts [f])
        byFile := s.byFile.addAll (fileCounts [f]) } := by
  rw [countFinding, categoryCounts, List.filterMap_cons]
  cases Category.ofRuleId? f.ruleId with
  | none => rfl
  | some c => rfl

theorem foldl_countFinding (s : LogStats) (found : List LoggedFinding) :
    found.foldl countFinding s =
      { s with
        byCategory := s.byCategory.addAll (categoryCounts found)
        byFile := s.byFile.addAll (fileCounts found) } := by
  induction found generalizing s with
  | nil => rfl
  | cons f found ih =>
      have hcategories := categoryCounts_append [f] found
      have hfiles := fileCounts_append [f] found
      rw [List.singleton_append] at hcategories hfiles
      rw [List.foldl_cons, ih, countFinding_eq, hcategories, hfiles, Tally.addAll_append,
        Tally.addAll_append]

end LogStats

/-- What the statistics keep of a run: when it was, and its number of findings. -/
def RunRecord.mark (r : RunRecord) : String × Nat :=
  (r.datetime, r.totalDiagnostics)

namespace LogStats

/-- Recording a run adds what it has. -/
theorem record_eq (s : LogStats) (r : RunRecord) :
    s.record r =
      { runs := s.runs + 1
        skippedLines := s.skippedLines
        filesScanned := Word.add s.filesScanned r.filesScanned
        filesFailed := Word.add s.filesFailed r.filesFailed
        byCategory := s.byCategory.addAll (categoryCounts r.diagnostics)
        byFile := s.byFile.addAll (fileCounts r.diagnostics)
        firstRun := s.firstRun <|> some r.mark
        lastRun := some r.mark } := by
  rw [record, foldl_countFinding]
  rfl

/-- Recording runs one after the other adds up what they have. -/
theorem foldl_record (s : LogStats) (rs : List RunRecord) :
    rs.foldl record s =
      { runs := s.runs + rs.length
        skippedLines := s.skippedLines
        filesScanned := (rs.map (·.filesScanned)).foldl Word.add s.filesScanned
        filesFailed := (rs.map (·.filesFailed)).foldl Word.add s.filesFailed
        byCategory := s.byCategory.addAll (categoryCounts (rs.flatMap (·.diagnostics)))
        byFile := s.byFile.addAll (fileCounts (rs.flatMap (·.diagnostics)))
        firstRun := s.firstRun <|> rs.head?.map RunRecord.mark
        lastRun := rs.getLast?.map RunRecord.mark <|> s.lastRun } := by
  induction rs generalizing s with
  | nil =>
      obtain ⟨_, _, _, _, _, _, first, _⟩ := s
      cases first <;> rfl
  | cons r rs ih =>
      rw [List.foldl_cons, ih, record_eq, LogStats.mk.injEq]
      refine ⟨?_, rfl, rfl, rfl, ?_, ?_, ?_, ?_⟩
      · show s.runs + 1 + rs.length = s.runs + (rs.length + 1)
        omega
      · rw [List.flatMap_cons, categoryCounts_append, Tally.addAll_append]
      · rw [List.flatMap_cons, fileCounts_append, Tally.addAll_append]
      · cases s.firstRun <;> rfl
      · rw [List.getLast?_cons]
        cases rs.getLast? <;> rfl

end LogStats

end ChartLint
