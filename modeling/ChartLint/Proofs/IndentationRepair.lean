import ChartLint.Proofs.BracketDepth
import ChartLint.Proofs.OperatorPlacement
import Mathlib.Data.List.Forall2

/-!
# Indentation is repaired in one pass

Give each line whose indentation is reported the spaces that the report asks for, all at once.  Then
no indentation is reported any more, and the findings about operators are those of before.

*Margins.*  A new margin leaves the code and the depth of a line as they are (`ofLine_remargin`), and
the walk looks at nothing else to tell which lines continue a statement (`Reading.Agrees`).

*Statements.*  A line that is reported continues a statement, so no statement starts with it, and the
indentation that the other lines are measured by stays.

*One walk.*  The lines may be repaired along the walk, each with what is held in front of it
(`map_repairedLine`).  Then each continuation line has its margin (`category_ne_of_mem_repairFrom`).
-/

namespace ChartLint

namespace Layout

/-! ## Repaired lines -/

/-- A line with a margin of that many spaces. -/
def remargin (width : Nat) (line : List Char) : List Char :=
  List.replicate width ' ' ++ line.dropWhile isMarginChar

/-- Is the indentation of line `n` reported?  Lines are counted from one. -/
def isMisindented (s : Settings) (lines : List String) (n : Nat) : Bool :=
  (check s lines).any fun d => d.category == .badIndentation && d.position.line == n

/-- The indentation that line `n` is expected to have if it continues a statement: that of the first
line of the statement, and the width of the settings. -/
def expectedIndent (s : Settings) (lines : List String) (n : Nat) : Nat :=
  requiredIndent s
    (Reading.statementIndent ⟨0, none⟩ s.tabWidth 0 1 ((lines.take (n - 1)).map String.toList))

/-- Line `n`, with the margin it is expected to have if its indentation is reported. -/
def repairedLine (s : Settings) (lines : List String) (n : Nat) (line : List Char) : List Char :=
  if isMisindented s lines n then remargin (expectedIndent s lines n) line else line

/-- The lines, with the margins they are expected to have where their indentation is reported. -/
def repaired (s : Settings) (lines : List String) : List String :=
  (lines.zipIdx 1).map fun (line, n) => String.ofList (repairedLine s lines n line.toList)

/-! ## Margins -/

theorem takeWhile_remargin (width : Nat) (line : List Char) :
    (remargin width line).takeWhile isMarginChar = List.replicate width ' ' ∧
      (remargin width line).dropWhile isMarginChar = line.dropWhile isMarginChar := by
  have hall : ∀ c ∈ List.replicate width ' ', isMarginChar c = true := by
    intro c hc
    rw [List.eq_of_mem_replicate hc]
    rfl
  have hrest : (line.dropWhile isMarginChar).takeWhile isMarginChar = [] := by
    cases hdrop : line.dropWhile isMarginChar with
    | nil => rfl
    | cons c cs =>
        have hc := List.head_dropWhile_not isMarginChar (l := line) (by simp [hdrop])
        simp only [hdrop, List.head_cons] at hc
        rw [List.takeWhile_cons_of_neg (by simp [hc])]
  rw [remargin, List.takeWhile_append_of_pos hall, List.dropWhile_append_of_pos hall, hrest,
    List.append_nil, List.dropWhile_idempotent]
  exact ⟨rfl, rfl⟩

/-- A new margin leaves everything else of a line as it is. -/
theorem ofLine_remargin (depth width : Nat) (line : List Char) :
    LineShape.ofLine depth (remargin width line) =
      { LineShape.ofLine depth line with margin := List.replicate width ' ' } := by
  obtain ⟨htake, hdrop⟩ := takeWhile_remargin width line
  rw [LineShape.ofLine, htake, hdrop]
  rfl

/-- A margin of that many spaces is a margin as it should be. -/
theorem indentationFinding_remargin (s : Settings) (number depth base : Nat) (line : List Char) :
    indentationFinding s number
      (.ofLine depth (remargin (requiredIndent s base) line)) base = [] := by
  have htab : (List.replicate (requiredIndent s base) ' ').contains '\t' = false := by
    simp [List.mem_replicate]
  have hcolumns : LineShape.columns s.tabWidth (List.replicate (requiredIndent s base) ' ') =
      requiredIndent s base := by
    have hlt : requiredIndent s base < Word.size := Word.add_lt base s.continuationIndent
    rw [columns_eq_sum]
    simpa using Nat.mod_eq_of_lt hlt
  rw [ofLine_remargin, indentationFinding]
  simp [LineShape.hasTab, LineShape.indent, hcolumns]

/-- Two lines with the same code and the same depth behind it, whatever their margins are. -/
def SameBehindMargin (line line' : List Char) : Prop :=
  ∀ depth, (LineShape.ofLine depth line).code = (LineShape.ofLine depth line').code ∧
    (LineShape.ofLine depth line).depthAfter = (LineShape.ofLine depth line').depthAfter

theorem SameBehindMargin.refl (line : List Char) : SameBehindMargin line line := fun _ => ⟨rfl, rfl⟩

theorem sameBehindMargin_remargin (width : Nat) (line : List Char) :
    SameBehindMargin line (remargin width line) := by
  intro depth
  rw [ofLine_remargin]
  exact ⟨rfl, rfl⟩

theorem isExempt_congr {l l' : LineShape} (h : l.code = l'.code) : l.isExempt = l'.isExempt := by
  rw [LineShape.isExempt, LineShape.isExempt, h]

namespace Reading

/-- Two readings of lines with other margins: they know the same depth, and the same code of the line
they hold. -/
structure Agrees (r r' : Reading) : Prop where
  /-- The depth is the same. -/
  depth : r.depth = r'.depth
  /-- The line held has the same code. -/
  code : r.previous.map (·.shape.code) = r'.previous.map (·.shape.code)

/-- Which lines continue a statement does not depend on margins. -/
theorem Agrees.continuesAt {r r' : Reading} (h : r.Agrees r') {line line' : List Char}
    (hline : SameBehindMargin line line') : r.continuesAt line = r'.continuesAt line' := by
  have hcode : (r.shape line).code = (r'.shape line').code := by
    rw [shape, shape, ← h.depth]
    exact (hline r.depth).1
  have hleads : (r.shape line).leadsContinuation = (r'.shape line').leadsContinuation := by
    rw [LineShape.leadsContinuation, LineShape.leadsContinuation, hcode]
  rw [Reading.continuesAt, Reading.continuesAt, isExempt_congr hcode, ← h.depth]
  have hheld := h.code
  cases hr : r.previous with
  | none =>
      rw [hr, Option.map_none, eq_comm, Option.map_eq_none_iff] at hheld
      rw [hheld]
      rfl
  | some p =>
      rw [hr, Option.map_some, eq_comm, Option.map_eq_some_iff] at hheld
      obtain ⟨p', hp', hshape⟩ := hheld
      simp only [hp', continues, Option.any_some, LineShape.asksForMore, LineShape.opensBlock,
        LineShape.trailing?, hshape, hleads]

/-- Reading lines with the same code, the readings agree further. -/
theorem Agrees.read {r r' : Reading} (h : r.Agrees r') {line line' : List Char}
    (hline : SameBehindMargin line line') (number : Nat) :
    (r.read number line).Agrees (r'.read number line') := by
  obtain ⟨hcode, hdepth⟩ := hline r.depth
  have hexempt : (r.shape line).isExempt = (r'.shape line').isExempt := by
    rw [shape, shape, ← h.depth]
    exact isExempt_congr hcode
  rw [Reading.read, Reading.read, ← hexempt]
  split
  · exact h
  · rw [shape, shape, ← h.depth]
    exact ⟨hdepth, congrArg some hcode⟩

/-! ## Repair along the walk -/

/-- The next line, with a new margin if it continues a statement and has another one. -/
def repairNext (s : Settings) (r : Reading) (base number : Nat) (line : List Char) : List Char :=
  if r.continuesAt line && indentationFinding s number (r.shape line) base != []
  then remargin (requiredIndent s base) line else line

/-- The lines with new margins, each judged with what is known in front of it. -/
def repairFrom (s : Settings) (r : Reading) (base number : Nat) : List (List Char) → List (List Char)
  | [] => []
  | line :: rest =>
    r.repairNext s base number line ::
      repairFrom s (r.read number line) (r.baseBehind s.tabWidth base line) (number + 1) rest

theorem sameBehindMargin_repairNext (s : Settings) (r : Reading) (base number : Nat)
    (line : List Char) : SameBehindMargin line (r.repairNext s base number line) := by
  rw [repairNext]
  split
  · exact sameBehindMargin_remargin _ line
  · exact .refl line

theorem forall₂_repairFrom (s : Settings) (r : Reading) (base number : Nat) (ls : List (List Char)) :
    List.Forall₂ SameBehindMargin ls (r.repairFrom s base number ls) := by
  induction ls generalizing r base number with
  | nil => exact .nil
  | cons line rest ih => exact .cons (sameBehindMargin_repairNext s r base number line) (ih _ _ _)

/-- A line that continues a statement has its margin when it is repaired. -/
theorem indentationFinding_repairNext {s : Settings} {r : Reading} {base number : Nat}
    {line : List Char} (h : r.continuesAt line = true) :
    indentationFinding s number (r.shape (r.repairNext s base number line)) base = [] := by
  rw [repairNext, h, Bool.true_and]
  split
  case isTrue => exact indentationFinding_remargin s number r.depth base line
  case isFalse hfits => simpa using hfits

/-- A line that starts a statement keeps its margin, so the statement keeps its indentation. -/
theorem Agrees.baseBehind_repairNext {r r' : Reading} (h : r.Agrees r') (s : Settings)
    (base number : Nat) (line : List Char) :
    r'.baseBehind s.tabWidth base (r.repairNext s base number line) =
      r.baseBehind s.tabWidth base line := by
  have hsame := sameBehindMargin_repairNext s r base number line
  have hexempt : (r'.shape (r.repairNext s base number line)).isExempt = (r.shape line).isExempt := by
    rw [shape, shape, ← h.depth, isExempt_congr (hsame r.depth).1]
  rw [baseBehind, baseBehind, ← h.continuesAt hsame, hexempt]
  split
  case isTrue => rfl
  case isFalse hstarts =>
    rw [Bool.or_eq_true, not_or] at hstarts
    rw [repairNext, if_neg (by simp [hstarts.2]), shape, shape, h.depth]

/-- The walk over the repaired lines finds every margin as it should be. -/
theorem category_ne_of_mem_repairFrom {s : Settings} {r r' : Reading} (h : r.Agrees r')
    {base number : Nat} {ls : List (List Char)} {d : Diagnostic}
    (hd : d ∈ checkFrom s r'.depth r'.previous base number (r.repairFrom s base number ls)) :
    d.category ≠ .badIndentation := by
  induction ls generalizing r r' base number with
  | nil => cases hd
  | cons line rest ih =>
      have hsame := sameBehindMargin_repairNext s r base number line
      rw [repairFrom, checkFrom_cons, ← h.continuesAt hsame, h.baseBehind_repairNext,
        List.mem_append] at hd
      rcases hd with hd | hd
      · -- What is said when the line is read is about an operator.
        split at hd
        case isTrue hcontinues =>
          have hshape : r'.shape (r.repairNext s base number line) =
              r.shape (r.repairNext s base number line) := by
            rw [shape, shape, h.depth]
          rw [hshape, indentationFinding_repairNext hcontinues, List.nil_append] at hd
          obtain ⟨p, -, hp⟩ := List.mem_flatMap.1 hd
          rw [category_of_mem_placementFinding hp]
          decide
        case isFalse => cases hd
      · exact ih (h.read hsame number) hd

/-- A finding about the indentation of a line among others is made when the line is read. -/
theorem exists_badIndentation_iff (s : Settings) (r : Reading) (base number : Nat)
    (before : List (List Char)) (line : List Char) (after : List (List Char)) :
    (∃ d ∈ checkFrom s r.depth r.previous base number (before ++ line :: after),
        d.category = .badIndentation ∧ d.position.line = number + before.length) ↔
      (r.run number before).continuesAt line = true ∧
        indentationFinding s (number + before.length) ((r.run number before).shape line)
          (r.statementIndent s.tabWidth base number before) ≠ [] := by
  have hlines {r : Reading} {base number : Nat} {ls : List (List Char)} {d : Diagnostic}
      (hd : d ∈ checkFrom s r.depth r.previous base number ls)
      (hcategory : d.category = .badIndentation) :
      number ≤ d.position.line ∧ d.position.line < number + ls.length :=
    le_of_mem_continued ((exists_finding_iff s r base number d.position.line ls).1
      ⟨s.continuationIndent, d, hd, hcategory, rfl⟩)
  rw [checkFrom_append, checkFrom_cons]
  constructor
  · rintro ⟨d, hd, hcategory, hline⟩
    rcases List.mem_append.1 hd with hd | hd
    · have := hlines hd hcategory
      omega
    rcases List.mem_append.1 hd with hd | hd
    · split at hd
      case isTrue hcontinues =>
        refine ⟨hcontinues, ?_⟩
        rcases List.mem_append.1 hd with hd | hd
        · exact List.ne_nil_of_mem hd
        · obtain ⟨p, -, hp⟩ := List.mem_flatMap.1 hd
          rw [category_of_mem_placementFinding hp] at hcategory
          cases hcategory
      case isFalse => cases hd
    · have := hlines hd hcategory
      omega
  · rintro ⟨hcontinues, hfinding⟩
    obtain ⟨d, hd⟩ := List.exists_mem_of_ne_nil _ hfinding
    obtain ⟨message, rfl⟩ := eq_error_of_mem_indentationFinding hd
    rw [if_pos hcontinues]
    exact ⟨_, List.mem_append_right _ (List.mem_append_left _ (List.mem_append_left _ hd)), rfl, rfl⟩

end Reading

/-- The lines can be repaired along the walk. -/
theorem map_repairedLine (s : Settings) {lines : List String} {before ls : List (List Char)}
    (h : lines.map String.toList = before ++ ls) :
    (ls.zipIdx (1 + before.length)).map (fun p => repairedLine s lines p.2 p.1) =
      Reading.repairFrom s (Reading.run ⟨0, none⟩ 1 before)
        (Reading.statementIndent ⟨0, none⟩ s.tabWidth 0 1 before) (1 + before.length) ls := by
  induction ls generalizing before with
  | nil => rfl
  | cons line rest ih =>
      have hnext : lines.map String.toList = (before ++ [line]) ++ rest := by
        rw [h, List.append_assoc]
        rfl
      have hlength : 1 + before.length + 1 = 1 + (before ++ [line]).length := by
        rw [List.length_append]
        rfl
      have hbefore : (lines.take (1 + before.length - 1)).map String.toList = before := by
        rw [List.map_take, h, Nat.add_sub_cancel_left, List.take_left]
      have hreported : isMisindented s lines (1 + before.length) =
          ((Reading.run ⟨0, none⟩ 1 before).continuesAt line &&
            indentationFinding s (1 + before.length)
              ((Reading.run ⟨0, none⟩ 1 before).shape line)
              (Reading.statementIndent ⟨0, none⟩ s.tabWidth 0 1 before) != []) := by
        have hiff := Reading.exists_badIndentation_iff s ⟨0, none⟩ 0 1 before line rest
        rw [Bool.eq_iff_iff, isMisindented, check, h]
        simpa using hiff
      have hline : repairedLine s lines (1 + before.length) line =
          (Reading.run ⟨0, none⟩ 1 before).repairNext s
            (Reading.statementIndent ⟨0, none⟩ s.tabWidth 0 1 before) (1 + before.length) line := by
        rw [repairedLine, hreported, expectedIndent, hbefore, Reading.repairNext]
      rw [List.zipIdx_cons, List.map_cons, Reading.repairFrom, hline, hlength, ih hnext,
        Reading.run_append, Reading.statementIndent_append, Reading.statementIndent_cons]
      rfl

theorem toList_repaired (s : Settings) (lines : List String) :
    (repaired s lines).map String.toList =
      Reading.repairFrom s ⟨0, none⟩ 0 1 (lines.map String.toList) := by
  have hwalk := map_repairedLine s (List.nil_append (lines.map String.toList)).symm
  rw [List.zipIdx_map, List.map_map] at hwalk
  rw [repaired, List.map_map]
  simpa [Function.comp_def, Reading.run, Reading.statementIndent, Reading.starts] using hwalk

/-! ## Operators -/

/-- Two findings about operators on one line that name the same operator. -/
structure SameOperator (d d' : Diagnostic) : Prop where
  /-- They are on the same line. -/
  line : d.position.line = d'.position.line
  /-- They name the same operator. -/
  operator : ∃ op ∈ placementOperators, d.message = placementMessage op d.position.line ∧
    d'.message = placementMessage op d'.position.line

theorem hasCode_congr {line line' : List Char} (h : SameBehindMargin line line') :
    hasCode line = hasCode line' := by
  rw [hasCode, hasCode, isExempt_congr (h 0).1]

theorem any_hasCode_congr {ls ls' : List (List Char)} (h : List.Forall₂ SameBehindMargin ls ls') :
    ls.any hasCode = ls'.any hasCode := by
  induction h with
  | nil => rfl
  | cons hline _ ih => rw [List.any_cons, List.any_cons, hasCode_congr hline, ih]

theorem forall₂_placement? (tab number : Nat) {line line' : List Char}
    (h : SameBehindMargin line line') :
    List.Forall₂ SameOperator (placement? tab number line).toList
      (placement? tab number line').toList := by
  have hop : misplaced? line = misplaced? line' := by
    rw [misplaced?, misplaced?, LineShape.trailing?, LineShape.trailing?, (h 0).1]
  rw [placement?, placement?, hop]
  cases hline : misplaced? line' with
  | none => exact .nil
  | some op =>
      have hlisted := (Option.filter_eq_some_iff.1 hline).2
      exact .cons ⟨rfl, op, List.contains_iff_mem.1 hlisted, rfl, rfl⟩ .nil

theorem forall₂_placements (tab number : Nat) {ls ls' : List (List Char)}
    (h : List.Forall₂ SameBehindMargin ls ls') :
    List.Forall₂ SameOperator (placements tab number ls) (placements tab number ls') := by
  induction h generalizing number with
  | nil => exact .nil
  | @cons line line' rest rest' hline hrest ih =>
      rw [placements, placements, any_hasCode_congr hrest]
      refine List.rel_append ?_ (ih (number + 1))
      split
      · exact forall₂_placement? tab number hline
      · exact .nil

/-- Indentation is repaired in one pass.  When the lines whose indentation is reported get the margin
that they are expected to have, no indentation is reported any more, and the findings about operators
are on the same lines and name the same operators. -/
theorem check_repaired (s : Settings) (lines : List String) :
    (check s (repaired s lines)).filter (·.category == .badIndentation) = [] ∧
      List.Forall₂ SameOperator ((check s lines).filter (·.category == .operatorPlacement))
        ((check s (repaired s lines)).filter (·.category == .operatorPlacement)) := by
  constructor
  · rw [List.filter_eq_nil_iff, check, toList_repaired]
    intro d hd
    have hagrees : Reading.Agrees ⟨0, none⟩ ⟨0, none⟩ := ⟨rfl, rfl⟩
    simpa using Reading.category_ne_of_mem_repairFrom hagrees hd
  · rw [filter_check, filter_check, toList_repaired]
    exact forall₂_placements s.tabWidth 1 (Reading.forall₂_repairFrom s ⟨0, none⟩ 0 1 _)

/-- A statement that is indented itself, with a call over three lines. -/
example : repaired {} ["if a", "    b = f(c,", "d +", "\te)"] =
    ["if a", "    b = f(c,", "      d +", "      e)"] := by
  decide +kernel

end Layout

end ChartLint
