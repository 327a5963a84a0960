import ChartLint.Proofs.FindingPlaces

/-!
# Misplaced operators, line by line

An operator at the end of a line is reported when the walk over the lines meets the next line with
code, from what it holds of the line before.  What it reports can be said of each line by itself: of
its code, and of whether there is code on a line behind it (`placements`).

*Code.*  The bracket depth in front of a line has no part in its code (`readCode_fst`), so it has none
in the operator at its end.

*Walk.*  An operator that is reported asks for more, so the next line with code always goes on
(`placementFinding_of_not_continues`).  So the findings of the walk are those of its lines, and that
of the line it holds if there is code ahead (`Reading.filter_checkFrom`).
-/

namespace ChartLint

/-! ## Code -/

/-- The code that is read is the same at every depth. -/
theorem readCode_fst (quote : Option Char) (depth depth' : Nat) (cs : List Char) :
    (readCode quote depth cs).1 = (readCode quote depth' cs).1 := by
  fun_induction readCode quote depth cs generalizing depth' with
  | case1 => rw [readCode.eq_def]
  | case2 depth q => rw [readCode.eq_def]; rfl
  | case3 depth q e es code after hread ih =>
      rw [hread] at ih
      rw [readCode_escape, behindCode_fst, ← ih depth']
      rfl
  | case4 depth e es q he code after hread ih =>
      rw [hread] at ih
      rw [readCode_string he, behindCode_fst, ← ih depth']
      rfl
  | case5 depth e es h => rw [readCode_comment h]
  | case6 depth e es h code after hread ih =>
      rw [hread] at ih
      rw [readCode_code h, behindCode_fst, ← ih (depthAfterChar depth' e)]
      rfl

theorem LineShape.code_ofLine_depth (depth depth' : Nat) (line : List Char) :
    (ofLine depth line).code = (ofLine depth' line).code := by
  rw [code_ofLine, code_ofLine, readCode_fst none depth depth']

theorem LineShape.trailing?_of_isExempt {l : LineShape} (h : l.isExempt = true) :
    l.trailing? = none := by
  rw [LineShape.trailing?, List.isEmpty_iff.1 h]
  decide

namespace Layout

/-! ## One line -/

/-- Is there code on the line? -/
def hasCode (line : List Char) : Bool :=
  !(LineShape.ofLine 0 line).isExempt

/-- The operator at the end of the line that belongs at the start of the next one. -/
def misplaced? (line : List Char) : Option String :=
  (LineShape.ofLine 0 line).trailing?.filter placementOperators.contains

/-- What there is to say of the end of a line that goes on. -/
def placement? (tab number : Nat) (line : List Char) : Option Diagnostic :=
  (misplaced? line).map fun op =>
    .warning .operatorPlacement ⟨number, (LineShape.ofLine 0 line).trailingColumn tab op⟩
      (placementMessage op number)

/-- What there is to say of the ends of some lines, the first of which has the number `number`: of
each line with an operator at its end, unless it is the last one with code. -/
def placements (tab number : Nat) : List (List Char) → List Diagnostic
  | [] => []
  | line :: rest =>
    (if rest.any hasCode then (placement? tab number line).toList else []) ++
      placements tab (number + 1) rest

theorem isExempt_eq_not_hasCode (depth : Nat) (line : List Char) :
    (LineShape.ofLine depth line).isExempt = !hasCode line := by
  rw [hasCode, Bool.not_not, LineShape.isExempt, LineShape.isExempt,
    LineShape.code_ofLine_depth depth 0]

theorem placement?_of_not_hasCode {line : List Char} (h : hasCode line = false) (tab number : Nat) :
    placement? tab number line = none := by
  have hexempt : (LineShape.ofLine 0 line).isExempt = true := by
    rw [isExempt_eq_not_hasCode, h]
    rfl
  rw [placement?, misplaced?, LineShape.trailing?_of_isExempt hexempt]
  rfl

/-- The walk says of the end of a line what there is to say of it. -/
theorem placementFinding_ofLine (s : Settings) (number depth : Nat) (line : List Char) :
    placementFinding s ⟨number, .ofLine depth line⟩ =
      (placement? s.tabWidth number line).toList := by
  have htrailing : (LineShape.ofLine depth line).trailing? = (LineShape.ofLine 0 line).trailing? := by
    rw [LineShape.trailing?, LineShape.trailing?, LineShape.code_ofLine_depth depth 0]
  have hcolumn (op : String) : (LineShape.ofLine depth line).trailingColumn s.tabWidth op =
      (LineShape.ofLine 0 line).trailingColumn s.tabWidth op := by
    rw [LineShape.trailingColumn, LineShape.trailingColumn, LineShape.code_ofLine_depth depth 0]
    rfl
  rw [placementFinding, placement?, misplaced?]
  simp only [htrailing, hcolumn]
  cases (LineShape.ofLine 0 line).trailing? with
  | none => rfl
  | some op =>
      simp only [Option.filter_some]
      split
      · rfl
      · rfl

/-- A line that ends with an operator to be reported is never the last one of its statement. -/
theorem placementFinding_of_not_continues {s : Settings} {p : Previous} {depth : Nat} {l : LineShape}
    (h : continues (some p) depth l = false) : placementFinding s p = [] := by
  rw [List.eq_nil_iff_forall_not_mem]
  intro d hd
  obtain ⟨op, hop, htrailing, -⟩ := eq_warning_of_mem_placementFinding hd
  have hasks : p.shape.asksForMore = true := by
    have harrow : op ≠ "=>" := by
      rintro rfl
      exact absurd hop (by decide)
    simp [LineShape.asksForMore, htrailing, harrow]
  simp [continues, hasks] at h

theorem filter_indentationFinding (s : Settings) (number : Nat) (l : LineShape) (base : Nat) :
    (indentationFinding s number l base).filter (·.category == .operatorPlacement) = [] := by
  rw [List.filter_eq_nil_iff]
  intro d hd
  obtain ⟨message, rfl⟩ := eq_error_of_mem_indentationFinding hd
  exact Bool.false_ne_true

theorem filter_placementFinding (s : Settings) (p : Previous) :
    (placementFinding s p).filter (·.category == .operatorPlacement) = placementFinding s p := by
  rw [List.filter_eq_self]
  intro d hd
  rw [Reading.category_of_mem_placementFinding hd]
  rfl

namespace Reading

theorem isExempt_shape (r : Reading) (line : List Char) : (r.shape line).isExempt = !hasCode line :=
  isExempt_eq_not_hasCode r.depth line

/-- What the walk says of a line about its operators is what there is to say of the line it holds. -/
theorem filter_findings (s : Settings) (r : Reading) (base number : Nat) {line : List Char}
    (h : hasCode line = true) :
    (if r.continuesAt line then indentationFinding s number (r.shape line) base ++
        r.previous.toList.flatMap (placementFinding s) else []).filter
          (·.category == .operatorPlacement) =
      r.previous.toList.flatMap (placementFinding s) := by
  have hexempt : (r.shape line).isExempt = false := by
    rw [isExempt_shape, h]
    rfl
  cases hprevious : r.previous with
  | none =>
      rw [continuesAt, hprevious]
      simp [continues]
  | some p =>
      simp only [Option.toList_some, List.flatMap_singleton]
      split
      case isTrue =>
        rw [List.filter_append, filter_indentationFinding, filter_placementFinding, List.nil_append]
      case isFalse hcontinues =>
        rw [continuesAt, hexempt, hprevious, Bool.not_false, Bool.true_and, Bool.not_eq_true]
          at hcontinues
        rw [placementFinding_of_not_continues hcontinues, List.filter_nil]

/-- The findings of the walk about operators are those of its lines, and that of the line it holds if
there is code ahead. -/
theorem filter_checkFrom (s : Settings) (r : Reading) (base number : Nat) (ls : List (List Char)) :
    (checkFrom s r.depth r.previous base number ls).filter (·.category == .operatorPlacement) =
      (if ls.any hasCode then r.previous.toList.flatMap (placementFinding s) else []) ++
        placements s.tabWidth number ls := by
  induction ls generalizing r base number with
  | nil => rfl
  | cons line rest ih =>
      rw [checkFrom_cons, List.filter_append, ih, placements, List.any_cons]
      cases hcode : hasCode line with
      | false =>
          -- The line is passed over, and there is nothing to say of it.
          have hexempt : (r.shape line).isExempt = true := by
            rw [isExempt_shape, hcode]
            rfl
          have hcontinues : r.continuesAt line = false := by
            rw [continuesAt, hexempt]
            rfl
          rw [hcontinues, read, if_pos hexempt, placement?_of_not_hasCode hcode]
          simp
      | true =>
          have hread : r.read number line =
              ⟨(r.shape line).depthAfter, some ⟨number, r.shape line⟩⟩ := by
            rw [read, isExempt_shape, hcode]
            rfl
          rw [filter_findings s r base number hcode, hread, Bool.true_or, if_pos rfl,
            Option.toList_some, List.flatMap_singleton, shape, placementFinding_ofLine]

end Reading

theorem filter_check (s : Settings) (lines : List String) :
    (check s lines).filter (·.category == .operatorPlacement) =
      placements s.tabWidth 1 (lines.map String.toList) := by
  rw [check]
  have hwalk := Reading.filter_checkFrom s ⟨0, none⟩ 0 1 (lines.map String.toList)
  rw [hwalk]
  simp

end Layout

end ChartLint
