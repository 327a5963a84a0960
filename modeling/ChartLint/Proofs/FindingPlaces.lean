import ChartLint.Proofs.FindingTokens
import ChartLint.Proofs.LayoutRun
import ChartLint.Proofs.OutlineLines
import ChartLint.Report
import ChartLint.RunLog.Record
import Mathlib.Algebra.GroupWithZero.Nat

/-!
# Findings point at code

Every finding is on a line of the script that has something on it, so the reports and the run log
always have a line to show.  Three ways to number lines have to agree for that: the lexer counts line
feeds, the layout counts lines, and a report looks a line up by its number.

*Lines.*  What stands between two line feeds is the line of its number, perhaps with a carriage return
behind it (`exists_line_of_piece`).

*Tokens.*  A word, a string and a color have a character that is no blank, and they stand on the line
of their position.

*Layout.*  A finding about the layout is about a line with code (`Layout.Reading.mem_checkFrom`).  The
operator at the end of the code is followed by blanks and by the comment of the line, if there is one
(`exists_comment`).  Its column is a sum of widths in a word.
-/

namespace ChartLint

/-! ## Lines -/

/-- A piece between line feeds is the line of its number, unless it is empty and the last one. -/
theorem getElem?_linesOfPieces {piece : List Char} (hpiece : piece ≠ [])
    (before after : List (List Char)) :
    ∃ line, (linesOfPieces (before ++ piece :: after))[before.length]? = some line ∧
      (piece = line ∨ piece = line ++ ['\r']) := by
  induction before with
  | nil =>
      cases after with
      | nil =>
          refine ⟨piece, ?_, .inl rfl⟩
          rw [List.nil_append, linesOfPieces, if_neg hpiece]
          rfl
      | cons next rest =>
          refine ⟨dropReturn piece, rfl, ?_⟩
          rw [dropReturn]
          split
          next h => exact .inr (List.dropLast_append_getLast? '\r' h).symm
          next => exact .inl rfl
  | cons first before ih =>
      obtain ⟨line, hline, hreturn⟩ := ih
      refine ⟨line, ?_, hreturn⟩
      obtain ⟨next, rest, hrest⟩ : ∃ next rest, before ++ piece :: after = next :: rest :=
        List.exists_cons_of_ne_nil (by simp)
      rw [hrest] at hline
      rw [List.cons_append, hrest, linesOfPieces, List.length_cons, List.getElem?_cons_succ, hline]

/-- A piece between line feeds that is not all blanks is the line of its number, and there is
something on the line. -/
theorem exists_line_of_piece {source : String} {before after : List (List Char)} {piece : List Char}
    (h : Text.splitAt '\n' source.toList = before ++ piece :: after) {c : Char} (hc : c ∈ piece)
    (hblank : Text.isBlank c = false) :
    ∃ line, (Text.lines source)[before.length]? = some line ∧ Text.trim line ≠ "" ∧
      (piece = line.toList ∨ piece = line.toList ++ ['\r']) := by
  obtain ⟨line, hline, hreturn⟩ := getElem?_linesOfPieces (List.ne_nil_of_mem hc) before after
  refine ⟨String.ofList line, ?_, ?_, by rwa [String.toList_ofList]⟩
  · rw [Text.lines, splitLines_eq_linesOfPieces, h, List.getElem?_map, hline]
    rfl
  · rw [Ne, trim_eq_empty_iff, String.toList_ofList]
    intro hall
    have hmem : c ∈ line := by
      rcases hreturn with rfl | rfl
      · exact hc
      · rcases List.mem_append.1 hc with hc | hc
        · exact hc
        · rw [List.mem_singleton.1 hc, isBlank_of_isGap rfl] at hblank
          cases hblank
    rw [hall c hmem] at hblank
    cases hblank

/-- The line of a position has a character that is no blank. -/
def IsOnCode (source : String) (p : Position) : Prop :=
  ∃ before piece after, Text.splitAt '\n' source.toList = before ++ piece :: after ∧
    p.line = 1 + before.length ∧ ∃ c ∈ piece, Text.isBlank c = false

/-- A position on code is on a line of the script with something on it. -/
theorem IsOnCode.exists_line {source : String} {p : Position} (h : IsOnCode source p) :
    1 ≤ p.line ∧ ∃ line, (Text.lines source)[p.line - 1]? = some line ∧ Text.trim line ≠ "" := by
  obtain ⟨before, piece, after, hpieces, hline, c, hc, hblank⟩ := h
  obtain ⟨line, hlookup, htrim, -⟩ := exists_line_of_piece hpieces hc hblank
  rw [hline]
  exact ⟨Nat.le_add_right 1 _, line, by rwa [Nat.add_sub_cancel_left], htrim⟩

/-! ## Layout -/

namespace Layout

theorem eq_error_of_mem_indentationFinding {s : Settings} {number : Nat} {l : LineShape} {base : Nat}
    {d : Diagnostic} (h : d ∈ indentationFinding s number l base) :
    ∃ message, d = .error .badIndentation ⟨number, 1⟩ message := by
  rw [indentationFinding] at h
  split at h
  · exact ⟨_, List.mem_singleton.1 h⟩
  · cases h

/-- What to say of an operator at the end of a line. -/
def placementMessage (op : String) (number : Nat) : String :=
  s!"operator '{op}' ends line {number}; move it to the start of the continuation line"

theorem eq_warning_of_mem_placementFinding {s : Settings} {p : Previous} {d : Diagnostic}
    (h : d ∈ placementFinding s p) :
    ∃ op ∈ placementOperators, p.shape.trailing? = some op ∧
      d = .warning .operatorPlacement ⟨p.number, p.shape.trailingColumn s.tabWidth op⟩
        (placementMessage op p.number) := by
  rw [placementFinding] at h
  split at h
  next op hop =>
    split at h
    next hplacement =>
      exact ⟨op, List.contains_iff_mem.1 hplacement, hop, List.mem_singleton.1 h⟩
    next => cases h
  next => cases h

end Layout

/-! ## The end of a line -/

/-- The columns of a run of characters are their widths added up, as far as a word can hold them. -/
theorem columns_eq_sum (tab : Nat) (cs : List Char) :
    LineShape.columns tab cs =
      (cs.map fun c => if c = '\t' then max tab 1 else 1).sum % Word.size := by
  have hsum := Word.foldl_add Word.size_pos (cs.map (Position.width tab))
  rw [List.foldl_map, Nat.zero_add] at hsum
  exact hsum

/-- The comment on the line of that number, or nothing if the line has no comment. -/
def IsCommentOn (source : String) (tab number : Nat) (comment : List Char) : Prop :=
  (comment = [] ∧ ∀ t ∈ readTokens source tab, t.position.line = number → t.kind ≠ .comment) ∨
    ∃ t ∈ readTokens source tab, t.position.line = number ∧ t.kind = .comment ∧
      t.text.toList = comment

theorem exists_blanks (cs : List Char) :
    ∃ blanks, cs = Text.trimRight cs ++ blanks ∧ ∀ b ∈ blanks, Text.isBlank b = true := by
  refine ⟨cs.rtakeWhile Text.isBlank, ?_, fun b hb => List.mem_rtakeWhile_imp hb⟩
  rw [trimRight_eq_rdropWhile, List.rdropWhile_append_rtakeWhile]

/-- A line is its margin, its code, blanks, and what is left out behind them. -/
theorem exists_cut {line comment : List Char} {depth : Nat}
    (h : line.dropWhile isMarginChar =
      (readCode none depth (line.dropWhile isMarginChar)).1 ++ comment) :
    ∃ blanks, line = (LineShape.ofLine depth line).margin ++ (LineShape.ofLine depth line).code ++
        blanks ++ comment ∧ ∀ b ∈ blanks, Text.isBlank b = true := by
  obtain ⟨blanks, hblanks, hblank⟩ :=
    exists_blanks (readCode none depth (line.dropWhile isMarginChar)).1
  refine ⟨blanks, ?_, hblank⟩
  calc line
      = line.takeWhile isMarginChar ++ line.dropWhile isMarginChar :=
        List.takeWhile_append_dropWhile.symm
    _ = line.takeWhile isMarginChar ++
          (Text.trimRight (readCode none depth (line.dropWhile isMarginChar)).1 ++ blanks ++
            comment) := by rw [← hblanks, ← h]
    _ = _ := by
        rw [List.append_assoc, ← List.append_assoc, ← List.append_assoc]
        rfl

/-- What stands at the end of the code starts behind the rest of it. -/
theorem LineShape.trailingColumn_of_code_eq {l : LineShape} {inner : List Char} {op : String}
    (h : l.code = inner ++ op.toList) (tab : Nat) :
    l.trailingColumn tab op = Word.add 1 (columns tab (l.margin ++ inner)) := by
  rw [trailingColumn, h, List.length_append, ← String.length_toList, Nat.add_sub_cancel,
    List.take_left]

end ChartLint
