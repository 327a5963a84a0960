import ChartLint.Proofs.LayoutRun
import ChartLint.Proofs.OutlineLines

/-!
# Bracket depth by lines and by tokens

Two readers of a script count its brackets.  The layout reads the characters of one line after the
other, and a carriage return at the end of a line is taken off before.  The lexer reads the whole
script and makes a token of each bracket.  In front of every line both have counted the same.

*Walk.*  What the layout holds when it reaches a line is `Layout.readingAt`.  Judging the lines is
judging those in front of the line and then going on from what is held there (`checkFrom_append`),
so this is the depth that the judgement uses.

*Lines.*  A line with its carriage return has the same brackets as the line without it
(`depthBehind_dropReturn`).  So one step of the walk follows the tokens of one line, and the walk
those of all lines in front (`depth_run_take`).
-/

namespace ChartLint

/-! ## Carriage returns -/

theorem depthBehind_return {line : List Char} (h : '\n' ∉ line) (tab : Nat) (p : Position)
    (depth : Nat) :
    depthBehind (Lexer.content tab p (line ++ ['\r'])) depth =
      depthBehind (Lexer.content tab p line) depth := by
  obtain ⟨x, -, hread⟩ := readCode_return none depth line
  rw [← depth_readCode (by simpa using h), ← depth_readCode h, hread, behindCode_snd]

theorem newline_not_mem_dropReturn {line : List Char} (h : '\n' ∉ line) :
    '\n' ∉ dropReturn line := by
  rw [dropReturn]
  split
  · intro hn
    exact h (List.dropLast_subset line hn)
  · exact h

theorem depthBehind_dropReturn {line : List Char} (h : '\n' ∉ line) (tab : Nat) (p : Position)
    (depth : Nat) :
    depthBehind (Lexer.content tab p (dropReturn line)) depth =
      depthBehind (Lexer.content tab p line) depth := by
  have hnew := newline_not_mem_dropReturn h
  rw [dropReturn] at hnew ⊢
  split at hnew
  case isTrue hlast =>
    have hline := List.dropLast_append_getLast? '\r' hlast
    rw [if_pos hlast, ← depthBehind_return hnew, hline]
  case isFalse hlast => rw [if_neg hlast]

namespace Layout

/-! ## The walk over the lines -/

/-- What the layout holds when it reaches line `n` of some lines.  Lines are counted from one. -/
def readingAt (lines : List String) (n : Nat) : Reading :=
  Reading.run ⟨0, none⟩ 1 ((lines.take (n - 1)).map String.toList)

namespace Reading

/-! ## Depths -/

/-- One line further, the depth is that behind the tokens of the line, carriage return or not. -/
theorem depth_read_dropReturn (r : Reading) (number : Nat) {line : List Char} (hn : '\n' ∉ line)
    (tab : Nat) (p : Position) :
    (r.read number (dropReturn line)).depth = depthBehind (Lexer.content tab p line) r.depth := by
  rw [depth_read r number (newline_not_mem_dropReturn hn) tab p, depthBehind_dropReturn hn]

/-- No token of some lines stands in front of the first of them. -/
theorem filter_line_zero (tab number : Nat) {ls : List (List Char)} (hn : ∀ l ∈ ls, '\n' ∉ l) :
    (Lexer.scanLines tab number ls).filter (·.position.line < number) = [] := by
  rw [List.filter_eq_nil_iff]
  intro t ht
  have := (Lexer.line_of_mem_scanLines hn ht).1
  simpa using this

/-- The tokens in front of a later line are those of the first line and those of the others in front
of that line. -/
theorem depthBehind_filter_succ (tab number k depth : Nat) {line : List Char}
    {rest : List (List Char)} (hn : '\n' ∉ line) :
    depthBehind ((Lexer.scanLines tab number (line :: rest)).filter
        (·.position.line < number + (k + 1))) depth =
      depthBehind ((Lexer.scanLines tab (number + 1) rest).filter
        (·.position.line < number + 1 + k))
        (depthBehind (Lexer.content tab ⟨number, 1⟩ line) depth) := by
  have hline : ∀ t ∈ Lexer.content tab ⟨number, 1⟩ line, t.position.line < number + (k + 1) := by
    intro t ht
    rw [Lexer.line_of_mem_content hn ht]
    exact Nat.lt_add_of_pos_right (Nat.succ_pos k)
  have hend : (Lexer.lineEnd tab number line rest.isEmpty).position.line < number + (k + 1) := by
    rw [Lexer.line_lineEnd tab number hn]
    exact Nat.lt_add_of_pos_right (Nat.succ_pos k)
  rw [Lexer.scanLines, List.filter_append, List.filter_eq_self.2 (by simpa using hline),
    List.filter_cons_of_pos (by simpa using hend), depthBehind_append, depthBehind_cons,
    depthAfter_of_not_isCode (Lexer.isCode_lineEnd tab number line rest.isEmpty),
    Nat.add_right_comm, Nat.add_assoc]

/-- Behind some lines of a text the depth is that behind the tokens on them. -/
theorem depth_run_take (r : Reading) (number k : Nat) {pieces : List (List Char)}
    (hn : ∀ l ∈ pieces, '\n' ∉ l) (tab : Nat) :
    (r.run number ((linesOfPieces pieces).take k)).depth =
      depthBehind ((Lexer.scanLines tab number pieces).filter (·.position.line < number + k))
        r.depth := by
  induction k generalizing r number pieces with
  | zero =>
      rw [List.take_zero, Nat.add_zero, filter_line_zero tab number hn]
      rfl
  | succ k ih =>
      cases pieces with
      | nil => rfl
      | cons piece rest =>
          obtain ⟨hpiece, hrest⟩ := List.forall_mem_cons.1 hn
          rw [depthBehind_filter_succ tab number k r.depth hpiece]
          cases rest with
          | nil =>
              by_cases hempty : piece = []
              · subst hempty
                simp [linesOfPieces, run, Lexer.scanLines]
              · rw [linesOfPieces, if_neg hempty, List.take_succ_cons, List.take_nil, run, run,
                  depth_read r number hpiece tab ⟨number, 1⟩]
                simp [Lexer.scanLines]
          | cons next rest =>
              rw [linesOfPieces, List.take_succ_cons, run, ih _ _ hrest,
                depth_read_dropReturn r number hpiece tab ⟨number, 1⟩]

end Reading

/-- Judging lines is judging the first ones and then going on from what is held at the next line. -/
theorem exists_check_eq_append (s : Settings) (lines : List String) (n : Nat) :
    ∃ base, check s lines = check s (lines.take n) ++
      checkFrom s (readingAt lines (n + 1)).depth (readingAt lines (n + 1)).previous base (n + 1)
        ((lines.drop n).map String.toList) := by
  have hcheck := Reading.checkFrom_append s ⟨0, none⟩ 0 1
    ((lines.take n).map String.toList) ((lines.drop n).map String.toList)
  refine ⟨Reading.statementIndent ⟨0, none⟩ s.tabWidth 0 1 ((lines.take n).map String.toList), ?_⟩
  rw [← List.map_append, List.take_append_drop, List.length_map, List.length_take] at hcheck
  rw [readingAt, Nat.add_sub_cancel, check, hcheck, check]
  congr 1
  rcases Nat.le_total n lines.length with hn | hn
  · rw [Nat.min_eq_left hn, Nat.add_comm 1 n]
  · -- behind the last line there is nothing left to judge
    rw [List.drop_eq_nil_of_le hn, List.map_nil, checkFrom, checkFrom]

end Layout

/-- The layout and the lexer count the same brackets.  When the layout reaches a line, it holds the
depth behind all tokens on the lines in front; and judging the lines is judging those in front and
then going on from there. -/
theorem depth_readingAt_eq (source : String) (tab n : Nat) :
    (Layout.readingAt (Text.lines source) (n + 1)).depth =
        depthBehind ((tokenize source tab).filter (·.position.line < n + 1)) 0 ∧
      ∀ s : Settings, ∃ base,
        Layout.check s (Text.lines source) =
          Layout.check s ((Text.lines source).take n) ++
            Layout.checkFrom s (Layout.readingAt (Text.lines source) (n + 1)).depth
              (Layout.readingAt (Text.lines source) (n + 1)).previous base (n + 1)
              (((Text.lines source).drop n).map String.toList) := by
  have hlines : (Text.lines source).map String.toList =
      linesOfPieces (Text.splitAt '\n' source.toList) := by
    rw [← splitLines_eq_linesOfPieces]
    simp [Text.lines, Function.comp_def]
  constructor
  · rw [Layout.readingAt, Nat.add_sub_cancel, List.map_take, hlines, Nat.add_comm n 1,
      Layout.Reading.depth_run_take ⟨0, none⟩ 1 n (fun l hl => Text.not_mem_of_mem_splitAt hl) tab,
      tokenize_eq_scanLines]
  · intro s
    exact Layout.exists_check_eq_append s (Text.lines source) n

end ChartLint
