import ChartLint.Proofs.LineCode
import Mathlib.Data.List.Basic

/-!
# Lines of the same layout

The layout looks at a script line by line, and at each line only through its shape.  So lines may be
exchanged for others of the same shape, and lines without code for one another: the findings stay the
same (`checkFrom_congr`).

*Line ends.*  A carriage return at the end of a line does not change its shape, and what follows the
last line feed may be empty.  So the layout can be judged on the pieces between the line feeds
(`check_lines`), which are also the lines that are lexed.

*Comments.*  A comment behind whole tokens does not change the layout of a line
(`sameLayout_comment`).
-/

namespace ChartLint

/-! ## Lines and their findings -/

/-- Two lines that have one shape at every depth, or have no code. -/
def SameLayout (line line' : List Char) : Prop :=
  ∀ depth, LineShape.ofLine depth line = LineShape.ofLine depth line' ∨
    ((LineShape.ofLine depth line).isExempt = true ∧ (LineShape.ofLine depth line').isExempt = true)

theorem SameLayout.refl (line : List Char) : SameLayout line line := fun _ => Or.inl rfl

/-- Lists of lines of the same layout.  The second one may go on with lines without code. -/
inductive SameLines : List (List Char) → List (List Char) → Prop
  /-- Only lines without code are left. -/
  | exempt {ls : List (List Char)}
      (h : ∀ l ∈ ls, ∀ depth, (LineShape.ofLine depth l).isExempt = true) : SameLines [] ls
  /-- A line in each list. -/
  | cons {l l' : List Char} {ls ls' : List (List Char)} (h : SameLayout l l')
      (hs : SameLines ls ls') : SameLines (l :: ls) (l' :: ls')

theorem SameLines.refl (ls : List (List Char)) : SameLines ls ls := by
  induction ls with
  | nil => exact .exempt (by simp)
  | cons l ls ih => exact .cons (.refl l) ih

theorem sameLines_replace (before after : List (List Char)) {l l' : List Char}
    (h : SameLayout l l') : SameLines (before ++ l :: after) (before ++ l' :: after) := by
  induction before with
  | nil => exact .cons h (.refl after)
  | cons first before ih => exact .cons (.refl first) ih

namespace Layout

/-- There is nothing to say about lines without code. -/
theorem checkFrom_exempt (s : Settings) {ls : List (List Char)}
    (h : ∀ l ∈ ls, ∀ depth, (LineShape.ofLine depth l).isExempt = true) (depth : Nat)
    (previous : Option Previous) (base number : Nat) :
    checkFrom s depth previous base number ls = [] := by
  induction ls generalizing number with
  | nil => rfl
  | cons l ls ih =>
      obtain ⟨hl, hls⟩ := List.forall_mem_cons.1 h
      rw [checkFrom]
      simp only [hl depth, if_true]
      exact ih hls (number + 1)

/-- Lines of the same layout have the same findings. -/
theorem checkFrom_congr (s : Settings) {ls ls' : List (List Char)} (h : SameLines ls ls')
    (depth : Nat) (previous : Option Previous) (base number : Nat) :
    checkFrom s depth previous base number ls = checkFrom s depth previous base number ls' := by
  induction h generalizing depth previous base number with
  | exempt h => rw [checkFrom_exempt s h, checkFrom]
  | cons h hs ih =>
      rcases h depth with heq | ⟨hl, hl'⟩
      · simp only [checkFrom, heq, ih]
      · simp only [checkFrom, hl, hl', if_true, ih]

end Layout

/-! ## Line ends -/

theorem isBlank_of_isGap {c : Char} (h : Lexer.isGap c = true) : Text.isBlank c = true := by
  rcases Lexer.IsBoundary.elim (Or.inr h) with rfl | rfl | rfl | rfl <;> decide +kernel

theorem trimRight_append_blank {b : Char} (hb : Text.isBlank b = true) (cs : List Char) :
    Text.trimRight (cs ++ [b]) = Text.trimRight cs := by
  simp [Text.trimRight, hb]

/-- A carriage return behind the characters is read over or stands in a comment. -/
theorem readCode_return (quote : Option Char) (depth : Nat) (cs : List Char) :
    ∃ x, (x = [] ∨ x = ['\r']) ∧ readCode quote depth (cs ++ ['\r']) =
      behindCode (readCode quote depth cs).1 (x, (readCode quote depth cs).2) := by
  fun_induction readCode quote depth cs with
  | case1 quote depth =>
      refine ⟨['\r'], Or.inr rfl, ?_⟩
      cases quote with
      | none => rfl
      | some q =>
          rw [List.nil_append, readCode_string (by decide)]
          simp [readCode, behindCode]
  | case2 depth q => exact ⟨['\r'], Or.inr rfl, by simp [readCode_escape, readCode, behindCode]⟩
  | case3 depth q e es code after hread ih =>
      obtain ⟨x, hx, ih⟩ := ih
      rw [hread] at ih
      exact ⟨x, hx, by rw [List.cons_append, List.cons_append, readCode_escape, ih]; rfl⟩
  | case4 depth e es q he code after hread ih =>
      obtain ⟨x, hx, ih⟩ := ih
      rw [hread] at ih
      exact ⟨x, hx, by rw [List.cons_append, readCode_string he, ih]; rfl⟩
  | case5 depth e es h =>
      refine ⟨[], Or.inl rfl, ?_⟩
      rw [List.cons_append, readCode_comment ⟨h.1, by simp [h.2]⟩]
      rfl
  | case6 depth e es h code after hread ih =>
      obtain ⟨x, hx, ih⟩ := ih
      rw [hread] at ih
      have h' : ¬ (e = '/' ∧ (es ++ ['\r']).head? = some '/') := fun h' =>
        h ⟨h'.1, (Lexer.head?_append_slash (Or.inr (by decide)) es []).1 h'.2⟩
      exact ⟨x, hx, by rw [List.cons_append, readCode_code h', ih]; rfl⟩

theorem dropWhile_append_boundary {p : Char → Bool} {d : Char} (hd : p d = false)
    (cs ds : List Char) : (cs ++ d :: ds).dropWhile p = cs.dropWhile p ++ d :: ds := by
  induction cs with
  | nil => simp [hd]
  | cons c cs ih =>
      rw [List.cons_append, List.dropWhile_cons, List.dropWhile_cons]
      split
      · exact ih
      · rfl

/-- A carriage return at the end of a line is not seen. -/
theorem sameLayout_return (line : List Char) : SameLayout line (line ++ ['\r']) := by
  intro depth
  left
  obtain ⟨x, hx, hread⟩ := readCode_return none depth (line.dropWhile isMarginChar)
  rw [LineShape.ofLine, LineShape.ofLine, Lexer.takeWhile_append_boundary (by decide),
    dropWhile_append_boundary (by decide), hread]
  rcases hx with rfl | rfl
  · simp [behindCode]
  · simp [behindCode, trimRight_append_blank (isBlank_of_isGap (c := '\r') rfl)]

/-- A line without the carriage return at its end. -/
def dropReturn (line : List Char) : List Char :=
  if line.getLast? = some '\r' then line.dropLast else line

/-- The lines that the pieces between line feeds are: those in front of a line feed lose a carriage
return at their end, and the last one is left out if it is empty. -/
def linesOfPieces : List (List Char) → List (List Char)
  | [] => []
  | [piece] => if piece = [] then [] else [piece]
  | piece :: next :: rest => dropReturn piece :: linesOfPieces (next :: rest)

theorem dropReturn_cons {c : Char} {cs : List Char} (h : ¬ (c = '\r' ∧ cs = [])) :
    dropReturn (c :: cs) = c :: dropReturn cs := by
  cases cs with
  | nil => simp_all [dropReturn]
  | cons d ds =>
      rw [dropReturn, dropReturn, List.getLast?_cons_cons]
      split <;> rfl

/-- A text starts with a line feed if its first piece is empty and another one follows. -/
theorem head?_eq_newline {cs piece : List Char} {rest : List (List Char)}
    (h : Text.splitAt '\n' cs = piece :: rest) :
    cs.head? = some '\n' ↔ piece = [] ∧ rest ≠ [] := by
  cases cs with
  | nil =>
      obtain ⟨rfl, rfl⟩ : [] = piece ∧ [] = rest := by simpa [Text.splitAt] using h
      simp
  | cons c cs =>
      have hne := Text.splitAt_ne_nil '\n' cs
      rw [Text.splitAt] at h
      split at h
      case isTrue hc =>
        obtain ⟨rfl, rfl⟩ := List.cons.inj h
        simp [hc, hne]
      case isFalse hc =>
        split at h
        · contradiction
        · obtain ⟨rfl, rfl⟩ := List.cons.inj h
          simp [hc]

/-- The lines of a text are read off the pieces between its line feeds. -/
theorem splitLines_eq_linesOfPieces (cs : List Char) :
    Text.splitLines cs = linesOfPieces (Text.splitAt '\n' cs) := by
  induction cs with
  | nil => rfl
  | cons c cs ih =>
      rw [Text.splitLines, Text.splitAt, ih]
      cases hpieces : Text.splitAt '\n' cs with
      | nil => exact absurd hpieces (Text.splitAt_ne_nil '\n' cs)
      | cons piece rest =>
          simp only [head?_eq_newline hpieces]
          by_cases hc : c = '\n'
          · subst hc
            rfl
          · rw [if_neg hc, if_neg hc]
            -- A carriage return is dropped only where another piece follows.
            cases rest with
            | nil =>
                simp only [linesOfPieces]
                by_cases hpiece : piece = []
                · simp [hpiece]
                · simp [hpiece]
            | cons next rest =>
                simp only [linesOfPieces]
                by_cases hreturn : c = '\r' ∧ piece = []
                · simp [hreturn, dropReturn]
                · rw [if_neg (by simpa using hreturn), dropReturn_cons hreturn]

/-- The lines of a text have the layout of the pieces between its line feeds. -/
theorem sameLines_linesOfPieces (pieces : List (List Char)) :
    SameLines (linesOfPieces pieces) pieces := by
  fun_induction linesOfPieces pieces with
  | case1 => exact .exempt (by simp)
  | case2 => exact .exempt (by simp [LineShape.ofLine, LineShape.isExempt, readCode, Text.trimRight])
  | case3 piece h => exact .refl [piece]
  | case4 piece next rest ih =>
      refine .cons ?_ ih
      rw [dropReturn]
      split
      case isTrue h =>
        have := sameLayout_return piece.dropLast
        rwa [List.dropLast_append_getLast? '\r' h] at this
      case isFalse => exact .refl piece

/-- The layout can be judged on the pieces between the line feeds. -/
theorem check_lines (s : Settings) (source : String) :
    Layout.check s (Text.lines source) =
      Layout.checkFrom s 0 none 0 1 (Text.splitAt '\n' source.toList) := by
  have hlines : (Text.lines source).map String.toList = Text.splitLines source.toList := by
    simp [Text.lines, Function.comp_def]
  rw [Layout.check, hlines, splitLines_eq_linesOfPieces,
    Layout.checkFrom_congr s (sameLines_linesOfPieces _)]

/-! ## Comments behind the code -/

theorem isGap_of_isMarginChar {c : Char} (h : isMarginChar c = true) : Lexer.isGap c = true := by
  rw [Lexer.isGap, Bool.or_eq_true]
  exact Or.inl h

theorem content_dropWhile (tab : Nat) (p : Position) (line : List Char) :
    Lexer.content tab p line =
      Lexer.content tab (p.advance tab (line.takeWhile isMarginChar))
        (line.dropWhile isMarginChar) := by
  induction line generalizing p with
  | nil => rfl
  | cons c cs ih =>
      rw [List.takeWhile_cons, List.dropWhile_cons]
      split
      case isTrue hc => rw [Lexer.content_gap tab p (isGap_of_isMarginChar hc), ih]; rfl
      case isFalse => rfl

/-- What is added behind a line that is not all margin stands behind its margin. -/
theorem margin_append {line : List Char} (h : line.dropWhile isMarginChar ≠ []) (ds : List Char) :
    (line ++ ds).takeWhile isMarginChar = line.takeWhile isMarginChar ∧
      (line ++ ds).dropWhile isMarginChar = line.dropWhile isMarginChar ++ ds := by
  induction line with
  | nil => exact absurd rfl h
  | cons c cs ih =>
      rw [List.dropWhile_cons] at h
      split at h
      case isTrue hc => simpa [List.takeWhile_cons, List.dropWhile_cons, hc] using ih h
      case isFalse hc => simp [hc]

/-- A comment behind whole tokens does not change the layout of a line. -/
theorem sameLayout_comment {line : List Char} {tab : Nat} {p : Position}
    (h : ∀ t ∈ Lexer.content tab p line, t.IsWhole) (text : List Char) :
    SameLayout line (line ++ ' ' :: '/' :: '/' :: text) := by
  intro depth
  have hcomment (n : Nat) : readCode none n ('/' :: '/' :: text) = ([], n) :=
    readCode_comment ⟨rfl, rfl⟩ n
  by_cases hmargin : line.dropWhile isMarginChar = []
  · right
    have hall := List.dropWhile_eq_nil_iff.1 hmargin
    have hdrop : (line ++ ' ' :: '/' :: '/' :: text).dropWhile isMarginChar = '/' :: '/' :: text := by
      rw [List.dropWhile_append_of_pos hall]
      rfl
    simp [LineShape.ofLine, LineShape.isExempt, hdrop, hmargin, hcomment, readCode, Text.trimRight]
  · left
    obtain ⟨htake, hdrop⟩ := margin_append hmargin (' ' :: '/' :: '/' :: text)
    rw [content_dropWhile] at h
    have hread := readCode_append (d := ' ') rfl h ('/' :: '/' :: text) depth
    rw [readCode_gap rfl, hcomment] at hread
    rw [LineShape.ofLine, LineShape.ofLine, htake, hdrop, hread]
    simp [behindCode, trimRight_append_blank (isBlank_of_isGap (c := ' ') rfl)]

end ChartLint
