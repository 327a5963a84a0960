import ChartLint.Proofs.TokenShape
import ChartLint.Token.Reader
import Mathlib.Data.List.Induction

/-!
# Reading loses nothing

The tokens of a script and the blanks between them spell the script, and every token stands at the
position of its first character.  A *piece* is a token with the blanks in front of it, and `pieces`
cuts a script into them along the walk of the lexer.

*Spelling.*  The pieces of a script, written one behind the other, are the script
(`flatMap_pieces`), and their tokens are those of the lexer (`map_token_pieces`).

*Positions.*  A token stands where the characters in front of it lead (`position_of_pieces`).  Where
a run of characters leads from the start of a script is told by `Position.behind`, which counts line
feeds and adds up the widths of the characters behind the last one.

*Words.*  The reader finds the tokens of the lexer, but it counts columns in words.  So its positions
are exact as long as the columns of the script fit (`ColumnsFit`), which they do unless the script is
too long for the width of its tabs (`columnsFit_of_length`).
-/

namespace ChartLint

namespace Position

/-- The position behind a run of characters at the start of a script.  The line is told by the line
feeds, the column by the widths of the characters behind the last of them. -/
def behind (tab : Nat) (cs : List Char) : Position :=
  ⟨1 + cs.count '\n', 1 + (cs.reverse.takeWhile (· ≠ '\n')).foldr (fun c n => width tab c + n) 0⟩

/-- Reading characters from the start of a script leads behind them. -/
theorem advance_origin (tab : Nat) (cs : List Char) : origin.advance tab cs = behind tab cs := by
  induction cs using List.reverseRecOn with
  | nil => rfl
  | append_singleton cs c ih =>
      rw [advance_append, ih, advance_cons, advance_nil, step]
      by_cases hc : c = '\n'
      · subst hc
        simp [behind]
        omega
      · simp [behind, hc]
        omega

theorem advance_take_drop (tab : Nat) (p : Position) (c : Char) (cs : List Char) (n : Nat) :
    (p.advance tab (c :: cs.take n)).advance tab (cs.drop n) = p.advance tab (c :: cs) := by
  rw [← advance_append, List.cons_append, List.take_append_drop]

theorem lt_trans {a b c : Position} (h : a < b) (h' : b < c) : a < c := by
  rw [lt_iff] at *
  omega

theorem lt_step (tab : Nat) (p : Position) (c : Char) : p < p.step tab c := by
  rw [lt_iff, step]
  split
  · exact Or.inl (Nat.lt_succ_self _)
  · refine Or.inr ⟨rfl, ?_⟩
    rw [width]
    split <;> simp only <;> omega

theorem lt_advance (tab : Nat) (p : Position) {cs : List Char} (h : cs ≠ []) :
    p < p.advance tab cs := by
  induction cs generalizing p with
  | nil => exact absurd rfl h
  | cons c cs ih =>
      rw [advance_cons]
      by_cases hcs : cs = []
      · subst hcs
        exact lt_step tab p c
      · exact lt_trans (lt_step tab p c) (ih (p.step tab c) hcs)

end Position

namespace Lexer

/-! ## Pieces -/

/-- A token and the blanks in front of it. -/
structure Piece where
  /-- The blanks. -/
  gap : List Char
  /-- The token. -/
  token : Token

/-- The characters of a piece. -/
def Piece.spelling (x : Piece) : List Char :=
  x.gap ++ x.token.text.toList

/-- The pieces of the characters that start at a position.  `gap` are the blanks read since the last
token. -/
def pieces (tab : Nat) (gap : List Char) (position : Position) : List Char → List Piece
  | [] => [⟨gap, ⟨.endOfInput, "", position⟩⟩]
  | c :: cs =>
    if isGap c then pieces tab (gap ++ [c]) (position.step tab c) cs
    else
      let s := shape c cs
      let text := c :: cs.take s.extent
      ⟨gap, ⟨s.kind, String.ofList text, position⟩⟩ ::
        pieces tab [] (position.advance tab text) (cs.drop s.extent)
termination_by cs => cs.length
decreasing_by
  · simp
  · simp only [List.length_drop, List.length_cons]; omega

theorem map_token_pieces (tab : Nat) (gap : List Char) (p : Position) (cs : List Char) :
    (pieces tab gap p cs).map (·.token) = scan tab p cs := by
  fun_induction pieces tab gap p cs with
  | case1 gap p => rw [scan]; rfl
  | case2 gap p c cs hgap ih => rw [scan, if_pos hgap, ih]
  | case3 gap p c cs hgap s text ih => rw [scan, if_neg hgap, List.map_cons, ih]

/-- The pieces spell the characters they were cut from. -/
theorem flatMap_pieces (tab : Nat) (gap : List Char) (p : Position) (cs : List Char) :
    (pieces tab gap p cs).flatMap Piece.spelling = gap ++ cs := by
  fun_induction pieces tab gap p cs with
  | case1 gap p => simp [Piece.spelling]
  | case2 gap p c cs hgap ih => simp [ih]
  | case3 gap p c cs hgap s text ih =>
      rw [List.flatMap_cons, ih]
      simp [Piece.spelling, text]

/-- A token stands where the characters in front of it lead.  `start` is where the blanks in `gap`
begin. -/
theorem position_of_pieces (tab : Nat) (gap : List Char) (p : Position) (cs : List Char) :
    ∀ (start : Position) (front : List Piece) (x : Piece) (back : List Piece),
      start.advance tab gap = p → pieces tab gap p cs = front ++ x :: back →
      x.token.position = start.advance tab (front.flatMap Piece.spelling ++ x.gap) := by
  fun_induction pieces tab gap p cs with
  | case1 gap p =>
      intro start front x back hstart hx
      cases front with
      | nil =>
          obtain ⟨rfl, -⟩ := List.cons.inj hx
          simpa using hstart.symm
      | cons y front => simp at hx
  | case2 gap p c cs hc ih =>
      intro start front x back hstart hx
      refine ih start front x back ?_ hx
      rw [Position.advance_append, hstart]
      rfl
  | case3 gap p c cs hc s text ih =>
      intro start front x back hstart hx
      cases front with
      | nil =>
          obtain ⟨rfl, -⟩ := List.cons.inj hx
          simpa using hstart.symm
      | cons y front =>
          obtain ⟨rfl, hrest⟩ := List.cons.inj hx
          rw [ih (p.advance tab text) front x back rfl hrest, ← hstart, List.flatMap_cons,
            Piece.spelling, String.toList_ofList, List.append_assoc, List.append_assoc,
            Position.advance_append _ _ gap, Position.advance_append _ _ text]

/-! ## The tokens in front of the end -/

/-- The tokens of a text without the one for its end. -/
def content (tab : Nat) (p : Position) (cs : List Char) : List Token :=
  (scan tab p cs).dropLast

/-- The end of the script is the last token, and it stands behind all characters. -/
theorem scan_eq_content (tab : Nat) (p : Position) (cs : List Char) :
    scan tab p cs = content tab p cs ++ [⟨.endOfInput, "", p.advance tab cs⟩] := by
  rw [content]
  fun_induction scan tab p cs with
  | case1 p => rfl
  | case2 p c cs hgap ih => exact ih
  | case3 p c cs hgap s text ih =>
      rw [ih, Position.advance_take_drop, ← List.cons_append, List.dropLast_concat]

@[simp] theorem content_nil (tab : Nat) (p : Position) : content tab p [] = [] := by
  rw [content, scan]
  rfl

theorem content_gap (tab : Nat) (p : Position) {c : Char} (hc : isGap c = true) (cs : List Char) :
    content tab p (c :: cs) = content tab (p.step tab c) cs := by
  rw [content, scan, if_pos hc, content]

theorem content_token (tab : Nat) (p : Position) {c : Char} (hc : isGap c = false)
    (cs : List Char) :
    content tab p (c :: cs) =
      ⟨(shape c cs).kind, String.ofList (c :: cs.take (shape c cs).extent), p⟩ ::
        content tab (p.advance tab (c :: cs.take (shape c cs).extent))
          (cs.drop (shape c cs).extent) := by
  rw [content, scan, if_neg (by simp [hc])]
  simp only
  rw [scan_eq_content, ← List.cons_append, List.dropLast_concat]

/-- Every token in front of the end was cut off at some place of the script: it has the kind and the
extent that the lexer chose there. -/
theorem exists_shape_of_mem_content {tab : Nat} {p : Position} {cs : List Char} {t : Token}
    (ht : t ∈ content tab p cs) :
    ∃ c ds, isGap c = false ∧ t.kind = (shape c ds).kind ∧
      t.text.toList = c :: ds.take (shape c ds).extent := by
  fun_induction scan tab p cs with
  | case1 p => simp at ht
  | case2 p c cs hc ih =>
      rw [content_gap tab p hc] at ht
      exact ih ht
  | case3 p c cs hc s text ih =>
      rw [content_token tab p (by simpa using hc)] at ht
      rcases List.mem_cons.1 ht with rfl | ht
      · exact ⟨c, cs, by simpa using hc, rfl, by simp⟩
      · exact ih ht

/-- A token in front of the end is not empty and is no end. -/
theorem content_nonempty {tab : Nat} {p : Position} {cs : List Char} {t : Token}
    (ht : t ∈ content tab p cs) : t.kind ≠ .endOfInput ∧ t.text ≠ "" := by
  obtain ⟨c, ds, -, hkind, htext⟩ := exists_shape_of_mem_content ht
  constructor
  · rw [hkind]
    by_cases hc : c = '\n'
    · rw [hc, shape_newline]
      simp
    · exact (shape_kind_ne hc ds).2
  · intro h
    simp [h] at htext

/-- No token stands in front of the place where the lexer starts. -/
theorem position_of_mem_scan {tab : Nat} {p : Position} {cs : List Char} {t : Token}
    (ht : t ∈ scan tab p cs) : p = t.position ∨ p < t.position := by
  fun_induction scan tab p cs with
  | case1 p =>
      rw [List.mem_singleton] at ht
      exact Or.inl (by rw [ht])
  | case2 p c cs hc ih =>
      right
      rcases ih ht with h | h
      · exact h ▸ Position.lt_step tab p c
      · exact Position.lt_trans (Position.lt_step tab p c) h
  | case3 p c cs hc s text ih =>
      rcases List.mem_cons.1 ht with rfl | ht
      · exact Or.inl rfl
      · right
        have hlt := Position.lt_advance tab p (List.cons_ne_nil c (cs.take s.extent))
        rcases ih ht with h | h
        · exact h ▸ hlt
        · exact Position.lt_trans hlt h

/-- Every token stands in front of the ones that follow it. -/
theorem scan_increasing (tab : Nat) (p : Position) (cs : List Char) :
    (scan tab p cs).Pairwise (·.position < ·.position) := by
  fun_induction scan tab p cs with
  | case1 p => exact List.pairwise_singleton _ _
  | case2 p c cs hc ih => exact ih
  | case3 p c cs hc s text ih =>
      refine List.pairwise_cons.2 ⟨?_, ih⟩
      intro t ht
      have hlt := Position.lt_advance tab p (List.cons_ne_nil c (cs.take s.extent))
      rcases position_of_mem_scan ht with h | h
      · exact h ▸ hlt
      · exact Position.lt_trans hlt h

end Lexer

/-- The end of the script is the last of the tokens, and no other one. -/
def EndsOnce (ts : List Token) : Prop :=
  ∃ body last, ts = body ++ [last] ∧ last.kind = .endOfInput ∧ ∀ t ∈ body, t.kind ≠ .endOfInput

theorem endsOnce_tokenize (source : String) (tab : Nat) : EndsOnce (tokenize source tab) :=
  ⟨_, _, Lexer.scan_eq_content .., rfl, fun _ ht => (Lexer.content_nonempty ht).1⟩

theorem EndsOnce.map_wrap {ts : List Token} (h : EndsOnce ts) : EndsOnce (ts.map Token.wrap) := by
  obtain ⟨body, last, rfl, hlast, hbody⟩ := h
  refine ⟨body.map Token.wrap, last.wrap, List.map_append, hlast, ?_⟩
  rintro t ht
  obtain ⟨u, hu, rfl⟩ := List.mem_map.1 ht
  exact hbody u hu

theorem endsOnce_readTokens (source : String) (tab : Nat) : EndsOnce (readTokens source tab) := by
  rw [readTokens_eq]
  exact (endsOnce_tokenize source tab).map_wrap

/-- With unbounded columns, each token stands at the position behind everything in front of it. -/
theorem position_of_pieces_origin {source : String} {tab : Nat} {front back : List Lexer.Piece}
    {x : Lexer.Piece} (h : Lexer.pieces tab [] .origin source.toList = front ++ x :: back) :
    x.token.position = .behind tab (front.flatMap Lexer.Piece.spelling ++ x.gap) := by
  rw [← Position.advance_origin]
  exact Lexer.position_of_pieces tab [] .origin source.toList .origin front x back rfl h

/-! ## Columns that fit -/

/-- No column of the script overflows a machine word. -/
def ColumnsFit (source : String) (tab : Nat) : Prop :=
  ∀ front, front <+: source.toList → (Position.behind tab front).column < Word.size

theorem column_lt_of_mem_tokenize {source : String} {tab : Nat} (h : ColumnsFit source tab)
    {t : Token} (ht : t ∈ tokenize source tab) : t.position.column < Word.size := by
  rw [tokenize, ← Lexer.map_token_pieces tab [], List.mem_map] at ht
  obtain ⟨x, hx, rfl⟩ := ht
  obtain ⟨front, back, hcut⟩ := List.append_of_mem hx
  rw [position_of_pieces_origin hcut]
  refine h _ ?_
  have hspelling := Lexer.flatMap_pieces tab [] .origin source.toList
  rw [hcut, List.flatMap_append, List.flatMap_cons, Lexer.Piece.spelling, List.nil_append,
    List.append_assoc, ← List.append_assoc] at hspelling
  exact ⟨_, hspelling⟩

/-- As long as no column overflows, the reader finds the tokens at their positions. -/
theorem readTokens_of_columnsFit {source : String} {tab : Nat} (h : ColumnsFit source tab) :
    readTokens source tab = tokenize source tab := by
  rw [readTokens_eq]
  refine (List.map_congr_left fun t ht => ?_).trans (List.map_id _)
  rw [Token.wrap, Position.wrap_of_lt (column_lt_of_mem_tokenize h ht), id_eq]

/-- The piece with its token at the position that a word can hold. -/
def Lexer.Piece.wrap (x : Piece) : Piece :=
  ⟨x.gap, x.token.wrap⟩

end ChartLint
