import ChartLint.Proofs.Lossless

/-!
# Tokens written with single spaces

The tokens of a script can be written again with one space between neighbours, and with none around
line ends and at the end of the script.  Lexing what was written gives the same kinds and texts
(`tokenize_spaced`), whatever blanks stood between the tokens before.

*Tokens alone.*  The lexer looks at characters behind a token to decide where the token ends.  It
decides the same when there is nothing behind the token (`shape_take_extent`), and so when a line
feed or a space is there (`shape_again`).

*Open tokens.*  A comment and a string that nothing closes would take the space in.  They end their
line (`endsLine_of_not_isComplete`), so no space is written behind them.
-/

namespace ChartLint

/-- What is written between two tokens. -/
def Token.separator (t u : Token) : String :=
  if t.kind = .newline ∨ u.kind = .newline ∨ u.kind = .endOfInput then "" else " "

/-- Tokens, written one behind the other. -/
def spaced : List Token → String
  | [] => ""
  | [t] => t.text
  | t :: u :: ts => t.text ++ t.separator u ++ spaced (u :: ts)

namespace Lexer

/-! ## Tokens alone -/

/-- A run that is not cut off stays as long as it is. -/
theorem runLength_take {p : Char → Bool} {cs : List Char} {n : Nat} (h : runLength p cs ≤ n) :
    runLength p (cs.take n) = runLength p cs := by
  induction cs generalizing n with
  | nil => rw [List.take_nil]
  | cons c cs ih =>
      rw [runLength, List.takeWhile_cons] at h
      cases hc : p c with
      | false => cases n <;> simp [runLength, hc]
      | true =>
          rw [hc, if_pos rfl, List.length_cons] at h
          obtain ⟨m, rfl⟩ := Nat.exists_eq_add_of_le' (Nat.le_of_add_left_le h)
          have := ih (n := m) (Nat.le_of_add_le_add_right h)
          simpa [runLength, hc] using this

theorem head?_take_of_pos {cs : List Char} {n : Nat} (h : 0 < n) : (cs.take n).head? = cs.head? := by
  rw [List.head?_take, if_neg (Nat.ne_of_gt h)]

/-- A run is not empty if its first character belongs to it. -/
theorem runLength_pos {p : Char → Bool} {cs : List Char} (h : cs.head?.any p = true) :
    0 < runLength p cs := by
  cases cs with
  | nil => cases h
  | cons c cs => simp_all [runLength]

theorem signedExtent_take (cs : List Char) :
    signedExtent (cs.take (signedExtent cs)) = signedExtent cs := by
  fun_cases signedExtent cs with
  | case1 => rfl
  | case2 c cs hc h =>
      rw [List.take_succ_cons, signedExtent, if_pos hc, head?_take_of_pos (runLength_pos h), if_pos h,
        runLength_take (Nat.le_refl _)]
  | case3 => rfl
  | case4 c cs hc =>
      have hrun := runLength_take (Nat.le_refl (runLength Char.isDigit (c :: cs)))
      cases hn : runLength Char.isDigit (c :: cs) with
      | zero => rfl
      | succ n =>
          rw [hn, List.take_succ_cons] at hrun
          rw [List.take_succ_cons, signedExtent, if_neg hc, hrun]

theorem exponentExtent_take (cs : List Char) :
    exponentExtent (cs.take (exponentExtent cs)) = exponentExtent cs := by
  fun_cases exponentExtent cs with
  | case1 => rfl
  | case2 => rfl
  | case3 c cs hc n h =>
      have hsigned := signedExtent_take cs
      rw [h] at hsigned
      simp only [List.take_succ_cons, exponentExtent, if_pos hc, hsigned]
  | case4 => rfl

/-- The fraction of a number is told by the characters up to the end of the exponent. -/
theorem fractionExtent_take (cs : List Char) :
    fractionExtent (cs.take (fractionExtent cs + exponentExtent (cs.drop (fractionExtent cs)))) =
      fractionExtent cs := by
  fun_cases fractionExtent cs with
  | case1 cs h => rfl
  | case2 cs h =>
      -- a letter behind the point would be in front of the cut, since digits and exponent are kept
      rw [Nat.add_right_comm, List.take_succ_cons, fractionExtent, runLength_take (Nat.le_add_right ..),
        if_neg]
      rw [List.head?_take]
      split
      · simp
      · exact h
  | case3 cs h =>
      rw [fractionExtent.eq_2]
      intro ds hds
      obtain ⟨rest, hrest⟩ := List.take_prefix (0 + exponentExtent (cs.drop 0)) cs
      rw [hds] at hrest
      exact h (ds ++ rest) hrest.symm

theorem numberExtent_take (first : Char) (cs : List Char) :
    numberExtent first (cs.take (numberExtent first cs)) = numberExtent first cs := by
  simp only [numberExtent]
  split
  case isTrue =>
    rw [runLength_take (Nat.le_add_right ..), List.drop_take, Nat.add_sub_cancel_left,
      exponentExtent_take]
  case isFalse =>
    generalize hwhole : runLength Char.isDigit cs = whole
    generalize hfraction : fractionExtent (cs.drop whole) = fraction
    generalize hexponent : exponentExtent (cs.drop (whole + fraction)) = exponent
    have hrun : runLength Char.isDigit (cs.take (whole + fraction + exponent)) = whole := by
      rw [runLength_take (by omega), hwhole]
    have hbehind : fractionExtent ((cs.take (whole + fraction + exponent)).drop whole) = fraction := by
      have htake := fractionExtent_take (cs.drop whole)
      rw [hfraction, List.drop_drop, hexponent] at htake
      rwa [List.drop_take, Nat.add_assoc, Nat.add_sub_cancel_left]
    have hlast := exponentExtent_take (cs.drop (whole + fraction))
    rw [hexponent] at hlast
    rw [hrun, hbehind, List.drop_take, Nat.add_sub_cancel_left, hlast]

theorem stringExtent_take (quote : Char) (cs : List Char) :
    stringExtent quote (cs.take (stringExtent quote cs)) = stringExtent quote cs := by
  fun_induction stringExtent quote cs with
  | case1 => rfl
  | case2 => rfl
  | case3 => rfl
  | case4 => rfl
  | case5 e es he hc ih => simp [he, ih]
  | case6 es hn hb => simp [hn, hb]
  | case7 e es hn hb hq ih => simp [hn, hb, hq, ih]

/-- What is seen in front of a cut is there without the cut. -/
theorem head?_of_head?_take {cs : List Char} {n : Nat} {d : Char}
    (h : (cs.take n).head? = some d) : cs.head? = some d := by
  rw [List.head?_take] at h
  split at h
  · cases h
  · exact h

theorem any_head?_of_take {p : Char → Bool} {cs : List Char} {n : Nat}
    (h : (cs.take n).head?.any p = true) : cs.head?.any p = true := by
  obtain ⟨d, hd, hp⟩ := (Option.any_eq_true ..).1 h
  exact (Option.any_eq_true ..).2 ⟨d, head?_of_head?_take hd, hp⟩

theorem colorShape_take (cs : List Char) :
    colorShape (cs.take (runLength isHexDigit cs)) = colorShape cs := by
  rw [colorShape, colorShape, runLength_take (Nat.le_refl _)]

theorem wordShape_take (c : Char) (cs : List Char) :
    wordShape c (cs.take (wordShape c cs).extent) = wordShape c cs := by
  have hrun : (cs.take (cs.takeWhile Text.isWordChar).length).takeWhile Text.isWordChar =
      cs.takeWhile Text.isWordChar := by
    have := take_runLength Text.isWordChar cs
    rw [runLength] at this
    rw [this, List.takeWhile_takeWhile]
    simp
  rw [wordShape, wordShape, hrun]

theorem symbolShape_take (c : Char) (cs : List Char) :
    symbolShape c (cs.take (symbolShape c cs).extent) = symbolShape c cs := by
  rw [symbolShape.eq_def c cs]
  split
  case isTrue h => rw [symbolShape, head?_take_of_pos Nat.one_pos, if_pos h]
  case isFalse h =>
    split
    case isTrue hsingle => rw [symbolShape, List.take_zero, if_neg (by simp), if_pos hsingle]
    case isFalse hsingle => rw [symbolShape, List.take_zero, if_neg (by simp), if_neg hsingle]

/-- A token has the same shape when nothing follows it. -/
theorem shape_take_extent (c : Char) (cs : List Char) :
    shape c (cs.take (shape c cs).extent) = shape c cs := by
  rw [shape.eq_def c cs]
  split
  case isTrue hnewline => rw [hnewline, shape_newline]
  case isFalse hnewline =>
  split
  case isTrue hcomment =>
    have hpos : 0 < runLength (· ≠ '\n') cs := runLength_pos (by simp [hcomment.2])
    rw [shape, if_neg hnewline, head?_take_of_pos hpos, if_pos hcomment,
      runLength_take (Nat.le_refl _)]
  case isFalse hcomment =>
  have hcomment' (n : Nat) : ¬ (c = '/' ∧ (cs.take n).head? = some '/') :=
    fun h => hcomment ⟨h.1, head?_of_head?_take h.2⟩
  split
  case isTrue hquote =>
    rw [shape, if_neg hnewline, if_neg (hcomment' _), if_pos hquote, stringExtent_take]
  case isFalse hquote =>
  split
  case isTrue hcolor =>
    have hpos := runLength_pos hcolor.2
    rw [shape, if_neg hnewline, if_neg (hcomment' _), if_neg hquote, colorShape,
      head?_take_of_pos hpos, if_pos hcolor, colorShape_take, colorShape]
  case isFalse hcolor =>
  have hcolor' (n : Nat) : ¬ (c = '#' ∧ (cs.take n).head?.any isHexDigit = true) :=
    fun h => hcolor ⟨h.1, any_head?_of_take h.2⟩
  split
  case isTrue hnumber =>
    have hnumber' : c.isDigit = true ∨
        (c = '.' ∧ (cs.take (numberExtent c cs)).head?.any Char.isDigit = true) := by
      refine hnumber.imp_right fun h => ⟨h.1, ?_⟩
      rw [head?_take_of_pos, h.2]
      exact Nat.add_pos_left (by rw [if_pos h.1]; exact runLength_pos h.2) _
    rw [shape, if_neg hnewline, if_neg (hcomment' _), if_neg hquote, if_neg (hcolor' _),
      if_pos hnumber', numberExtent_take]
  case isFalse hnumber =>
  have hnumber' (n : Nat) : ¬ (c.isDigit = true ∨
      (c = '.' ∧ (cs.take n).head?.any Char.isDigit = true)) :=
    fun h => hnumber (h.imp_right fun h => ⟨h.1, any_head?_of_take h.2⟩)
  split
  case isTrue hword =>
    rw [shape, if_neg hnewline, if_neg (hcomment' _), if_neg hquote, if_neg (hcolor' _),
      if_neg (hnumber' _), if_pos hword, wordShape_take]
  case isFalse hword =>
    rw [shape, if_neg hnewline, if_neg (hcomment' _), if_neg hquote, if_neg (hcolor' _),
      if_neg (hnumber' _), if_neg hword, symbolShape_take]

/-! ## Tokens with something behind them -/

/-- Nothing or a line feed comes next. -/
def EndsLine (cs : List Char) : Prop :=
  cs = [] ∨ ∃ ds, cs = '\n' :: ds

theorem endsLine_drop_comment (cs : List Char) : EndsLine (cs.drop (runLength (· ≠ '\n') cs)) := by
  induction cs with
  | nil => exact Or.inl rfl
  | cons c cs ih =>
      by_cases hc : c = '\n'
      · exact Or.inr ⟨cs, by simp [runLength, hc]⟩
      · simpa [runLength, hc] using ih

theorem endsLine_drop_string {quote : Char} {cs : List Char} (h : closes quote cs = false) :
    EndsLine (cs.drop (stringExtent quote cs)) := by
  fun_induction stringExtent quote cs with
  | case1 => exact Or.inl rfl
  | case2 es => exact Or.inr ⟨es, rfl⟩
  | case3 => exact Or.inl rfl
  | case4 es => exact Or.inr ⟨es, rfl⟩
  | case5 e es he hc ih => exact ih (by simpa [closes, he] using h)
  | case6 es hn hb => simp [hn, hb] at h
  | case7 e es hn hb hq ih => exact ih (by simpa [hn, hb, hq] using h)

/-- A token that is not complete ends its line. -/
theorem endsLine_of_not_isComplete {c : Char} {cs : List Char} (h : ¬ IsComplete c cs) :
    EndsLine (cs.drop (shape c cs).extent) := by
  rcases not_isComplete_cases h with ⟨hkind, -⟩ | ⟨hkind, -, hopen⟩
  · rw [((extent_of_kind c cs).2 hkind).2]
    exact endsLine_drop_comment cs
  · rw [((extent_of_kind c cs).1 hkind).2]
    exact endsLine_drop_string hopen

/-- A token is recognized again when nothing, a line feed or a blank stands behind it.  Behind a
comment and an open string there must not be a blank. -/
theorem shape_again {c : Char} {cs ds : List Char}
    (h : EndsLine ds ∨ ∃ es, ds = ' ' :: es ∧ IsComplete c cs) :
    shape c (cs.take (shape c cs).extent ++ ds) = shape c cs := by
  rcases h with (rfl | ⟨es, rfl⟩) | ⟨es, rfl, hcomplete⟩
  · rw [List.append_nil, shape_take_extent]
  · rw [shape_append (Or.inl rfl) (Or.inl rfl), shape_take_extent]
  · have hagain : IsComplete c (cs.take (shape c cs).extent) := by
      rw [IsComplete, shape_take_extent]
      refine ⟨hcomplete.1, fun hkind => ?_⟩
      rw [((extent_of_kind c cs).1 hkind).2, closes_take_stringExtent]
      exact hcomplete.2 hkind
    rw [shape_append_gap (by decide) hagain, shape_take_extent]

/-- The lexer reads such a token first. -/
theorem scan_again (tab : Nat) (p : Position) {c : Char} (hc : isGap c = false) {cs ds : List Char}
    (h : shape c (cs.take (shape c cs).extent ++ ds) = shape c cs) :
    scan tab p (c :: cs.take (shape c cs).extent ++ ds) =
      ⟨(shape c cs).kind, String.ofList (c :: cs.take (shape c cs).extent), p⟩ ::
        scan tab (p.advance tab (c :: cs.take (shape c cs).extent)) ds := by
  have hlength : (cs.take (shape c cs).extent).length = (shape c cs).extent :=
    List.length_take_of_le (extent_le c cs)
  rw [List.cons_append, scan, if_neg (by simp [hc])]
  simp only [h]
  rw [List.take_left' hlength, List.drop_left' hlength]

/-! ## All tokens -/

theorem eq_newline_of_kind {c : Char} {cs : List Char} (h : (shape c cs).kind = .newline) :
    c = '\n' := by
  by_cases hc : c = '\n'
  · exact hc
  · exact absurd h (shape_kind_ne hc cs).1

theorem endsLine_spaced {t : Token} {cs : List Char} (h : t.text.toList = '\n' :: cs)
    (ts : List Token) : EndsLine (spaced (t :: ts)).toList := by
  right
  cases ts with
  | nil => exact ⟨cs, h⟩
  | cons u us =>
      rw [spaced, String.toList_append, String.toList_append, h]
      exact ⟨_, rfl⟩

/-- What is written behind a token: nothing, behind a line feed and in front of one and the end, or a
space, and then the next token stands on the same line. -/
theorem exists_separator (t : Token) (tab : Nat) (p : Position) (cs : List Char) :
    ∃ gap, (spaced (t :: scan tab p cs)).toList =
        t.text.toList ++ (gap ++ (spaced (scan tab p cs)).toList) ∧
      ((gap = [] ∧ (t.kind = .newline ∨ EndsLine (spaced (scan tab p cs)).toList)) ∨
        (gap = [' '] ∧ ¬ EndsLine cs)) := by
  have hscan := scan_eq_content tab p cs
  cases hcontent : content tab p cs with
  | nil =>
      rw [hcontent, List.nil_append] at hscan
      rw [hscan, spaced, spaced, Token.separator, if_pos (by simp)]
      exact ⟨[], by simp [spaced], Or.inl ⟨rfl, Or.inr (Or.inl rfl)⟩⟩
  | cons u us =>
      rw [hcontent, List.cons_append] at hscan
      have hu : u ∈ content tab p cs := hcontent ▸ List.mem_cons_self
      refine ⟨(t.separator u).toList, ?_, ?_⟩
      · rw [hscan, spaced, String.toList_append, String.toList_append, List.append_assoc]
      by_cases ht : t.kind = .newline
      · rw [Token.separator, if_pos (Or.inl ht)]
        exact Or.inl ⟨rfl, Or.inl ht⟩
      by_cases hnewline : u.kind = .newline
      · obtain ⟨c, ds, -, hkind, htext⟩ := exists_shape_of_mem_content hu
        obtain rfl := eq_newline_of_kind (hkind.symm.trans hnewline)
        rw [Token.separator, if_pos (Or.inr (Or.inl hnewline)), hscan]
        exact Or.inl ⟨rfl, Or.inr (endsLine_spaced htext _)⟩
      · have hend := (content_nonempty hu).1
        rw [Token.separator, if_neg (by simp [ht, hnewline, hend])]
        refine Or.inr ⟨rfl, ?_⟩
        rintro (rfl | ⟨es, rfl⟩)
        · rw [content_nil] at hcontent
          cases hcontent
        · rw [content_token tab p (by decide), shape_newline] at hcontent
          obtain ⟨rfl, -⟩ := List.cons.inj hcontent
          exact hnewline rfl

/-- Tokens that are written with single spaces are read again, wherever that starts. -/
theorem scan_spaced (tab tab' : Nat) (p p' : Position) (cs : List Char) :
    (scan tab' p' (spaced (scan tab p cs)).toList).map (fun t => (t.kind, t.text)) =
      (scan tab p cs).map fun t => (t.kind, t.text) := by
  fun_induction scan tab p cs generalizing p' with
  | case1 p =>
      rw [spaced]
      simp [scan]
  | case2 p c cs hc ih => exact ih p'
  | case3 p c cs hc s text ih =>
      have hc : isGap c = false := by simpa using hc
      obtain ⟨gap, hspelled, hgap⟩ := exists_separator ⟨s.kind, String.ofList text, p⟩ tab
        (p.advance tab text) (cs.drop s.extent)
      have hshape : shape c (cs.take s.extent ++ (gap ++
          (spaced (scan tab (p.advance tab text) (cs.drop s.extent))).toList)) = shape c cs := by
        rcases hgap with ⟨rfl, hkind | hline⟩ | ⟨rfl, hline⟩
        · rw [eq_newline_of_kind hkind, shape_newline, shape_newline]
        · exact shape_again (Or.inl hline)
        · refine shape_again (Or.inr ⟨_, rfl, ?_⟩)
          exact Classical.byContradiction fun h => hline (endsLine_of_not_isComplete h)
      rw [hspelled, String.toList_ofList, scan_again tab' p' hc hshape, List.map_cons, List.map_cons]
      congr 1
      rcases hgap with ⟨rfl, -⟩ | ⟨rfl, -⟩
      · exact ih _
      · rw [List.singleton_append, scan, if_pos (by decide)]
        exact ih _

end Lexer

/-- Writing the tokens of a script and lexing again gives the same tokens.  They are written in order,
with a single space between neighbours, but none behind a line feed and none in front of a line feed
or the end. -/
theorem tokenize_spaced (source : String) (tab tab' : Nat) :
    (tokenize (spaced (tokenize source tab)) tab').map (fun t => (t.kind, t.text)) =
      (tokenize source tab).map fun t => (t.kind, t.text) :=
  Lexer.scan_spaced tab tab' .origin .origin source.toList

/-- A number does not take a point that has a letter behind it, and takes it in front of a space. -/
example : spaced (tokenize "1.x+1.\t#1 #'open" 1) = "1 . x + 1. #1 # 'open" := by
  decide +kernel

end ChartLint
