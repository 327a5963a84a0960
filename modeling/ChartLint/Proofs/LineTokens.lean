import ChartLint.Proofs.LineLayout
import Mathlib.Data.List.DropRight

/-!
# The tokens in the code of a line

The code of a line is what its code tokens spell, with the blanks between them.

*Places.*  Each code token stands in the code at its own place, and the character in front of it
either is a blank or ends a token that touches it (`InCode`).  Without code tokens there are
only blanks (`readCode_silent`), so the line is left out of account (`isExempt_of_silent`).

*Ends.*  What a line says about its neighbours is read off the two ends of its code.  The code starts
with the first token, unless a carriage return stands in front of it (`exists_code_first`), and it
ends with the last one, unless that is made of blanks or is a string that nothing closes
(`exists_code_last`).
-/

namespace ChartLint

/-! ## Blanks and words -/

/-- A character is in only one of two tables whose ranges are apart. -/
theorem Text.inRanges_of_apart {a b : Array CodeRange}
    (h : ∀ r ∈ a.toList, ∀ x ∈ b.toList, x.last < r.first ∨ r.last < x.first) {c : Char}
    (hc : inRanges a c = true) : inRanges b c = false := by
  simp only [inRanges, Array.any_eq_true', CodeRange.contains, Bool.and_eq_true,
    decide_eq_true_eq] at hc
  obtain ⟨r, hr, hlow, hhigh⟩ := hc
  rw [Bool.eq_false_iff, Ne, inRanges, Array.any_eq_true']
  rintro ⟨x, hx, hcontains⟩
  simp only [CodeRange.contains, Bool.and_eq_true, decide_eq_true_eq] at hcontains
  have := h r hr.val x hx.val
  omega

/-- A blank stands in no word. -/
theorem isWordChar_of_isBlank {c : Char} (h : Text.isBlank c = true) :
    Text.isWordChar c = false := by
  by_cases hc : c.toNat < 128
  · exact Lexer.forall_ascii (P := fun c => Text.isBlank c = true → Text.isWordChar c = false)
      (by decide +kernel) hc h
  · have halpha : Text.inRanges Text.alphabeticRanges c = false :=
      Text.inRanges_of_apart (by decide +kernel) h
    have hnumeric : Text.inRanges Text.numericRanges c = false :=
      Text.inRanges_of_apart (by decide +kernel) h
    have hunderscore : c ≠ '_' := by
      rintro rfl
      exact hc (by decide)
    simp [Text.isWordChar, Text.isAlphabetic, Text.isNumeric, hc, halpha, hnumeric, hunderscore]

/-- Behind its first character, a token that is no string and no comment has no blanks. -/
theorem isBlank_of_isInner {c : Char} (h : Lexer.isInner c = true) : Text.isBlank c = false := by
  rw [Lexer.isInner, Bool.or_eq_true] at h
  rcases h with h | h
  · by_contra hblank
    rw [isWordChar_of_isBlank (by simpa using hblank)] at h
    cases h
  · simp only [List.contains_eq_mem, List.mem_cons, List.not_mem_nil, or_false,
      decide_eq_true_eq] at h
    rcases h with rfl | rfl | rfl | rfl | rfl <;> decide +kernel

theorem trimRight_eq_rdropWhile (cs : List Char) :
    Text.trimRight cs = cs.rdropWhile Text.isBlank := rfl

theorem trimRight_eq_nil_iff {cs : List Char} :
    Text.trimRight cs = [] ↔ ∀ c ∈ cs, Text.isBlank c = true :=
  List.rdropWhile_eq_nil_iff

/-- Nothing is left of a text exactly if it is all blanks. -/
theorem trim_eq_empty_iff {s : String} :
    Text.trim s = "" ↔ ∀ c ∈ s.toList, Text.isBlank c = true := by
  have hempty : Text.trim s = "" ↔ Text.trimRight (s.toList.dropWhile Text.isBlank) = [] :=
    String.ofList_eq_empty_iff
  rw [hempty, trimRight_eq_nil_iff, ← List.dropWhile_eq_nil_iff, List.dropWhile_idempotent,
    List.dropWhile_eq_nil_iff]

theorem trimRight_append_blanks (cs : List Char) {bs : List Char}
    (h : ∀ b ∈ bs, Text.isBlank b = true) : Text.trimRight (cs ++ bs) = Text.trimRight cs := by
  induction bs using List.reverseRecOn with
  | nil => rw [List.append_nil]
  | append_singleton bs b ih =>
      rw [← List.append_assoc, trimRight_append_blank (h b (by simp)),
        ih fun c hc => h c (by simp [hc])]

/-- Trimming leaves everything in front of a character that is no blank. -/
theorem trimRight_append {cs : List Char} {c : Char} (hlast : cs.getLast? = some c)
    (hc : Text.isBlank c = false) (ds : List Char) :
    Text.trimRight (cs ++ ds) = cs ++ Text.trimRight ds := by
  obtain ⟨front, rfl⟩ := List.getLast?_eq_some_iff.1 hlast
  induction ds using List.reverseRecOn with
  | nil =>
      rw [List.append_nil, trimRight_eq_rdropWhile, List.rdropWhile_concat_neg _ _ _ (by simp [hc])]
      exact (List.append_nil _).symm
  | append_singleton ds d ih =>
      rw [← List.append_assoc, trimRight_eq_rdropWhile, trimRight_eq_rdropWhile,
        List.rdropWhile_concat, List.rdropWhile_concat]
      split
      · exact ih
      · exact List.append_assoc _ _ _

/-! ## Tokens and their places -/

theorem readCode_isPrefix (quote : Option Char) (depth : Nat) (cs : List Char) :
    (readCode quote depth cs).1 <+: cs := by
  fun_induction readCode quote depth cs with
  | case1 => exact List.prefix_rfl
  | case2 => exact List.prefix_rfl
  | case3 depth q e es code after hread ih =>
      rw [hread] at ih
      exact (List.prefix_cons_inj _).2 ((List.prefix_cons_inj _).2 ih)
  | case4 depth e es q he code after hread ih =>
      rw [hread] at ih
      exact (List.prefix_cons_inj _).2 ih
  | case5 => exact List.nil_prefix
  | case6 depth e es h code after hread ih =>
      rw [hread] at ih
      exact (List.prefix_cons_inj _).2 ih

/-- On a line, a token that is no code is a comment. -/
theorem comment_of_not_isCode {c : Char} (hc : c ≠ '\n') {cs : List Char} {text : String}
    {p : Position} (h : (Token.mk (Lexer.shape c cs).kind text p).isCode = false) :
    (Lexer.shape c cs).kind = .comment := by
  obtain ⟨hnewline, hend⟩ := Lexer.shape_kind_ne hc cs
  revert h hnewline hend
  cases (Lexer.shape c cs).kind <;> simp [Token.isCode]

/-- Without code tokens there are only blanks. -/
theorem readCode_silent {tab : Nat} {p : Position} {cs : List Char} (hn : '\n' ∉ cs)
    (h : ∀ t ∈ Lexer.content tab p cs, t.isCode = false) (depth : Nat) :
    ∀ c ∈ (readCode none depth cs).1, Lexer.isGap c = true := by
  fun_induction Lexer.scan tab p cs with
  | case1 p => simp [readCode]
  | case2 p c cs hc ih =>
      rw [Lexer.content_gap tab p hc] at h
      rw [readCode_gap hc, behindCode_fst]
      intro d hd
      rcases List.mem_cons.1 hd with rfl | hd
      · exact hc
      · exact ih (List.not_mem_of_not_mem_cons hn) h d hd
  | case3 p c cs hc s text ih =>
      rw [Lexer.content_token tab p (by simpa using hc)] at h
      have hkind := comment_of_not_isCode (by simpa using (List.ne_of_not_mem_cons hn).symm)
        (h _ List.mem_cons_self)
      rw [readCode_comment ((Lexer.extent_of_kind c cs).2 hkind).1]
      simp

/-! ## Places in the code -/

/-- The token `t` of a line, between the tokens `front` and `back`, stands in the code of the line at
its own place, behind the characters `pre`. -/
structure InCode (tab : Nat) (p : Position) (depth : Nat) (cs : List Char) (front : List Token)
    (t : Token) (back : List Token) (pre : List Char) : Prop where
  /-- The code goes on behind the token with that of the tokens behind it. -/
  code : ∃ rest inner, (readCode none depth cs).1 =
    pre ++ t.text.toList ++ (readCode none inner rest).1 ∧
      '\n' ∉ rest ∧ ∃ q, Lexer.content tab q rest = back
  /-- The characters in front of the token lead to its position. -/
  position : t.position = p.advance tab pre
  /-- The character in front of the token is a blank or ends a token that touches it. -/
  touch : ∀ c, pre.getLast? = some c → Lexer.isGap c = true ∨
    ∃ u ∈ front, u.text.toList.getLast? = some c ∧
      u.position.advance tab u.text.toList = t.position

section InCode

variable {tab depth : Nat} {p : Position} {c : Char} {cs pre : List Char} {t : Token}
  {front back : List Token}

theorem InCode.gap (hc : Lexer.isGap c = true)
    (h : InCode tab (p.step tab c) depth cs front t back pre) :
    InCode tab p depth (c :: cs) front t back (c :: pre) := by
  obtain ⟨⟨rest, inner, hread, hrest⟩, hposition, htouch⟩ := h
  refine ⟨⟨rest, inner, ?_, hrest⟩, hposition, ?_⟩
  · rw [readCode_gap hc, behindCode_fst, hread]
    rfl
  · intro d hd
    cases pre with
    | nil => exact Or.inl (by simpa [← Option.some.inj hd] using hc)
    | cons e pre => exact htouch d (by simpa using hd)

theorem InCode.token (hcomplete : Lexer.IsComplete c cs)
    (h : InCode tab (p.advance tab (c :: cs.take (Lexer.shape c cs).extent)) (depthAfterChar depth c)
      (cs.drop (Lexer.shape c cs).extent) front t back pre) :
    InCode tab p depth (c :: cs)
      (⟨(Lexer.shape c cs).kind, String.ofList (c :: cs.take (Lexer.shape c cs).extent), p⟩ :: front)
      t back (c :: cs.take (Lexer.shape c cs).extent ++ pre) := by
  obtain ⟨⟨rest, inner, hread, hrest⟩, hposition, htouch⟩ := h
  refine ⟨⟨rest, inner, ?_, hrest⟩, ?_, ?_⟩
  · rw [readCode_token hcomplete p, depthAfter_shape, behindCode_fst, hread]
    simp
  · rw [hposition, Position.advance_append]
  · intro d hd
    by_cases hpre : pre = []
    · subst hpre
      refine Or.inr ⟨_, List.mem_cons_self, by simpa using hd, ?_⟩
      rw [String.toList_ofList]
      exact hposition.symm
    · rw [List.getLast?_append_of_ne_nil _ hpre] at hd
      rcases htouch d hd with hgap | ⟨v, hv, hlast, htouches⟩
      · exact Or.inl hgap
      · exact Or.inr ⟨v, List.mem_cons_of_mem _ hv, hlast, htouches⟩

/-- The first token stands at the start of the code.  If it is not whole, it takes the rest of the
line. -/
theorem inCode_first (hcs : '\n' ∉ cs) (ht : t.isCode = true) (hc : Lexer.isGap c = false)
    (h : Lexer.content tab p (c :: cs) = t :: back) : InCode tab p depth (c :: cs) [] t back [] := by
  rw [Lexer.content_token tab p hc] at h
  obtain ⟨rfl, hback⟩ := List.cons.inj h
  refine ⟨?_, rfl, by simp⟩
  by_cases hcomplete : Lexer.IsComplete c cs
  · refine ⟨_, depthAfterChar depth c, ?_, fun hn => hcs (List.mem_of_mem_drop hn), _, hback⟩
    rw [readCode_token hcomplete p, depthAfter_shape, behindCode_fst, String.toList_ofList,
      List.nil_append]
  · have hcomment : (Lexer.shape c cs).kind ≠ .comment := by
      intro hkind
      simp [Token.isCode, hkind] at ht
    rw [Lexer.extent_of_not_isComplete hcomplete hcs, List.drop_length] at hback
    refine ⟨[], 0, ?_, by simp, _, hback⟩
    rw [(readCode_not_isComplete hcomplete hcs depth).1, if_neg hcomment,
      Lexer.extent_of_not_isComplete hcomplete hcs]
    simp [readCode]

end InCode

/-- Every code token of a line stands in its code. -/
theorem exists_inCode {tab : Nat} {p : Position} {cs : List Char} (hn : '\n' ∉ cs) {t : Token}
    (ht : t.isCode = true) {back : List Token} : ∀ (front : List Token) (depth : Nat),
    Lexer.content tab p cs = front ++ t :: back →
    ∃ pre, InCode tab p depth cs front t back pre := by
  fun_induction Lexer.scan tab p cs with
  | case1 p =>
      intro front depth h
      simp at h
  | case2 p c cs hc ih =>
      intro front depth h
      rw [Lexer.content_gap tab p hc] at h
      obtain ⟨pre, hpre⟩ := ih (List.not_mem_of_not_mem_cons hn) front depth h
      exact ⟨c :: pre, hpre.gap hc⟩
  | case3 p c cs hc s text ih =>
      intro front depth h
      have hcs : '\n' ∉ cs := List.not_mem_of_not_mem_cons hn
      have hgap : Lexer.isGap c = false := by simpa using hc
      cases front with
      | nil => exact ⟨[], inCode_first hcs ht hgap h⟩
      | cons u front =>
          rw [Lexer.content_token tab p hgap] at h
          obtain ⟨rfl, hcontent⟩ := List.cons.inj h
          -- A token that is not whole would be the last one.
          have hcomplete : Lexer.IsComplete c cs := by
            by_contra hcomplete
            rw [Lexer.extent_of_not_isComplete hcomplete hcs, List.drop_length,
              Lexer.content_nil] at hcontent
            simp at hcontent
          obtain ⟨pre, hpre⟩ := ih (fun hmem => hcs (List.mem_of_mem_drop hmem)) front
            (depthAfterChar depth c) hcontent
          exact ⟨text ++ pre, hpre.token hcomplete⟩

/-! ## Lines without code -/

/-- Is the token made of blanks?  Blanks other than those between tokens are tokens of their own. -/
def Token.isBlank (t : Token) : Bool :=
  t.text.toList.all Text.isBlank

theorem code_ofLine (depth : Nat) (line : List Char) :
    (LineShape.ofLine depth line).code =
      Text.trimRight (readCode none depth (line.dropWhile isMarginChar)).1 := rfl

theorem code_isPrefix (depth : Nat) (line : List Char) :
    (LineShape.ofLine depth line).code <+: line.dropWhile isMarginChar :=
  (List.rdropWhile_prefix _ _).trans (readCode_isPrefix none depth _)

theorem newline_not_mem_dropWhile {line : List Char} (hn : '\n' ∉ line) (p : Char → Bool) :
    '\n' ∉ line.dropWhile p :=
  fun h => hn ((List.dropWhile_suffix p).subset h)

theorem depthAfter_ofLine {line : List Char} (hn : '\n' ∉ line) (tab : Nat) (p : Position)
    (depth : Nat) :
    (LineShape.ofLine depth line).depthAfter = depthBehind (Lexer.content tab p line) depth := by
  rw [content_dropWhile, ← depth_readCode (newline_not_mem_dropWhile hn isMarginChar)]
  rfl

theorem isExempt_iff {depth : Nat} {line : List Char} :
    (LineShape.ofLine depth line).isExempt = true ↔
      ∀ c ∈ (readCode none depth (line.dropWhile isMarginChar)).1, Text.isBlank c = true := by
  rw [LineShape.isExempt, List.isEmpty_iff, code_ofLine, trimRight_eq_nil_iff]

/-- A line without code tokens is left out of account. -/
theorem isExempt_of_silent {tab : Nat} {p : Position} {line : List Char} (hn : '\n' ∉ line)
    (h : ∀ t ∈ Lexer.content tab p line, t.isCode = false) (depth : Nat) :
    (LineShape.ofLine depth line).isExempt = true := by
  rw [content_dropWhile] at h
  rw [isExempt_iff]
  intro c hc
  exact isBlank_of_isGap (readCode_silent (newline_not_mem_dropWhile hn _) h depth c hc)

/-- A line with a code token that is not made of blanks is taken into account. -/
theorem isExempt_eq_false {tab : Nat} {p : Position} {line : List Char} (hn : '\n' ∉ line)
    {t : Token} (ht : t ∈ Lexer.content tab p line) (hcode : t.isCode = true)
    (hblank : t.isBlank = false) (depth : Nat) :
    (LineShape.ofLine depth line).isExempt = false := by
  rw [content_dropWhile] at ht
  obtain ⟨front, back, hcontent⟩ := List.append_of_mem ht
  obtain ⟨pre, ⟨rest, inner, hread, -⟩, -, -⟩ :=
    exists_inCode (newline_not_mem_dropWhile hn _) hcode front depth hcontent
  rw [Bool.eq_false_iff, Ne, isExempt_iff, hread]
  intro hall
  rw [Token.isBlank, List.all_eq_false] at hblank
  obtain ⟨c, hc, hcblank⟩ := hblank
  exact hcblank (hall c (by simp [hc]))

theorem depth_readCode_of_blank {cs : List Char} {depth : Nat}
    (h : ∀ c ∈ (readCode none depth cs).1, Text.isBlank c = true) :
    (readCode none depth cs).2 = depth := by
  induction cs with
  | nil => rfl
  | cons c cs ih =>
      by_cases hslash : c = '/' ∧ cs.head? = some '/'
      · rw [readCode_comment hslash]
      · rw [readCode_code hslash, behindCode_fst, List.singleton_append, List.forall_mem_cons] at h
        obtain ⟨hc, h⟩ := h
        have hne (d : Char) (hd : Text.isBlank d = false) : c ≠ d := by
          rintro rfl
          rw [hd] at hc
          cases hc
        have hquote : ¬ (c = '"' ∨ c = '\'') := by
          rintro (rfl | rfl) <;> revert hc <;> decide +kernel
        have hdepth : depthAfterChar depth c = depth := by
          simp [depthAfterChar, isOpeningChar, isClosingChar, hne '(' (by decide +kernel),
            hne '[' (by decide +kernel), hne '\x7b' (by decide +kernel),
            hne ')' (by decide +kernel), hne ']' (by decide +kernel), hne '\x7d' (by decide +kernel)]
        rw [if_neg hquote, hdepth] at h
        rw [readCode_code hslash, if_neg hquote, hdepth, behindCode_snd, ih h]

theorem depthAfter_of_isExempt {depth : Nat} {line : List Char}
    (h : (LineShape.ofLine depth line).isExempt = true) :
    (LineShape.ofLine depth line).depthAfter = depth :=
  depth_readCode_of_blank (isExempt_iff.1 h)

/-! ## The ends of the code -/

theorem kind_of_word {t : Token} {c : Char} {ds : List Char}
    (hkind : t.kind = (Lexer.wordShape c ds).kind)
    (htext : t.text.toList = c :: ds.take (Lexer.wordShape c ds).extent) :
    t.kind = if Lexer.wordOperators.contains t.text then .operator else .identifier := by
  have hrun : ds.take (Lexer.wordShape c ds).extent = ds.takeWhile Text.isWordChar :=
    Lexer.take_runLength Text.isWordChar ds
  rw [hrun] at htext
  rw [hkind, ← String.ofList_toList (s := t.text), htext]
  rfl

/-- The first token stands behind the blanks in front of the line. -/
theorem content_eq_cons {tab : Nat} {p : Position} {cs : List Char} {t : Token} {back : List Token}
    (h : Lexer.content tab p cs = t :: back) :
    ∃ c ds, cs.dropWhile Lexer.isGap = c :: ds ∧ t.kind = (Lexer.shape c ds).kind ∧
      t.text.toList = c :: ds.take (Lexer.shape c ds).extent := by
  induction cs generalizing p with
  | nil => simp at h
  | cons c cs ih =>
      cases hc : Lexer.isGap c with
      | true =>
          rw [Lexer.content_gap tab p hc] at h
          rw [List.dropWhile_cons_of_pos hc]
          exact ih h
      | false =>
          rw [Lexer.content_token tab p hc] at h
          obtain ⟨rfl, -⟩ := List.cons.inj h
          refine ⟨c, cs, ?_, rfl, String.toList_ofList⟩
          rw [List.dropWhile_cons_of_neg (by simp [hc])]

theorem isMarginChar_of_isGap {c : Char} (h : Lexer.isGap c = true) (hc : c ≠ '\r') :
    isMarginChar c = true := by
  rw [Lexer.isGap, Bool.or_eq_true] at h
  exact h.resolve_right (by simpa using hc)

/-- Without carriage returns the blanks in front of a line are its margin. -/
theorem dropWhile_isMarginChar {line : List Char} (h : '\r' ∉ line.takeWhile Lexer.isGap) :
    line.dropWhile isMarginChar = line.dropWhile Lexer.isGap := by
  induction line with
  | nil => rfl
  | cons c cs ih =>
      rw [List.dropWhile_cons, List.dropWhile_cons]
      cases hc : Lexer.isGap c with
      | true =>
          rw [List.takeWhile_cons_of_pos hc, List.mem_cons, not_or] at h
          rw [isMarginChar_of_isGap hc (Ne.symm h.1), if_pos rfl, if_pos rfl, ih h.2]
      | false =>
          have hmargin : isMarginChar c = false := by
            rw [Bool.eq_false_iff]
            intro hmargin
            rw [isGap_of_isMarginChar hmargin] at hc
            cases hc
          simp [hmargin]

/-- What is known of the code of a line and of its first token. -/
structure StartsWith (code : List Char) (t : Token) (c : Char) (ds w : List Char) : Prop where
  /-- The first character belongs to both. -/
  code_eq : code = c :: w
  /-- The code is cut off from the line. -/
  code_isPrefix : w <+: ds
  /-- The token has the kind that the lexer chose. -/
  kind_eq : t.kind = (Lexer.shape c ds).kind
  /-- The token has the extent that the lexer chose. -/
  text_eq : t.text.toList = c :: ds.take (Lexer.shape c ds).extent
  /-- Trimming does not reach the token, unless it is a string. -/
  token_isPrefix : t.kind ≠ .stringLiteral → ds.take (Lexer.shape c ds).extent <+: w

/-- The code of a line starts with the first token, unless a carriage return stands in front. -/
theorem exists_code_first {tab : Nat} {p : Position} {line : List Char} {t : Token}
    {back : List Token} (hcontent : Lexer.content tab p line = t :: back) (ht : t.isCode = true)
    (hreturn : '\r' ∉ line.takeWhile Lexer.isGap) {depth : Nat}
    (hexempt : (LineShape.ofLine depth line).isExempt = false) :
    ∃ c ds w, StartsWith (LineShape.ofLine depth line).code t c ds w := by
  obtain ⟨c, ds, hdrop, hkind, htext⟩ := content_eq_cons hcontent
  rw [← dropWhile_isMarginChar hreturn] at hdrop
  have hcode := code_ofLine depth line
  rw [hdrop] at hcode
  have hprefix := code_isPrefix depth line
  rw [hdrop] at hprefix
  obtain ⟨w, hw⟩ : ∃ w, (LineShape.ofLine depth line).code = c :: w := by
    cases hline : (LineShape.ofLine depth line).code with
    | nil => simp [LineShape.isExempt, hline] at hexempt
    | cons d w =>
        rw [hline] at hprefix
        exact ⟨w, by rw [(List.cons_prefix_cons.1 hprefix).1]⟩
  rw [hw] at hprefix hcode
  refine ⟨c, ds, w, hw, (List.cons_prefix_cons.1 hprefix).2, hkind, htext, ?_⟩
  intro hstring
  rw [hkind] at hstring
  have hcomment : (Lexer.shape c ds).kind ≠ .comment := by
    intro hcomment
    simp [Token.isCode, hkind, hcomment] at ht
  cases htake : ds.take (Lexer.shape c ds).extent with
  | nil => exact List.nil_prefix
  | cons d es =>
      -- The last character of the token is no blank, so trimming does not reach the token.
      have hlast : (d :: es).getLast? = some ((d :: es).getLast (List.cons_ne_nil d es)) :=
        List.getLast?_eq_some_getLast _
      have hinner := Lexer.inner_extent hstring hcomment ((d :: es).getLast (List.cons_ne_nil d es))
        (by rw [htake]; exact List.getLast_mem _)
      rw [readCode_token ⟨hcomment, fun h => absurd h hstring⟩ p, behindCode_fst, htake,
        trimRight_append (by simpa [List.getLast?_cons] using hlast) (isBlank_of_isInner hinner)]
        at hcode
      rw [(List.cons.inj hcode).2]
      exact List.prefix_append _ _

/-- A token ends with a character that is no blank, unless it is made of blanks or is a string that
nothing closes. -/
theorem exists_getLast?_text {tab : Nat} {p : Position} {cs : List Char} {t : Token}
    (ht : t ∈ Lexer.content tab p cs) (hcode : t.isCode = true) (hblank : t.isBlank = false)
    (hclosed : t.kind = .stringLiteral → t.isTerminated = true) :
    ∃ c, t.text.toList.getLast? = some c ∧ Text.isBlank c = false := by
  obtain ⟨c, ds, -, hkind, htext⟩ := Lexer.exists_shape_of_mem_content ht
  by_cases hstring : t.kind = .stringLiteral
  · have hterm := hclosed hstring
    rw [hkind] at hstring
    obtain ⟨hquote, hextent⟩ := (Lexer.extent_of_kind c ds).1 hstring
    simp only [Token.isTerminated, htext] at hterm
    rw [hextent, Lexer.closes_take_stringExtent] at hterm
    refine ⟨c, ?_, ?_⟩
    · rw [htext, hextent, List.getLast?_cons, Lexer.getLast?_take_stringExtent hterm]
      rfl
    · rcases hquote with rfl | rfl <;> decide +kernel
  · rw [hkind] at hstring
    have hcomment : (Lexer.shape c ds).kind ≠ .comment := by
      intro hcomment
      simp [Token.isCode, hkind, hcomment] at hcode
    have hinner := Lexer.inner_extent hstring hcomment
    rw [Token.isBlank, htext] at hblank
    rw [htext]
    cases htake : ds.take (Lexer.shape c ds).extent with
    | nil => exact ⟨c, rfl, by simpa [htake] using hblank⟩
    | cons d es =>
        refine ⟨(d :: es).getLast (List.cons_ne_nil d es), ?_, ?_⟩
        · rw [List.getLast?_cons_cons, List.getLast?_eq_some_getLast]
        · exact isBlank_of_isInner (hinner _ (by rw [htake]; exact List.getLast_mem _))

/-- The code of a line ends with the last code token, unless that is made of blanks or is a string
that nothing closes.  The character in front of it is a blank or ends a token that touches it. -/
theorem exists_code_last {tab : Nat} {p : Position} {line : List Char} (hn : '\n' ∉ line)
    {front back : List Token} {t : Token}
    (hcontent : Lexer.content tab p line = front ++ t :: back)
    (hback : ∀ u ∈ back, u.isCode = false) (hcode : t.isCode = true) (hblank : t.isBlank = false)
    (hclosed : t.kind = .stringLiteral → t.isTerminated = true) (depth : Nat) :
    ∃ pre, (LineShape.ofLine depth line).code = pre ++ t.text.toList ∧
      ∀ c, pre.getLast? = some c → Lexer.isGap c = true ∨
        ∃ u ∈ front, u.text.toList.getLast? = some c ∧
          u.position.advance tab u.text.toList = t.position := by
  obtain ⟨c, hlast, hc⟩ :=
    exists_getLast?_text (by rw [hcontent]; simp) hcode hblank hclosed
  rw [content_dropWhile] at hcontent
  obtain ⟨pre, ⟨rest, inner, hread, hrest, q, hq⟩, -, htouch⟩ :=
    exists_inCode (newline_not_mem_dropWhile hn _) hcode front depth hcontent
  refine ⟨pre, ?_, htouch⟩
  rw [← hq] at hback
  rw [code_ofLine, hread, trimRight_append_blanks _ fun b hb =>
    isBlank_of_isGap (readCode_silent hrest hback inner b hb)]
  have hend : (pre ++ t.text.toList).getLast? = some c := by
    rw [List.getLast?_append, hlast]
    rfl
  simpa [Text.trimRight] using trimRight_append hend hc []

end ChartLint
