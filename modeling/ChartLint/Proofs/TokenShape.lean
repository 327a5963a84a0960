import ChartLint.Token.Lexer
import Mathlib.Data.List.TakeWhile

/-!
# How far a token reaches

The lexer decides the extent of a token by looking at the characters behind its first one.  Two
facts about that decision carry everything that is said about lexing.

*Lines.*  No token but a line feed holds a line feed (`newline_not_mem_extent`), so every token ends
on the line it starts on.

*Boundaries.*  What stands behind a line feed is never looked at, and what stands behind a blank is
looked at only inside a comment and inside a string that is still open (`shape_append`).  So a text
can be cut at a line feed, and mostly at a blank, and lexed in parts.
-/

namespace ChartLint.Lexer

/-! ## Runs of characters -/

theorem take_runLength (p : Char → Bool) (cs : List Char) :
    cs.take (runLength p cs) = cs.takeWhile p :=
  (List.prefix_iff_eq_take.1 (List.takeWhile_prefix p)).symm

theorem runLength_le (p : Char → Bool) (cs : List Char) : runLength p cs ≤ cs.length :=
  (List.takeWhile_prefix p).length_le

theorem of_mem_take_runLength {p : Char → Bool} {cs : List Char} {d : Char}
    (hd : d ∈ cs.take (runLength p cs)) : p d = true := by
  rw [take_runLength] at hd
  exact List.mem_takeWhile_imp hd

/-! ## The cases of a shape -/

/-- What holds of every shape that the lexer can choose at a place holds of the one it chooses.  There
is one case for each kind of lexeme, with what the lexer saw when it chose it. -/
theorem shape_elim {P : Shape → Prop} {c : Char} {cs : List Char}
    (newline : c = '\n' → P ⟨.newline, 0⟩)
    (comment : c = '/' → cs.head? = some '/' → P ⟨.comment, runLength (· ≠ '\n') cs⟩)
    (string : c = '"' ∨ c = '\'' → P ⟨.stringLiteral, stringExtent c cs⟩)
    (color : ∀ kind, kind = .colorLiteral ∨ kind = .punctuation → c = '#' →
      cs.head?.any isHexDigit = true → P ⟨kind, runLength isHexDigit cs⟩)
    (number : c.isDigit ∨ c = '.' → P ⟨.numericLiteral, numberExtent c cs⟩)
    (word : Text.isAlphabetic c ∨ c = '_' → P (wordShape c cs))
    (double : ∀ d ds, cs = d :: ds → (c, d) ∈ doubleOperators → P ⟨.operator, 1⟩)
    (single : c ∈ singleOperators → ¬ (c = '/' ∧ cs.head? = some '/') → P ⟨.operator, 0⟩)
    (other : c ≠ '\n' → c ≠ '"' → c ≠ '\'' → Text.isAlphabetic c = false →
      c ∉ singleOperators → P ⟨.punctuation, 0⟩) :
    P (shape c cs) := by
  rw [shape]
  split
  case isTrue h => exact newline h
  case isFalse hnl =>
  split
  case isTrue h => exact comment h.1 h.2
  case isFalse hslash =>
  split
  case isTrue h => exact string h
  case isFalse hquote =>
  split
  case isTrue h =>
    rw [colorShape]
    refine color _ ?_ h.1 h.2
    split
    · exact Or.inl rfl
    · exact Or.inr rfl
  case isFalse =>
  split
  case isTrue h => exact number (h.imp_right And.left)
  case isFalse =>
  split
  case isTrue h => exact word h
  case isFalse hword =>
    rw [symbolShape]
    split
    case isTrue h =>
      cases cs with
      | nil => cases h
      | cons d ds => exact double d ds rfl (by simpa using h)
    case isFalse =>
      split
      case isTrue h => exact single (by simpa using h) hslash
      case isFalse h =>
        rw [not_or] at hquote hword
        exact other hnl hquote.1 hquote.2 (by simpa using hword.1) (by simpa using h)

/-! ## Inside tokens -/

/-- May the character stand behind the first one in a token that is no string and no comment? -/
def isInner (c : Char) : Bool :=
  Text.isWordChar c || ['.', '+', '-', '=', '>'].contains c

/-- What holds of the first 128 characters holds of a character that is one of them. -/
theorem forall_ascii {P : Char → Prop} (h : ∀ n < 128, P (Char.ofNat n)) {c : Char}
    (hc : c.toNat < 128) : P c := by
  have := h c.toNat hc
  rwa [Char.ofNat_toNat] at this

/-- What can be checked for each character of a list holds of its members.  There are finitely many
characters, so that a plain decision would go through all of them. -/
theorem forall_mem_of_all {P : Char → Prop} [DecidablePred P] {cs : List Char}
    (h : (cs.all fun c => decide (P c)) = true) : ∀ c ∈ cs, P c := by
  simpa using h

theorem isInner_of_isDigit {c : Char} (h : c.isDigit = true) : isInner c = true := by
  have hlt := toNat_lt_of_isAlphanum (c := c) (by simp [Char.isAlphanum, h])
  simp [isInner, Text.isWordChar, Text.isNumeric, hlt, h]

theorem isInner_of_isAlpha {c : Char} (h : c.isAlpha = true) : isInner c = true := by
  have hlt := toNat_lt_of_isAlphanum (c := c) (by simp [Char.isAlphanum, h])
  simp [isInner, Text.isWordChar, Text.isAlphabetic_eq_isAlpha hlt, h]

theorem isInner_of_isHexDigit {c : Char} (h : isHexDigit c = true) : isInner c = true := by
  simp only [isHexDigit, Bool.or_eq_true, Bool.and_eq_true, decide_eq_true_eq] at h
  rcases h with (h | ⟨hlow, hhigh⟩) | ⟨hlow, hhigh⟩
  · exact isInner_of_isDigit h
  · have hz : c ≤ 'z' := Char.le_trans hhigh (by decide)
    refine isInner_of_isAlpha ?_
    delta Char.isAlpha Char.isLower
    simp only [Bool.or_eq_true, Bool.and_eq_true, decide_eq_true_eq]
    exact Or.inr ⟨hlow, hz⟩
  · have hz : c ≤ 'Z' := Char.le_trans hhigh (by decide)
    refine isInner_of_isAlpha ?_
    delta Char.isAlpha Char.isUpper
    simp only [Bool.or_eq_true, decide_eq_true_eq]
    exact Or.inl ⟨hlow, hz⟩

theorem inner_fraction (cs : List Char) : ∀ d ∈ cs.take (fractionExtent cs), isInner d = true := by
  fun_cases fractionExtent cs with
  | case1 cs h => simp
  | case2 cs h =>
      intro d hd
      rw [List.take_succ_cons] at hd
      rcases List.mem_cons.1 hd with rfl | hd
      · decide
      · exact isInner_of_isDigit (of_mem_take_runLength hd)
  | case3 => simp

theorem inner_signed (cs : List Char) : ∀ d ∈ cs.take (signedExtent cs), isInner d = true := by
  fun_cases signedExtent cs with
  | case1 => simp
  | case2 c cs hc h =>
      intro d hd
      rw [List.take_succ_cons] at hd
      rcases List.mem_cons.1 hd with rfl | hd
      · rcases hc with rfl | rfl <;> decide
      · exact isInner_of_isDigit (of_mem_take_runLength hd)
  | case3 c cs hc h => simp
  | case4 c cs hc => exact fun d hd => isInner_of_isDigit (of_mem_take_runLength hd)

theorem inner_exponent (cs : List Char) : ∀ d ∈ cs.take (exponentExtent cs), isInner d = true := by
  fun_cases exponentExtent cs with
  | case1 => simp
  | case2 c cs hc h => simp
  | case3 c cs hc n h =>
      intro d hd
      have hsigned := inner_signed cs
      rw [h] at hsigned
      rw [List.take_succ_cons] at hd
      rcases List.mem_cons.1 hd with rfl | hd
      · rcases hc with rfl | rfl <;> decide
      · exact hsigned d hd
  | case4 => simp

theorem inner_number (first : Char) (cs : List Char) :
    ∀ d ∈ cs.take (numberExtent first cs), isInner d = true := by
  have hrun : ∀ d ∈ cs.take (runLength Char.isDigit cs), isInner d = true :=
    fun d hd => isInner_of_isDigit (of_mem_take_runLength hd)
  intro d hd
  rw [numberExtent, List.take_add, List.mem_append] at hd
  rcases hd with hd | hd
  · split at hd
    · exact hrun d hd
    · rw [List.take_add, List.mem_append] at hd
      rcases hd with hd | hd
      · exact hrun d hd
      · exact inner_fraction _ d hd
  · exact inner_exponent _ d hd

/-- What stands behind the first character of a token that is no string and no comment. -/
theorem inner_extent {c : Char} {cs : List Char} (hstring : (shape c cs).kind ≠ .stringLiteral)
    (hcomment : (shape c cs).kind ≠ .comment) :
    ∀ d ∈ cs.take (shape c cs).extent, isInner d = true := by
  revert hstring hcomment
  apply shape_elim (P := fun s => s.kind ≠ .stringLiteral → s.kind ≠ .comment →
    ∀ d ∈ cs.take s.extent, isInner d = true)
  case newline => simp
  case comment => exact fun _ _ _ h => absurd rfl h
  case string => exact fun _ h => absurd rfl h
  case color => exact fun _ _ _ _ _ _ d hd => isInner_of_isHexDigit (of_mem_take_runLength hd)
  case number => exact fun _ _ _ => inner_number c cs
  case word =>
    intro _ _ _ d hd
    have : Text.isWordChar d = true := of_mem_take_runLength hd
    simp [isInner, this]
  case double =>
    rintro e es rfl he - - d hd
    obtain rfl : d = e := by simpa using hd
    simp only [doubleOperators, List.mem_cons, Prod.mk.injEq, List.not_mem_nil, or_false] at he
    rcases he with h | h | h | h | h | h | h | h | h | h | h <;> rw [h.2] <;> decide
  case single => simp
  case other => simp

/-! ## Tokens end on their line -/

/-- Strings and comments reach as far as their own rules say. -/
theorem extent_of_kind (c : Char) (cs : List Char) :
    ((shape c cs).kind = .stringLiteral → (c = '"' ∨ c = '\'') ∧
      (shape c cs).extent = stringExtent c cs) ∧
    ((shape c cs).kind = .comment → (c = '/' ∧ cs.head? = some '/') ∧
      (shape c cs).extent = runLength (· ≠ '\n') cs) := by
  apply shape_elim (P := fun s =>
    (s.kind = .stringLiteral → (c = '"' ∨ c = '\'') ∧ s.extent = stringExtent c cs) ∧
    (s.kind = .comment → (c = '/' ∧ cs.head? = some '/') ∧ s.extent = runLength (· ≠ '\n') cs))
  case comment => exact fun h h' => ⟨by simp, fun _ => ⟨⟨h, h'⟩, rfl⟩⟩
  case string => exact fun h => ⟨fun _ => ⟨h, rfl⟩, by simp⟩
  case color => rintro kind (rfl | rfl) - - <;> simp
  case word =>
    intro _
    rw [wordShape]
    dsimp only
    split <;> simp
  all_goals simp

theorem stringExtent_le (quote : Char) (cs : List Char) : stringExtent quote cs ≤ cs.length := by
  fun_induction stringExtent quote cs with
  | case1 => simp
  | case2 es => simp
  | case3 => simp
  | case4 es => simp
  | case5 e es he hc ih => simpa using ih
  | case6 es hn hb => simp
  | case7 e es hn hb hq ih => simpa using ih

theorem fractionExtent_le (cs : List Char) : fractionExtent cs ≤ cs.length := by
  fun_cases fractionExtent cs with
  | case1 => simp
  | case2 cs h => simpa using runLength_le Char.isDigit cs
  | case3 => simp

theorem signedExtent_le (cs : List Char) : signedExtent cs ≤ cs.length := by
  fun_cases signedExtent cs with
  | case1 => simp
  | case2 c cs hc h => simpa using runLength_le Char.isDigit cs
  | case3 c cs hc h => simp
  | case4 c cs hc => exact runLength_le Char.isDigit (c :: cs)

theorem exponentExtent_le (cs : List Char) : exponentExtent cs ≤ cs.length := by
  fun_cases exponentExtent cs with
  | case1 => simp
  | case2 c cs hc h => simp
  | case3 c cs hc n h =>
      have := signedExtent_le cs
      rw [List.length_cons]
      omega
  | case4 => simp

theorem numberExtent_le (first : Char) (cs : List Char) : numberExtent first cs ≤ cs.length := by
  have hrun := runLength_le Char.isDigit cs
  have hfrac := fractionExtent_le (cs.drop (runLength Char.isDigit cs))
  rw [List.length_drop] at hfrac
  have hexp (n : Nat) : exponentExtent (cs.drop n) ≤ cs.length - n := by
    rw [← List.length_drop]
    exact exponentExtent_le _
  simp only [numberExtent]
  split
  · have := hexp (runLength Char.isDigit cs)
    omega
  · have := hexp (runLength Char.isDigit cs + fractionExtent (cs.drop (runLength Char.isDigit cs)))
    omega

theorem extent_le (c : Char) (cs : List Char) : (shape c cs).extent ≤ cs.length := by
  apply shape_elim (P := fun s => s.extent ≤ cs.length)
  case newline => simp
  case comment => exact fun _ _ => runLength_le _ cs
  case string => exact fun _ => stringExtent_le c cs
  case color => exact fun _ _ _ _ => runLength_le _ cs
  case number => exact fun _ => numberExtent_le c cs
  case word => exact fun _ => runLength_le _ cs
  case double =>
    rintro d ds rfl -
    simp
  case single => simp
  case other => simp

/-! ## Kinds of tokens -/

theorem shape_newline (cs : List Char) : shape '\n' cs = ⟨.newline, 0⟩ := by
  rw [shape, if_pos rfl]

theorem wordShape_kind (c : Char) (cs : List Char) :
    (wordShape c cs).kind = .operator ∨ (wordShape c cs).kind = .identifier := by
  rw [wordShape]
  dsimp only
  split
  · exact Or.inl rfl
  · exact Or.inr rfl

/-- Only a line feed is a token of that kind, and no character makes the end of the script. -/
theorem shape_kind_ne {c : Char} (hc : c ≠ '\n') (cs : List Char) :
    (shape c cs).kind ≠ .newline ∧ (shape c cs).kind ≠ .endOfInput := by
  apply shape_elim (P := fun s => s.kind ≠ .newline ∧ s.kind ≠ .endOfInput)
  case newline => exact fun h => absurd h hc
  case color => rintro kind (rfl | rfl) - - <;> simp
  case word =>
    intro _
    rcases wordShape_kind c cs with h | h <;> simp [h]
  all_goals simp

/-! ## Boundaries -/

/-- A character that ends every run: a line feed or a blank between tokens. -/
def IsBoundary (d : Char) : Prop := d = '\n' ∨ isGap d = true

/-- There are four boundaries. -/
theorem IsBoundary.elim {d : Char} (h : IsBoundary d) : d = '\n' ∨ d = ' ' ∨ d = '\t' ∨ d = '\r' := by
  rcases h with h | h
  · exact Or.inl h
  · simp only [isGap, Bool.or_eq_true, beq_iff_eq] at h
    rcases h with (h | h) | h
    · exact Or.inr (Or.inl h)
    · exact Or.inr (Or.inr (Or.inl h))
    · exact Or.inr (Or.inr (Or.inr h))

theorem IsBoundary.not_digit {d : Char} (h : IsBoundary d) : d.isDigit = false := by
  rcases h.elim with rfl | rfl | rfl | rfl <;> decide

theorem IsBoundary.not_hexDigit {d : Char} (h : IsBoundary d) : isHexDigit d = false := by
  rcases h.elim with rfl | rfl | rfl | rfl <;> decide

theorem IsBoundary.not_alphabetic {d : Char} (h : IsBoundary d) : Text.isAlphabetic d = false := by
  rcases h.elim with rfl | rfl | rfl | rfl <;> decide

theorem IsBoundary.not_wordChar {d : Char} (h : IsBoundary d) : Text.isWordChar d = false := by
  rcases h.elim with rfl | rfl | rfl | rfl <;> decide

theorem IsBoundary.not_double {d : Char} (h : IsBoundary d) (c : Char) :
    doubleOperators.contains (c, d) = false := by
  rcases h.elim with rfl | rfl | rfl | rfl <;> simp [doubleOperators]

theorem any_head?_append {p : Char → Bool} {d : Char} (hd : p d = false) (cs ds : List Char) :
    (cs ++ d :: ds).head?.any p = cs.head?.any p := by
  cases cs with
  | nil => simpa using hd
  | cons c cs => rfl

/-- A run ends in front of a character that it excludes. -/
theorem takeWhile_append_boundary {p : Char → Bool} {d : Char} (hd : p d = false)
    (cs ds : List Char) : (cs ++ d :: ds).takeWhile p = cs.takeWhile p := by
  induction cs with
  | nil => simp [hd]
  | cons c cs ih => simp [List.takeWhile_cons, ih]

theorem runLength_append {p : Char → Bool} {d : Char} (hd : p d = false) (cs ds : List Char) :
    runLength p (cs ++ d :: ds) = runLength p cs := by
  rw [runLength, takeWhile_append_boundary hd, runLength]

theorem fractionExtent_append {d : Char} (h : IsBoundary d) (cs ds : List Char) :
    fractionExtent (cs ++ d :: ds) = fractionExtent cs := by
  cases cs with
  | nil => rcases h.elim with rfl | rfl | rfl | rfl <;> rfl
  | cons c cs =>
      by_cases hc : c = '.'
      · subst hc
        simp only [List.cons_append, fractionExtent, any_head?_append h.not_alphabetic,
          runLength_append h.not_digit]
      · rw [List.cons_append, fractionExtent.eq_2 _ (by simp [hc]),
          fractionExtent.eq_2 _ (by simp [hc])]

theorem signedExtent_append {d : Char} (h : IsBoundary d) (cs ds : List Char) :
    signedExtent (cs ++ d :: ds) = signedExtent cs := by
  cases cs with
  | nil => rcases h.elim with rfl | rfl | rfl | rfl <;> rfl
  | cons c cs =>
      have hrun := runLength_append h.not_digit (c :: cs) ds
      rw [List.cons_append] at hrun
      rw [List.cons_append, signedExtent, signedExtent, any_head?_append h.not_digit,
        runLength_append h.not_digit, hrun]

theorem exponentExtent_append {d : Char} (h : IsBoundary d) (cs ds : List Char) :
    exponentExtent (cs ++ d :: ds) = exponentExtent cs := by
  cases cs with
  | nil => rcases h.elim with rfl | rfl | rfl | rfl <;> rfl
  | cons c cs => rw [List.cons_append, exponentExtent, exponentExtent, signedExtent_append h]

theorem numberExtent_append {d : Char} (h : IsBoundary d) (first : Char) (cs ds : List Char) :
    numberExtent first (cs ++ d :: ds) = numberExtent first cs := by
  have hrun := runLength_le Char.isDigit cs
  have hdrop {n : Nat} (hn : n ≤ cs.length) : (cs ++ d :: ds).drop n = cs.drop n ++ d :: ds :=
    List.drop_append_of_le_length hn
  have hfrac := fractionExtent_le (cs.drop (runLength Char.isDigit cs))
  rw [List.length_drop] at hfrac
  simp only [numberExtent, runLength_append h.not_digit, hdrop hrun, fractionExtent_append h]
  split
  · rw [hdrop hrun, exponentExtent_append h]
  · rw [hdrop (by omega), exponentExtent_append h]

/-! ## Strings that are closed -/

/-- Is a string closed among the characters behind its opening quote, before its line ends? -/
def closes (quote : Char) : List Char → Bool
  | [] => false
  | c :: cs =>
    if c = '\n' then false
    else if c = '\\' then
      match cs with
      | [] => false
      | e :: es => if e = '\n' then false else closes quote es
    else if c = quote then true
    else closes quote cs

@[simp] theorem closes_newline (quote : Char) (cs : List Char) :
    closes quote ('\n' :: cs) = false := by
  unfold closes
  rfl

@[simp] theorem closes_quote {quote : Char} (hn : quote ≠ '\n') (hb : quote ≠ '\\')
    (cs : List Char) : closes quote (quote :: cs) = true := by
  unfold closes
  rw [if_neg hn, if_neg hb, if_pos rfl]

@[simp] theorem closes_other {quote c : Char} (hn : c ≠ '\n') (hb : c ≠ '\\') (hq : c ≠ quote)
    (cs : List Char) : closes quote (c :: cs) = closes quote cs := by
  rw [closes.eq_def]
  simp only [if_neg hn, if_neg hb, if_neg hq]

/-- A line feed ends a string as the end of the script does. -/
theorem stringExtent_append_newline (quote : Char) (cs ds : List Char) :
    stringExtent quote (cs ++ '\n' :: ds) = stringExtent quote cs := by
  fun_induction stringExtent quote cs with
  | case1 => simp
  | case2 es => simp
  | case3 => simp [stringExtent]
  | case4 es => simp [stringExtent]
  | case5 e es he hc ih => simp [he, ih]
  | case6 es hn hb => simp [hn, hb]
  | case7 e es hn hb hq ih => simp [hn, hb, hq, ih]

/-- What stands behind a closed string does not change its extent. -/
theorem stringExtent_append_closed {quote : Char} {cs : List Char} (h : closes quote cs = true)
    (ds : List Char) : stringExtent quote (cs ++ ds) = stringExtent quote cs := by
  fun_induction stringExtent quote cs with
  | case1 => simp [closes] at h
  | case2 es => simp at h
  | case3 => simp [closes] at h
  | case4 es => simp [closes] at h
  | case5 e es he hc ih => simp [he, ih (by simpa [closes, he] using h)]
  | case6 es hn hb => simp [hn, hb]
  | case7 e es hn hb hq ih => simp [hn, hb, hq, ih (by simpa [hn, hb, hq] using h)]

theorem closes_append {quote : Char} {cs : List Char} (h : closes quote cs = true)
    (ds : List Char) : closes quote (cs ++ ds) = true := by
  fun_induction stringExtent quote cs with
  | case1 => simp [closes] at h
  | case2 es => simp at h
  | case3 => simp [closes] at h
  | case4 es => simp [closes] at h
  | case5 e es he hc ih => simp [closes, he, ih (by simpa [closes, he] using h)]
  | case6 es hn hb => simp [hn, hb]
  | case7 e es hn hb hq ih => simp [hn, hb, hq, ih (by simpa [hn, hb, hq] using h)]

/-- Whether a string is closed can be read off its own characters. -/
theorem closes_take_stringExtent (quote : Char) (cs : List Char) :
    closes quote (cs.take (stringExtent quote cs)) = closes quote cs := by
  fun_induction stringExtent quote cs with
  | case1 => rfl
  | case2 es => simp [closes]
  | case3 => simp [closes]
  | case4 es => simp [closes]
  | case5 e es he hc ih => simp [closes, he, ih]
  | case6 es hn hb => simp [hn, hb]
  | case7 e es hn hb hq ih => simp [hn, hb, hq, ih]

/-- A string that nothing closes reaches to the end of its line. -/
theorem stringExtent_open {quote : Char} {cs : List Char} (h : closes quote cs = false)
    (hn : '\n' ∉ cs) : stringExtent quote cs = cs.length := by
  fun_induction stringExtent quote cs with
  | case1 => rfl
  | case2 es => simp at hn
  | case3 => rfl
  | case4 es => simp at hn
  | case5 e es he hc ih =>
      rw [ih (by simpa [closes, he] using h) (by simp_all)]
      rfl
  | case6 es hq hb => simp [hq, hb] at h
  | case7 e es hn' hb hq ih =>
      rw [ih (by simpa [hn', hb, hq] using h) (by simp_all)]
      rfl

/-- A closed string ends with its quote. -/
theorem getLast?_take_stringExtent {quote : Char} {cs : List Char} (h : closes quote cs = true) :
    (cs.take (stringExtent quote cs)).getLast? = some quote := by
  fun_induction stringExtent quote cs with
  | case1 => simp [closes] at h
  | case2 es => simp at h
  | case3 => simp [closes] at h
  | case4 es => simp [closes] at h
  | case5 e es he hc ih =>
      simp [List.getLast?_cons, ih (by simpa [closes, he] using h)]
  | case6 es hn hb => simp
  | case7 e es hn hb hq ih =>
      simp [List.getLast?_cons, ih (by simpa [hn, hb, hq] using h)]

/-! ## Shapes at a boundary -/

/-- The token that starts with `c` is no comment and, if it is a string, it is closed. -/
def IsComplete (c : Char) (cs : List Char) : Prop :=
  (shape c cs).kind ≠ .comment ∧ ((shape c cs).kind = .stringLiteral → closes c cs = true)

/-- Otherwise it is a comment or a string that nothing closes. -/
theorem not_isComplete_cases {c : Char} {cs : List Char} (h : ¬ IsComplete c cs) :
    ((shape c cs).kind = .comment ∧ c = '/' ∧ cs.head? = some '/') ∨
      ((shape c cs).kind = .stringLiteral ∧ (c = '"' ∨ c = '\'') ∧ closes c cs = false) := by
  by_cases hcomment : (shape c cs).kind = .comment
  · exact Or.inl ⟨hcomment, ((extent_of_kind c cs).2 hcomment).1⟩
  · have hstring : (shape c cs).kind = .stringLiteral ∧ closes c cs = false := by
      simpa [IsComplete, hcomment] using h
    exact Or.inr ⟨hstring.1, ((extent_of_kind c cs).1 hstring.1).1, hstring.2⟩

/-- A token that is not complete takes the rest of its line. -/
theorem extent_of_not_isComplete {c : Char} {cs : List Char} (h : ¬ IsComplete c cs)
    (hn : '\n' ∉ cs) : (shape c cs).extent = cs.length := by
  rcases not_isComplete_cases h with ⟨hkind, -⟩ | ⟨hkind, -, hopen⟩
  · rw [((extent_of_kind c cs).2 hkind).2, runLength, List.takeWhile_eq_self_iff.2]
    intro d hd
    simpa using ne_of_mem_of_not_mem hd hn
  · rw [((extent_of_kind c cs).1 hkind).2, stringExtent_open hopen hn]

theorem colorShape_append {d : Char} (h : IsBoundary d) (cs ds : List Char) :
    colorShape (cs ++ d :: ds) = colorShape cs := by
  rw [colorShape, colorShape, runLength_append h.not_hexDigit]

theorem wordShape_append {d : Char} (h : IsBoundary d) (c : Char) (cs ds : List Char) :
    wordShape c (cs ++ d :: ds) = wordShape c cs := by
  rw [wordShape, wordShape, takeWhile_append_boundary h.not_wordChar]

theorem symbolShape_append {d : Char} (h : IsBoundary d) (c : Char) (cs ds : List Char) :
    symbolShape c (cs ++ d :: ds) = symbolShape c cs := by
  rw [symbolShape, symbolShape, any_head?_append (h.not_double c)]

/-- A slash is followed by another one if it is so in front of the boundary. -/
theorem head?_append_slash {d : Char} (h : IsBoundary d) (cs ds : List Char) :
    (cs ++ d :: ds).head? = some '/' ↔ cs.head? = some '/' := by
  cases cs with
  | nil => rcases h.elim with rfl | rfl | rfl | rfl <;> simp
  | cons c cs => rfl

/-- A token has the same shape whether a boundary follows or nothing.  A boundary other than a line
feed must not be swallowed by a comment or an open string. -/
theorem shape_append {d : Char} (h : IsBoundary d) {c : Char} {cs : List Char}
    (hd : d = '\n' ∨ IsComplete c cs) (ds : List Char) :
    shape c (cs ++ d :: ds) = shape c cs := by
  rw [IsComplete] at hd
  simp only [shape, head?_append_slash h, any_head?_append h.not_hexDigit,
    any_head?_append h.not_digit, colorShape_append h, numberExtent_append h, wordShape_append h,
    symbolShape_append h] at hd ⊢
  split
  · rfl
  case isFalse hnl =>
    rw [if_neg hnl] at hd
    split
    case isTrue hslash =>
      rw [if_pos hslash] at hd
      rcases hd with rfl | ⟨hcomment, -⟩
      · rw [runLength_append (by decide)]
      · exact absurd rfl hcomment
    case isFalse hslash =>
      rw [if_neg hslash] at hd
      split
      case isTrue hquote =>
        rw [if_pos hquote] at hd
        rcases hd with rfl | ⟨-, hclosed⟩
        · rw [stringExtent_append_newline]
        · rw [stringExtent_append_closed (hclosed rfl)]
      case isFalse => rfl

theorem shape_append_gap {d : Char} (hd : isGap d = true) {c : Char} {cs : List Char}
    (h : IsComplete c cs) (ds : List Char) : shape c (cs ++ d :: ds) = shape c cs :=
  shape_append (Or.inr hd) (Or.inr h) ds

theorem IsComplete.append_gap {d : Char} (hd : isGap d = true) {c : Char} {cs : List Char}
    (h : IsComplete c cs) (ds : List Char) : IsComplete c (cs ++ d :: ds) := by
  rw [IsComplete, shape_append_gap hd h]
  exact ⟨h.1, fun hkind => closes_append (h.2 hkind) _⟩

end ChartLint.Lexer
