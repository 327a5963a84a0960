import ChartLint.Proofs.LineTokens
import ChartLint.Statement

/-!
# Operators and words at the back of a line

The layout matches the operator at the end of a line as text.  The statements look at the kind and the
spelling of the last token.  Here the two are compared.

*Text.*  The code ends with a word if the word is the run of word characters there
(`endsWithWord_iff`), and with a symbol if its last character is one (`trailing_symbol`).

*Tokens.*  The line asks for more if its last token does, and it ends with an arrow if the token is
one (`endAlike_last`).  Touching tokens are the exception: a word may go on a word in front of it,
and `>` may complete an arrow.
-/

namespace ChartLint

/-! ## Words and symbols as text -/

theorem rtakeWhile_append {p : Char → Bool} {x y : List Char} (hy : ∀ c ∈ y, p c = true)
    (hx : x.getLast?.any p = false) : (x ++ y).rtakeWhile p = y := by
  rw [List.rtakeWhile, List.reverse_append, List.takeWhile_append_of_pos (by simpa using hy)]
  have hnil : x.reverse.takeWhile p = [] := by
    rw [← List.head?_reverse] at hx
    cases hrev : x.reverse with
    | nil => rfl
    | cons c cs =>
        rw [hrev, List.head?_cons, Option.any_some] at hx
        rw [List.takeWhile_cons_of_neg (by simp [hx])]
  rw [hnil, List.append_nil, List.reverse_reverse]

/-- A word ends the code if it is the run of word characters there. -/
theorem endsWithWord_iff {code : List Char} {word : String}
    (hword : word.toList.all Text.isWordChar = true) :
    endsWithWord code word = true ↔ code.rtakeWhile Text.isWordChar = word.toList := by
  have hall : ∀ c ∈ word.toList, Text.isWordChar c = true := by simpa using hword
  have htake (x : List Char) : (x ++ word.toList).take
      ((x ++ word.toList).length - word.length) = x := by
    rw [← String.length_toList, List.length_append, Nat.add_sub_cancel, List.take_left]
  rw [endsWithWord, Bool.and_eq_true, List.isSuffixOf_iff_suffix, Bool.not_eq_true']
  constructor
  · rintro ⟨⟨x, rfl⟩, hlast⟩
    rw [htake] at hlast
    exact rtakeWhile_append hall hlast
  · intro h
    have hsplit := List.rdropWhile_append_rtakeWhile (p := Text.isWordChar) (l := code)
    rw [h] at hsplit
    refine ⟨⟨_, hsplit⟩, ?_⟩
    rw [← hsplit, htake]
    by_cases hnil : code.rdropWhile Text.isWordChar = []
    · rw [hnil]
      rfl
    · have hlast := List.rdropWhile_last_not Text.isWordChar code hnil
      rw [List.getLast?_eq_some_getLast hnil, Option.any_some]
      simpa using hlast

theorem trailingWords_all : ∀ word ∈ trailingWords, word.toList.all Text.isWordChar = true := by
  decide

/-- A line that ends with a word operator ends with no arrow. -/
theorem trailing_word {code : List Char} {word : String} (hword : word ∈ trailingWords)
    (h : endsWithWord code word = true) :
    ∃ op, trailingOperator? code = some op ∧ op ≠ "=>" := by
  obtain ⟨op, hop⟩ := Option.isSome_iff_exists.1 (List.find?_isSome.2 ⟨word, hword, h⟩)
  refine ⟨op, ?_, ?_⟩
  · rw [trailingOperator?, hop]
    rfl
  · rintro rfl
    exact absurd (List.mem_of_find?_eq_some hop) (by decide)

/-- The characters that symbols at the end of a line end with. -/
def symbolEnds : List Char := ',' :: Lexer.singleOperators

theorem getLast?_trailingSymbols :
    ∀ op ∈ trailingSymbols, op.toList.getLast?.any symbolEnds.contains = true := by
  decide

theorem mem_trailingSymbols : ∀ c ∈ symbolEnds, String.ofList [c] ∈ trailingSymbols :=
  Lexer.forall_mem_of_all (by decide)

theorem getLast?_of_suffix {x code : List Char} (h : x <:+ code) {c : Char}
    (hc : x.getLast? = some c) : code.getLast? = some c := by
  obtain ⟨front, rfl⟩ := h
  rw [List.getLast?_append, hc]
  rfl

/-- A line that ends with neither a word operator nor a symbol. -/
theorem trailing_quiet {code : List Char} (hwords : ∀ word ∈ trailingWords,
    endsWithWord code word = false) (hlast : ∀ c, code.getLast? = some c → c ∉ symbolEnds) :
    trailingOperator? code = none := by
  have hfind : trailingWords.find? (endsWithWord code) = none := by
    rw [List.find?_eq_none]
    intro word hword
    simp [hwords word hword]
  rw [trailingOperator?, hfind, Option.orElse_eq_orElse, Option.orElse_none, List.find?_eq_none]
  intro op hop hsuffix
  obtain ⟨c, hend, hc⟩ := Option.any_eq_true _ _ |>.1 (getLast?_trailingSymbols op hop)
  exact hlast c (getLast?_of_suffix (List.isSuffixOf_iff_suffix.1 hsuffix) hend)
    (List.contains_iff_mem.1 hc)

theorem getLast?_of_endsWithWord {code : List Char} {word : String} (hword : word ∈ trailingWords)
    (h : endsWithWord code word = true) : ∃ c ∈ ['d', 'r', 't'], code.getLast? = some c := by
  have hends : ∀ word ∈ trailingWords,
      word.toList.getLast?.any ['d', 'r', 't'].contains = true := by
    decide
  rw [endsWithWord, Bool.and_eq_true, List.isSuffixOf_iff_suffix] at h
  obtain ⟨c, hlast, hc⟩ := Option.any_eq_true _ _ |>.1 (hends word hword)
  exact ⟨c, List.contains_iff_mem.1 hc, getLast?_of_suffix h.1 hlast⟩

/-- No word operator ends the code if its last character is none of their letters. -/
theorem endsWithWord_eq_false {code : List Char} {c : Char} (hlast : code.getLast? = some c)
    (hc : c ∉ ['d', 'r', 't']) : ∀ word ∈ trailingWords, endsWithWord code word = false := by
  intro word hword
  rw [Bool.eq_false_iff]
  intro h
  obtain ⟨d, hd, hend⟩ := getLast?_of_endsWithWord hword h
  rw [hlast, Option.some.injEq] at hend
  exact hc (hend ▸ hd)

theorem find?_trailingSymbols {code : List Char} (h : ['=', '>'] <:+ code) :
    trailingSymbols.find? (fun op => op.toList.isSuffixOf code) = some "=>" := by
  have hlast := getLast?_of_suffix h rfl
  -- The symbols that are tried before end with an equals sign.
  have hends : ∀ op ∈ [":=", "==", "!=", "<=", ">="], op.toList.getLast? = some '=' := by decide
  have hbefore : [":=", "==", "!=", "<=", ">="].find? (fun op => op.toList.isSuffixOf code) =
      none := by
    rw [List.find?_eq_none]
    intro op hop hsuffix
    rw [getLast?_of_suffix (List.isSuffixOf_iff_suffix.1 hsuffix) (hends op hop)] at hlast
    exact absurd hlast (by decide)
  have hsplit : trailingSymbols = [":=", "==", "!=", "<=", ">="] ++ "=>" :: trailingSymbols.drop 6 :=
    rfl
  rw [hsplit, List.find?_append, hbefore, List.find?_cons_of_pos]
  · rfl
  · exact List.isSuffixOf_iff_suffix.2 h

/-- A line that ends with a symbol.  The symbol is an arrow if the line ends with one. -/
theorem trailing_symbol {code : List Char} {c : Char} (hlast : code.getLast? = some c)
    (hc : c ∈ symbolEnds) :
    ∃ op, trailingOperator? code = some op ∧ (op = "=>" ↔ ['=', '>'] <:+ code) := by
  have hletter : ∀ c ∈ symbolEnds, c ∉ ['d', 'r', 't'] := Lexer.forall_mem_of_all (by decide)
  have hwords : trailingWords.find? (endsWithWord code) = none := by
    rw [List.find?_eq_none]
    intro word hword
    simp [endsWithWord_eq_false hlast (hletter c hc) word hword]
  have hsome : (trailingSymbols.find? fun op => op.toList.isSuffixOf code).isSome = true := by
    obtain ⟨front, rfl⟩ := List.getLast?_eq_some_iff.1 hlast
    refine List.find?_isSome.2 ⟨_, mem_trailingSymbols c hc, ?_⟩
    rw [String.toList_ofList, List.isSuffixOf_iff_suffix]
    exact List.suffix_append front [c]
  obtain ⟨op, hop⟩ := Option.isSome_iff_exists.1 hsome
  refine ⟨op, ?_, ?_, ?_⟩
  · rw [trailingOperator?, hwords, hop]
    rfl
  · rintro rfl
    have hsuffix : "=>".toList.isSuffixOf code = true := by
      simpa only using List.find?_some hop
    exact List.isSuffixOf_iff_suffix.1 hsuffix
  · intro harrow
    rw [find?_trailingSymbols harrow] at hop
    exact (Option.some.inj hop).symm

/-! ## Numbers -/

/-- A run that ends as a number does, with a digit or a point, if it is not empty. -/
def EndsNumber (cs : List Char) : Prop :=
  ∀ c, cs.getLast? = some c → c.isDigit = true ∨ c = '.'

theorem EndsNumber.append {cs ds : List Char} (h : EndsNumber cs) (h' : EndsNumber ds) :
    EndsNumber (cs ++ ds) := by
  intro c hc
  rw [List.getLast?_append] at hc
  cases hds : ds.getLast? with
  | none => exact h c (by simpa [hds] using hc)
  | some d =>
      rw [hds, Option.some_or] at hc
      exact h' c (hds.trans hc)

theorem endsNumber_run (cs : List Char) :
    EndsNumber (cs.take (Lexer.runLength Char.isDigit cs)) := by
  intro c hc
  exact Or.inl (Lexer.of_mem_take_runLength (List.mem_of_getLast? hc))

theorem endsNumber_fraction (cs : List Char) :
    EndsNumber (cs.take (Lexer.fractionExtent cs)) := by
  fun_cases Lexer.fractionExtent cs with
  | case1 cs h => simp [EndsNumber]
  | case2 cs h =>
      have hpoint : EndsNumber ['.'] := by simp [EndsNumber]
      rw [List.take_succ_cons]
      exact hpoint.append (endsNumber_run cs)
  | case3 => simp [EndsNumber]

/-- The digits behind a sign are not missing, so the sign is not the last character. -/
theorem endsNumber_signed (cs : List Char) : EndsNumber (cs.take (Lexer.signedExtent cs)) := by
  fun_cases Lexer.signedExtent cs with
  | case1 => simp [EndsNumber]
  | case2 c cs hc h =>
      cases cs with
      | nil => simp at h
      | cons d ds =>
          have hd : d.isDigit = true := by simpa using h
          intro e he
          refine endsNumber_run (d :: ds) e ?_
          rw [List.take_succ_cons, Lexer.take_runLength, List.takeWhile_cons_of_pos hd] at he
          rw [Lexer.take_runLength, List.takeWhile_cons_of_pos hd]
          simpa using he
  | case3 c cs hc h => simp [EndsNumber]
  | case4 c cs hc => exact endsNumber_run (c :: cs)

theorem endsNumber_exponent (cs : List Char) :
    EndsNumber (cs.take (Lexer.exponentExtent cs)) := by
  fun_cases Lexer.exponentExtent cs with
  | case1 => simp [EndsNumber]
  | case2 c cs hc h => simp [EndsNumber]
  | case3 c cs hc n h =>
      intro e he
      have hsigned := endsNumber_signed cs e
      rw [h] at hsigned
      have hne : cs ≠ [] := by
        rintro rfl
        simp [Lexer.signedExtent] at h
      cases cs with
      | nil => exact absurd rfl hne
      | cons d ds => exact hsigned (by simpa using he)
  | case4 => simp [EndsNumber]

theorem endsNumber_number {c : Char} (hc : c.isDigit = true ∨ c = '.') (cs : List Char) :
    EndsNumber (c :: cs.take (Lexer.numberExtent c cs)) := by
  have hfirst : EndsNumber [c] := by
    intro d hd
    rw [List.getLast?_singleton, Option.some.injEq] at hd
    exact hd ▸ hc
  rw [← List.singleton_append, Lexer.numberExtent, List.take_add]
  refine hfirst.append (.append ?_ (endsNumber_exponent _))
  split
  · exact endsNumber_run cs
  · rw [List.take_add]
    exact (endsNumber_run cs).append (endsNumber_fraction _)

/-! ## The last token -/

/-- A line and its last token ask for the same. -/
def EndAlike (l : LineShape) (t : Token) : Prop :=
  (l.trailing? = some "=>" ↔ t.isOperator "=>" = true) ∧ l.asksForMore = t.asksForMore

/-- Is the token a word? -/
def Token.isWord (t : Token) : Bool :=
  t.kind == .identifier || Lexer.wordOperators.contains t.text

variable {l : LineShape} {t : Token}

theorem endAlike_quiet (h : l.trailing? = none) (hkind : t.kind ≠ .operator)
    (hcomma : t.isPunctuation "," = false) : EndAlike l t := by
  constructor
  · simp [h, Token.isOperator, hkind]
  · simp [LineShape.asksForMore, h, Token.asksForMore, hkind, hcomma]

theorem endAlike_symbol {c : Char} (hlast : l.code.getLast? = some c) (hc : c ∈ symbolEnds)
    (harrow : ['=', '>'] <:+ l.code ↔ t.isOperator "=>" = true)
    (hasks : t.asksForMore = !t.isOperator "=>") : EndAlike l t := by
  obtain ⟨op, hop, hiff⟩ := trailing_symbol hlast hc
  have htrailing : l.trailing? = some op := hop
  rw [harrow] at hiff
  constructor
  · rw [htrailing, Option.some.injEq, hiff]
  · rw [LineShape.asksForMore, htrailing, hasks, Option.any_some, Bool.eq_iff_iff]
    simp [hiff]

theorem endAlike_word (h : ∃ op, l.trailing? = some op ∧ op ≠ "=>") (hkind : t.kind = .operator)
    (htext : t.text ≠ "=>") : EndAlike l t := by
  obtain ⟨op, hop, hne⟩ := h
  have hop' : (op != "=>") = true := bne_iff_ne.2 hne
  have htext' : (t.text != "=>") = true := bne_iff_ne.2 htext
  constructor
  · simp [hop, hne, Token.isOperator, htext]
  · simp [LineShape.asksForMore, hop, hop', Token.asksForMore, hkind, htext']

variable {pre : List Char} {c : Char} {ds : List Char}

theorem getLast?_code (hcode : l.code = pre ++ t.text.toList) {cs : List Char}
    (htext : t.text.toList = c :: cs) : l.code.getLast? = t.text.toList.getLast? := by
  rw [hcode, List.getLast?_append_of_ne_nil _ (by simp [htext])]

/-- A token whose last character is neither a symbol nor a letter of a word operator. -/
theorem endAlike_of_getLast? (hcode : l.code = pre ++ t.text.toList) {e : Char}
    (he : t.text.toList.getLast? = some e) (hsymbol : e ∉ symbolEnds) (hletter : e ∉ ['d', 'r', 't'])
    (hkind : t.kind ≠ .operator) : EndAlike l t := by
  have hlast : l.code.getLast? = some e := by
    rw [hcode, List.getLast?_append, he]
    rfl
  refine endAlike_quiet (trailing_quiet (endsWithWord_eq_false hlast hletter) ?_) hkind ?_
  · intro d hd
    rw [hlast, Option.some.injEq] at hd
    exact hd ▸ hsymbol
  · rw [Bool.eq_false_iff]
    intro hcomma
    simp only [Token.isPunctuation, Bool.and_eq_true, beq_iff_eq] at hcomma
    rw [hcomma.2] at he
    exact hsymbol (Option.some.inj he ▸ List.mem_cons_self)

theorem endAlike_string (hcode : l.code = pre ++ t.text.toList) (hkind : t.kind = .stringLiteral)
    (htext : t.text.toList = c :: ds.take (Lexer.stringExtent c ds)) (hquote : c = '"' ∨ c = '\'')
    (hclosed : t.isTerminated = true) : EndAlike l t := by
  simp only [Token.isTerminated, htext] at hclosed
  rw [Lexer.closes_take_stringExtent] at hclosed
  have hlast : t.text.toList.getLast? = some c := by
    rw [htext, List.getLast?_cons, Lexer.getLast?_take_stringExtent hclosed]
    rfl
  refine endAlike_of_getLast? hcode hlast ?_ ?_ (by simp [hkind])
  · rcases hquote with rfl | rfl <;> decide
  · rcases hquote with rfl | rfl <;> decide

theorem endAlike_number (hcode : l.code = pre ++ t.text.toList) (hkind : t.kind = .numericLiteral)
    (htext : t.text.toList = c :: ds.take (Lexer.numberExtent c ds))
    (hc : c.isDigit = true ∨ c = '.') : EndAlike l t := by
  obtain ⟨e, he⟩ : ∃ e, t.text.toList.getLast? = some e := by
    rw [htext]
    exact ⟨_, List.getLast?_eq_some_getLast (List.cons_ne_nil _ _)⟩
  have hend := endsNumber_number hc ds e (by rw [← htext, he])
  have hne : ∀ d ∈ symbolEnds ++ ['d', 'r', 't'], ¬ (d.isDigit = true ∨ d = '.') :=
    Lexer.forall_mem_of_all (by decide)
  refine endAlike_of_getLast? hcode he ?_ ?_ (by simp [hkind])
  · intro hmem
    exact hne e (List.mem_append_left _ hmem) hend
  · intro hmem
    exact hne e (List.mem_append_right _ hmem) hend

/-- The last two characters of a word operator do not stand in a color. -/
theorem endAlike_color (hcode : l.code = pre ++ t.text.toList) (hkind : t.kind ≠ .operator)
    (htext : t.text.toList = '#' :: ds.take (Lexer.runLength Lexer.isHexDigit ds))
    (hds : ds.head?.any Lexer.isHexDigit = true) : EndAlike l t := by
  rw [Lexer.take_runLength] at htext
  obtain ⟨d, hs, hhex⟩ : ∃ d hs, ds.takeWhile Lexer.isHexDigit = d :: hs := by
    cases ds with
    | nil => simp at hds
    | cons d ds => exact ⟨d, _, List.takeWhile_cons_of_pos (by simpa using hds)⟩
  have hall : ∀ e ∈ d :: hs, Lexer.isHexDigit e = true := by
    intro e he
    rw [← hhex] at he
    exact List.mem_takeWhile_imp he
  rw [hhex] at htext
  have hpair : ∀ word ∈ trailingWords,
      ['n', 'd'] <:+ word.toList ∨ ['o', 'r'] <:+ word.toList ∨ ['o', 't'] <:+ word.toList := by
    decide
  have hsuffix : t.text.toList <:+ l.code := ⟨pre, hcode.symm⟩
  have hnot {a b : Char} (hab : [a, b] <:+ l.code) : a = '#' ∨ Lexer.isHexDigit a = true := by
    have htwo := List.suffix_of_suffix_length_le hab hsuffix (by simp [htext])
    have ha : a ∈ t.text.toList := htwo.subset List.mem_cons_self
    rw [htext] at ha
    exact (List.mem_cons.1 ha).imp_right (hall a)
  refine endAlike_quiet (trailing_quiet ?_ ?_) hkind ?_
  · intro word hword
    rw [Bool.eq_false_iff]
    intro hends
    rw [endsWithWord, Bool.and_eq_true, List.isSuffixOf_iff_suffix] at hends
    rcases hpair word hword with h | h | h <;>
      exact absurd (hnot (h.trans hends.1)) (by decide)
  · intro e he
    have hno : ∀ e ∈ symbolEnds, Lexer.isHexDigit e = false :=
      Lexer.forall_mem_of_all (by decide)
    rw [getLast?_code hcode htext, htext, List.getLast?_cons_cons] at he
    intro hmem
    have hdigit := hall e (List.mem_of_getLast? he)
    rw [hno e hmem] at hdigit
    cases hdigit
  · rw [Bool.eq_false_iff]
    intro hcomma
    simp only [Token.isPunctuation, Bool.and_eq_true, beq_iff_eq] at hcomma
    rw [hcomma.2] at htext
    simp at htext

/-- A word that goes on no other word is an operator for the line if it is one as a token. -/
theorem endAlike_wordShape (hcode : l.code = pre ++ t.text.toList)
    (hkind : t.kind = (Lexer.wordShape c ds).kind)
    (htext : t.text.toList = c :: ds.take (Lexer.wordShape c ds).extent)
    (hc : Text.isAlphabetic c = true ∨ c = '_') (hpre : pre.getLast?.any Text.isWordChar = false) :
    EndAlike l t := by
  have hkind' := kind_of_word hkind htext
  have hrun : ds.take (Lexer.wordShape c ds).extent = ds.takeWhile Text.isWordChar :=
    Lexer.take_runLength Text.isWordChar ds
  rw [hrun] at htext
  have hall : ∀ e ∈ t.text.toList, Text.isWordChar e = true := by
    intro e he
    rw [htext] at he
    rcases List.mem_cons.1 he with rfl | he
    · rcases hc with hc | rfl
      · simp [Text.isWordChar, hc]
      · decide
    · exact List.mem_takeWhile_imp he
  have hends {word : String} (hword : word ∈ trailingWords) :
      endsWithWord l.code word = true ↔ t.text = word := by
    rw [endsWithWord_iff (trailingWords_all word hword), hcode, rtakeWhile_append hall hpre,
      String.toList_inj]
  by_cases hop : Lexer.wordOperators.contains t.text = true
  · rw [if_pos hop] at hkind'
    have hmem : t.text ∈ trailingWords := List.contains_iff_mem.1 hop
    refine endAlike_word (trailing_word hmem ((hends hmem).2 rfl)) hkind' ?_
    rintro harrow
    rw [harrow] at hmem
    exact absurd hmem (by decide)
  · rw [if_neg hop] at hkind'
    refine endAlike_quiet (trailing_quiet ?_ ?_) (by simp [hkind'])
      (by simp [Token.isPunctuation, hkind'])
    · intro word hword
      rw [Bool.eq_false_iff]
      intro hend
      obtain rfl := (hends hword).1 hend
      exact hop (List.contains_iff_mem.2 hword)
    · intro e he hmem
      have hno : ∀ e ∈ symbolEnds, Text.isWordChar e = false :=
        Lexer.forall_mem_of_all (by decide)
      rw [getLast?_code hcode htext] at he
      have hwordChar := hall e (List.mem_of_getLast? he)
      rw [hno e hmem] at hwordChar
      cases hwordChar

theorem asksForMore_operator (hkind : t.kind = .operator) :
    t.asksForMore = !t.isOperator "=>" := by
  simp [Token.asksForMore, Token.isOperator, Token.isPunctuation, hkind, bne]

theorem endAlike_double {d : Char} (hcode : l.code = pre ++ t.text.toList)
    (hkind : t.kind = .operator) (htext : t.text.toList = [c, d])
    (hdouble : (c, d) ∈ Lexer.doubleOperators) : EndAlike l t := by
  have hend : ∀ x ∈ Lexer.doubleOperators, x.2 ∈ symbolEnds := by decide
  refine endAlike_symbol (c := d) ?_ (hend (c, d) hdouble) ?_ (asksForMore_operator hkind)
  · rw [getLast?_code hcode htext, htext]
    rfl
  · rw [Token.isOperator, hkind, hcode, htext, Bool.and_eq_true, beq_iff_eq, beq_iff_eq,
      ← String.toList_inj, htext]
    constructor
    · intro hsuffix
      have hpair := List.suffix_of_suffix_length_le hsuffix (List.suffix_append pre [c, d]) (by simp)
      exact ⟨rfl, (hpair.eq_of_length rfl).symm⟩
    · rintro ⟨-, harrow⟩
      rw [harrow]
      exact List.suffix_append _ _

theorem endAlike_single (hcode : l.code = pre ++ t.text.toList) (hkind : t.kind = .operator)
    (htext : t.text.toList = [c]) (hc : c ∈ Lexer.singleOperators)
    (harrow : t.text = ">" → pre.getLast? ≠ some '=') : EndAlike l t := by
  have hno : t.isOperator "=>" = false := by
    rw [Token.isOperator, Bool.and_eq_false_iff, beq_eq_false_iff_ne, beq_eq_false_iff_ne]
    right
    intro htext'
    rw [htext'] at htext
    simp at htext
  refine endAlike_symbol (c := c) ?_ (List.mem_cons_of_mem _ hc) ?_ (asksForMore_operator hkind)
  · rw [getLast?_code hcode htext, htext]
    rfl
  · rw [hno, hcode, htext]
    constructor
    · rintro ⟨x, hx⟩
      -- The equals sign of the arrow stands in front of the token.
      rw [show x ++ ['=', '>'] = (x ++ ['=']) ++ ['>'] by simp] at hx
      obtain ⟨rfl, hlast⟩ := List.append_inj' hx rfl
      refine absurd ?_ (harrow ?_)
      · simp
      · rw [← String.toList_inj, htext, ← hlast]
        rfl
    · intro h
      cases h

theorem endAlike_other (hcode : l.code = pre ++ t.text.toList) (hkind : t.kind = .punctuation)
    (htext : t.text.toList = [c]) (hc : Text.isAlphabetic c = false)
    (hsingle : c ∉ Lexer.singleOperators) : EndAlike l t := by
  have hlast : t.text.toList.getLast? = some c := by
    rw [htext]
    rfl
  by_cases hcomma : c = ','
  · subst hcomma
    have htext' : t.text = "," := String.toList_inj.1 htext
    refine endAlike_symbol (c := ',') ?_ List.mem_cons_self ?_ ?_
    · rw [getLast?_code hcode htext, hlast]
    · constructor
      · intro hsuffix
        have hend := getLast?_of_suffix hsuffix rfl
        rw [getLast?_code hcode htext, hlast] at hend
        exact absurd hend (by decide)
      · intro h
        simp [Token.isOperator, hkind] at h
    · simp [Token.asksForMore, Token.isOperator, Token.isPunctuation, hkind, htext']
  · refine endAlike_of_getLast? hcode hlast ?_ ?_ (by simp [hkind])
    · exact fun hmem => (List.mem_cons.1 hmem).elim hcomma hsingle
    · intro hmem
      have hletter : ∀ d ∈ ['d', 'r', 't'], Text.isAlphabetic d = true :=
        Lexer.forall_mem_of_all (by decide)
      rw [hletter c hmem] at hc
      cases hc

/-- A line ends as its last token does: it asks for more if the token does, and it ends with an arrow
if the token is one.  The token must not go on a word or complete an arrow. -/
theorem endAlike_last (hcode : l.code = pre ++ t.text.toList)
    (hkind : t.kind = (Lexer.shape c ds).kind)
    (htext : t.text.toList = c :: ds.take (Lexer.shape c ds).extent) (ht : t.isCode = true)
    (hclosed : t.kind = .stringLiteral → t.isTerminated = true)
    (hword : t.isWord = true → pre.getLast?.any Text.isWordChar = false)
    (harrow : t.text = ">" → pre.getLast? ≠ some '=') : EndAlike l t := by
  revert hkind htext
  apply Lexer.shape_elim (P := fun s => t.kind = s.kind →
    t.text.toList = c :: ds.take s.extent → EndAlike l t)
  case newline =>
    intro _ hkind
    simp [Token.isCode, hkind] at ht
  case comment =>
    intro _ _ hkind
    simp [Token.isCode, hkind] at ht
  case string => exact fun hquote hkind htext =>
    endAlike_string hcode hkind htext hquote (hclosed hkind)
  case color =>
    rintro kind hkind' rfl hds hkind htext
    refine endAlike_color hcode ?_ htext hds
    rcases hkind' with rfl | rfl <;> simp [hkind]
  case number => exact fun hc hkind htext => endAlike_number hcode hkind htext hc
  case word =>
    intro hc hkind htext
    refine endAlike_wordShape hcode hkind htext hc (hword ?_)
    rw [Token.isWord, kind_of_word hkind htext]
    split
    case isTrue hop => rw [hop, Bool.or_true]
    case isFalse => rfl
  case double =>
    rintro d ds rfl hdouble hkind htext
    exact endAlike_double hcode hkind htext hdouble
  case single => exact fun hc _ hkind htext => endAlike_single hcode hkind htext hc harrow
  case other => exact fun _ _ _ hc hsingle hkind htext =>
    endAlike_other hcode hkind htext hc hsingle

end ChartLint
