import ChartLint.Proofs.LineTokens
import ChartLint.Statement

/-!
# Operators and words at the front of a line

The layout matches operators and words as text at the front of the code of a line.  The statements
look at the kind and the spelling of the first token.  Here the two are compared.

*Words.*  The first word of the code is the first token if that is a word, so the line opens a block
if the token is a word that does (`opensBlock_first`).

*Operators.*  The line leads a continuation if the token does (`leadsContinuation_first`).  A compound
assignment is the exception: its first character is an operator that leads a continuation.  So is a
carriage return in front of the token, which hides it (`leadsContinuation_return`).
-/

namespace ChartLint

/-! ## Words at the front -/

theorem shape_word {c : Char} (hc : Text.isAlphabetic c = true) (cs : List Char) :
    Lexer.shape c cs = Lexer.wordShape c cs := by
  have hne (d : Char) (hd : Text.isAlphabetic d = false) : c ≠ d := by
    rintro rfl
    rw [hd] at hc
    cases hc
  have hdigit : c.isDigit = false := by
    rw [Bool.eq_false_iff]
    intro hdigit
    have hlt : c.toNat < 0x80 := Lexer.toNat_lt_of_isAlphanum (by simp [Char.isAlphanum, hdigit])
    exact Lexer.forall_ascii
      (P := fun c => c.isDigit = true → Text.isAlphabetic c = true → False) (by decide +kernel)
      hlt hdigit hc
  simp [Lexer.shape, hc, hdigit, hne '\n' (by decide), hne '/' (by decide), hne '"' (by decide),
    hne '\'' (by decide), hne '#' (by decide), hne '.' (by decide)]

/-- A word starts the code if it is the run of word characters there. -/
theorem startsWithOperator_iff {code : List Char} {op : String}
    (hop : op.toList.all Text.isWordChar = true) :
    startsWithOperator code op = true ↔ code.takeWhile Text.isWordChar = op.toList := by
  have hall : ∀ c ∈ op.toList, Text.isWordChar c = true := by simpa using hop
  rw [startsWithOperator, hop, Bool.true_and, Bool.and_eq_true, List.isPrefixOf_iff_prefix,
    Bool.not_eq_true']
  constructor
  · rintro ⟨⟨rest, rfl⟩, hnext⟩
    rw [← String.length_toList, List.drop_left] at hnext
    rw [List.takeWhile_append_of_pos hall]
    cases rest with
    | nil => simp
    | cons d rest => simp_all
  · intro h
    have hsplit := List.takeWhile_append_dropWhile (p := Text.isWordChar) (l := code)
    rw [h] at hsplit
    refine ⟨⟨_, hsplit⟩, ?_⟩
    rw [← hsplit, ← String.length_toList, List.drop_left]
    cases hdrop : code.dropWhile Text.isWordChar with
    | nil => rfl
    | cons d rest =>
        have hhead := List.head_dropWhile_not Text.isWordChar (l := code) (by simp [hdrop])
        simpa [hdrop] using hhead

theorem takeWhile_of_isPrefix {p : Char → Bool} {w ds : List Char} (h : w <+: ds)
    (hrun : ds.takeWhile p <+: w) : w.takeWhile p = ds.takeWhile p := by
  obtain ⟨r, rfl⟩ := h
  rw [List.takeWhile_append] at hrun ⊢
  split at hrun
  case isTrue hall =>
    have hself : w.takeWhile p = w := (List.takeWhile_prefix p).eq_of_length hall
    have hlength := hrun.length_le
    rw [List.length_append] at hlength
    have hnil : r.takeWhile p = [] := List.eq_nil_of_length_eq_zero (by omega)
    rw [if_pos hall, hself, hnil, List.append_nil]
  case isFalse hall => rw [if_neg hall]

namespace StartsWith

variable {code : List Char} {t : Token} {c : Char} {ds w : List Char}

/-- The word at the front of the code is the first token. -/
theorem takeWhile_code (h : StartsWith code t c ds w) (hc : Text.isAlphabetic c = true) :
    code.takeWhile Text.isWordChar = t.text.toList ∧
      t.kind = if Lexer.wordOperators.contains t.text then .operator else .identifier := by
  obtain ⟨rfl, hprefix, hkind, htext, htoken⟩ := h
  rw [shape_word hc] at hkind htext htoken
  have hkind' := kind_of_word hkind htext
  have hextent : ds.take (Lexer.wordShape c ds).extent = ds.takeWhile Text.isWordChar :=
    Lexer.take_runLength Text.isWordChar ds
  rw [hextent] at htext htoken
  have hstring : t.kind ≠ .stringLiteral := by
    rw [hkind]
    rcases Lexer.wordShape_kind c ds with h | h <;> simp [h]
  have hcword : Text.isWordChar c = true := by simp [Text.isWordChar, hc]
  constructor
  · rw [List.takeWhile_cons_of_pos hcword, htext]
    rw [takeWhile_of_isPrefix hprefix (htoken hstring)]
  · exact hkind'

/-- The first word of the code opens a block if the first token does. -/
theorem opensBlock_first (h : StartsWith code t c ds w) :
    Vocabulary.blockOpeners.contains (String.ofList (code.takeWhile Text.isWordChar)) =
      (t.isIdentifier && Vocabulary.blockOpeners.contains t.text) := by
  have hletters : ∀ word ∈ Vocabulary.blockOpeners,
      word.toList.head?.any Text.isAlphabetic = true ∧ word ∉ Lexer.wordOperators := by
    decide
  by_cases hc : Text.isAlphabetic c = true
  · obtain ⟨hcode, hkind⟩ := h.takeWhile_code hc
    rw [hcode, String.ofList_toList, Token.isIdentifier, hkind]
    cases hopener : Vocabulary.blockOpeners.contains t.text with
    | false => simp
    | true =>
        have hno := (hletters t.text (by simpa using hopener)).2
        simp [hno]
  · -- Words that open blocks start with a letter.
    have hcode : String.ofList (code.takeWhile Text.isWordChar) ∉ Vocabulary.blockOpeners := by
      intro hmem
      have hletter := (hletters _ hmem).1
      rw [h.code_eq, List.takeWhile_cons] at hletter
      split at hletter
      · exact hc (by simpa using hletter)
      · simp at hletter
    have htext : t.text ∉ Vocabulary.blockOpeners := by
      intro hmem
      have hletter := (hletters _ hmem).1
      rw [h.text_eq] at hletter
      exact hc (by simpa using hletter)
    simp [hcode, htext]

end StartsWith

/-! ## Operators at the front -/

theorem head?_of_startsWithOperator {code : List Char} {op : String}
    (h : startsWithOperator code op = true) {d : Char} (hd : op.toList.head? = some d) :
    code.head? = some d := by
  rw [startsWithOperator, Bool.and_eq_true, List.isPrefixOf_iff_prefix] at h
  obtain ⟨rest, rfl⟩ := h.1
  rw [List.head?_append, hd]
  rfl

/-- The characters that operators start with, apart from letters. -/
def symbolHeads : List Char := '!' :: Lexer.singleOperators

theorem head?_leadingOperators {op : String} (h : op ∈ Vocabulary.leadingOperators) :
    ∃ d, op.toList.head? = some d ∧
      (Text.isAlphabetic d = true ∧ (op = "or" ∨ op = "and") ∨
        Text.isAlphabetic d = false ∧ d ∈ symbolHeads) := by
  have hall : ∀ op ∈ Vocabulary.leadingOperators, op.toList.head?.any (fun d =>
      Text.isAlphabetic d && (op == "or" || op == "and") ||
        !Text.isAlphabetic d && symbolHeads.contains d) = true := by
    decide
  obtain ⟨d, hd, hcases⟩ := Option.any_eq_true _ _ |>.1 (hall op h)
  refine ⟨d, hd, ?_⟩
  simpa using hcases

/-- A character that an operator may start with. -/
def IsOperatorHead (c : Char) : Prop := Text.isAlphabetic c = true ∨ c ∈ symbolHeads

theorem exists_head?_leadingOperators {op : String} (h : op ∈ Vocabulary.leadingOperators) :
    ∃ d, op.toList.head? = some d ∧ IsOperatorHead d := by
  obtain ⟨d, hd, ⟨hletter, -⟩ | ⟨-, hsymbol⟩⟩ := head?_leadingOperators h
  · exact ⟨d, hd, Or.inl hletter⟩
  · exact ⟨d, hd, Or.inr hsymbol⟩

/-- A line that starts with another character does not lead a continuation. -/
theorem leadsContinuation_eq_false {l : LineShape}
    (h : ∀ c, l.code.head? = some c → ¬ IsOperatorHead c) : l.leadsContinuation = false := by
  have hline : Vocabulary.leadingOperators.any (startsWithOperator l.code) = false := by
    rw [List.any_eq_false]
    intro op hop hstart
    obtain ⟨d, hd, hhead⟩ := exists_head?_leadingOperators hop
    exact h d (head?_of_startsWithOperator hstart hd) hhead
  rw [LineShape.leadsContinuation, hline, Bool.and_false]

/-- A symbol starts a token that is an operator or a single character. -/
theorem shape_symbol {c : Char} (hc : c ∈ symbolHeads) {cs : List Char}
    (hslash : ¬ (c = '/' ∧ cs.head? = some '/')) : Lexer.shape c cs = Lexer.symbolShape c cs := by
  have hall : ∀ c ∈ symbolHeads, c ≠ '\n' ∧ ¬ (c = '"' ∨ c = '\'') ∧ c ≠ '#' ∧ c.isDigit = false ∧
      c ≠ '.' ∧ ¬ (Text.isAlphabetic c = true ∨ c = '_') :=
    Lexer.forall_mem_of_all (by decide)
  obtain ⟨hnewline, hquote, hcolor, hdigit, hpoint, hword⟩ := hall c hc
  have hnumber : ¬ (c.isDigit = true ∨ (c = '.' ∧ cs.head?.any Char.isDigit = true)) := by
    simp [hdigit, hpoint]
  rw [Lexer.shape, if_neg hnewline, if_neg hslash, if_neg hquote, if_neg (fun h => hcolor h.1),
    if_neg hnumber, if_neg hword]

/-- Is the token an assignment that also computes? -/
def Token.isCompoundAssignment (t : Token) : Bool :=
  t.kind == .operator && ["+=", "-=", "*=", "/=", "%="].contains t.text

namespace StartsWith

variable {l : LineShape} {t : Token} {c : Char} {ds w : List Char}

theorem leadsContinuation_word (h : StartsWith l.code t c ds w) (hc : Text.isAlphabetic c = true) :
    l.leadsContinuation = t.leadsContinuation := by
  obtain ⟨hcode, hkind⟩ := h.takeWhile_code hc
  have hstarts (op : String) (hop : op = "or" ∨ op = "and") :
      startsWithOperator l.code op = true ↔ t.text = op := by
    rw [startsWithOperator_iff (by rcases hop with rfl | rfl <;> decide), hcode, String.toList_inj]
  have harrow : startsWithOperator l.code "=>" = false := by
    rw [Bool.eq_false_iff]
    intro harrow
    have hhead := head?_of_startsWithOperator harrow rfl
    rw [h.code_eq, List.head?_cons, Option.some.injEq] at hhead
    rw [hhead] at hc
    revert hc
    decide
  rw [Bool.eq_iff_iff, LineShape.leadsContinuation, harrow, Bool.not_false, Bool.true_and,
    List.any_eq_true]
  constructor
  · rintro ⟨op, hop, hstart⟩
    obtain ⟨d, hd, ⟨-, hword⟩ | ⟨hd', -⟩⟩ := head?_leadingOperators hop
    · obtain rfl := (hstarts op hword).1 hstart
      rcases hword with hword | hword <;> rw [Token.leadsContinuation, hkind, hword] <;> decide
    · have hhead := head?_of_startsWithOperator hstart hd
      rw [h.code_eq, List.head?_cons, Option.some.injEq] at hhead
      rw [← hhead, hc] at hd'
      cases hd'
  · intro ht
    rw [Token.leadsContinuation, Bool.and_eq_true, List.contains_iff_mem] at ht
    obtain ⟨d, hd, ⟨-, hword⟩ | ⟨hd', -⟩⟩ := head?_leadingOperators ht.2
    · exact ⟨t.text, ht.2, (hstarts t.text hword).2 rfl⟩
    · rw [h.text_eq, List.head?_cons, Option.some.injEq] at hd
      rw [← hd, hc] at hd'
      cases hd'

/-- An operator of two characters at the front leads a continuation for the line and the token
alike, unless it is a compound assignment. -/
theorem leadsContinuation_double {d : Char} {x : List Char} (hcode : l.code = c :: d :: x)
    (hkind : t.kind = .operator) (htext : t.text.toList = [c, d])
    (hdouble : (c, d) ∈ Lexer.doubleOperators) (hassign : t.isCompoundAssignment = false) :
    l.leadsContinuation = t.leadsContinuation := by
  rw [LineShape.leadsContinuation, hcode, Token.leadsContinuation, hkind,
    ← String.ofList_toList (s := t.text), htext]
  rw [Token.isCompoundAssignment, hkind, ← String.ofList_toList (s := t.text), htext] at hassign
  simp only [Lexer.doubleOperators, List.mem_cons, Prod.mk.injEq, List.not_mem_nil, or_false]
    at hdouble
  rcases hdouble with ⟨rfl, rfl⟩ | ⟨rfl, rfl⟩ | ⟨rfl, rfl⟩ | ⟨rfl, rfl⟩ | ⟨rfl, rfl⟩ | ⟨rfl, rfl⟩ |
    ⟨rfl, rfl⟩ | ⟨rfl, rfl⟩ | ⟨rfl, rfl⟩ | ⟨rfl, rfl⟩ | ⟨rfl, rfl⟩
  all_goals first
    | rfl
    | exact absurd hassign (by decide)

/-- A single operator at the front leads a continuation, and other symbols do not. -/
theorem leadsContinuation_single (hcode : l.code = c :: w) (hc : c ∈ symbolHeads)
    (hkind : t.kind = if Lexer.singleOperators.contains c then .operator else .punctuation)
    (htext : t.text.toList = [c])
    (hdouble : w.head?.any (fun d => Lexer.doubleOperators.contains (c, d)) = false) :
    l.leadsContinuation = t.leadsContinuation := by
  rw [LineShape.leadsContinuation, hcode, Token.leadsContinuation, hkind,
    ← String.ofList_toList (s := t.text), htext]
  have hnext {e : Char} (he : (c, e) ∈ Lexer.doubleOperators) : w.head? ≠ some e := by
    intro hw
    simp [hw, he] at hdouble
  have hprefix {e : Char} (he : w.head? ≠ some e) : [e].isPrefixOf w = false := by
    cases w with
    | nil => rfl
    | cons d w =>
        have hne : d ≠ e := by simpa using he
        simp [List.isPrefixOf, Ne.symm hne]
  by_cases hbang : c = '!'
  · subst hbang
    simp [startsWithOperator, Vocabulary.leadingOperators, List.isPrefixOf,
      hprefix (hnext (e := '=') (by decide)), Lexer.singleOperators]
  · by_cases hequal : c = '='
    · subst hequal
      have harrow : startsWithOperator ('=' :: w) "=>" = false := by
        simp [startsWithOperator, hprefix (hnext (e := '>') (by decide))]
      have hany : Vocabulary.leadingOperators.any (startsWithOperator ('=' :: w)) = true :=
        List.any_eq_true.2 ⟨"=", by decide, rfl⟩
      rw [harrow, hany]
      rfl
    · simp only [symbolHeads, Lexer.singleOperators, List.mem_cons, List.not_mem_nil,
        or_false] at hc
      rcases hc with rfl | rfl | rfl | rfl | rfl | rfl | rfl | rfl | rfl | rfl | rfl
      all_goals first
        | rfl
        | contradiction

/-- At a symbol, the line and the token lead a continuation together, unless the token is a compound
assignment. -/
theorem leadsContinuation_symbol (h : StartsWith l.code t c ds w) (hc : c ∈ symbolHeads)
    (ht : t.isCode = true) (hassign : t.isCompoundAssignment = false) :
    l.leadsContinuation = t.leadsContinuation := by
  obtain ⟨hcode, hprefix, hkind, htext, htoken⟩ := h
  have hslash : ¬ (c = '/' ∧ ds.head? = some '/') := by
    rintro ⟨rfl, hds⟩
    rw [Token.isCode, hkind] at ht
    simp [Lexer.shape, hds] at ht
  rw [shape_symbol hc hslash, Lexer.symbolShape] at hkind htext htoken
  cases hdouble : ds.head?.any (fun d => Lexer.doubleOperators.contains (c, d)) with
  | true =>
      rw [if_pos hdouble] at hkind htext htoken
      cases ds with
      | nil => simp at hdouble
      | cons d ds =>
          obtain ⟨x, rfl⟩ := htoken (by simp [hkind])
          exact leadsContinuation_double hcode hkind htext (by simpa using hdouble) hassign
  | false =>
      have hextent : (if Lexer.singleOperators.contains c then Lexer.Shape.mk .operator 0
          else ⟨.punctuation, 0⟩).extent = 0 := by
        split <;> rfl
      rw [if_neg (Bool.eq_false_iff.1 hdouble)] at hkind htext
      rw [hextent] at htext
      refine leadsContinuation_single hcode hc ?_ htext ?_
      · rw [hkind]
        split <;> rfl
      · obtain ⟨r, rfl⟩ := hprefix
        cases w with
        | nil => rfl
        | cons d w => exact hdouble

/-- The line leads a continuation if its first token does, unless that is a compound assignment. -/
theorem leadsContinuation_first (h : StartsWith l.code t c ds w) (ht : t.isCode = true)
    (hassign : t.isCompoundAssignment = false) : l.leadsContinuation = t.leadsContinuation := by
  by_cases hword : Text.isAlphabetic c = true
  · exact h.leadsContinuation_word hword
  · by_cases hsymbol : c ∈ symbolHeads
    · exact h.leadsContinuation_symbol hsymbol ht hassign
    · have hhead : ¬ IsOperatorHead c := not_or.2 ⟨hword, hsymbol⟩
      have htoken : t.text ∉ Vocabulary.leadingOperators := by
        intro hop
        obtain ⟨d, hd, hd'⟩ := exists_head?_leadingOperators hop
        rw [h.text_eq, List.head?_cons, Option.some.injEq] at hd
        exact hhead (hd ▸ hd')
      rw [leadsContinuation_eq_false (by simpa [h.code_eq] using hhead)]
      simp [Token.leadsContinuation, htoken]

end StartsWith

/-- A line with a carriage return in front does not lead a continuation. -/
theorem leadsContinuation_return {line : List Char} (h : '\r' ∈ line.takeWhile Lexer.isGap)
    (depth : Nat) : (LineShape.ofLine depth line).leadsContinuation = false := by
  have hdrop : (line.dropWhile isMarginChar).head? = some '\r' := by
    induction line with
    | nil => simp at h
    | cons c cs ih =>
        rw [List.takeWhile_cons] at h
        rw [List.dropWhile_cons]
        by_cases hc : c = '\r'
        · subst hc
          rfl
        · split at h
          case isTrue hgap =>
            rw [if_pos (isMarginChar_of_isGap hgap hc)]
            exact ih (List.mem_of_ne_of_mem (Ne.symm hc) h)
          case isFalse => simp at h
  refine leadsContinuation_eq_false fun c hc => ?_
  obtain ⟨rest, hrest⟩ := code_isPrefix depth line
  rw [← hrest, List.head?_append, hc, Option.some_or, Option.some.injEq] at hdrop
  rw [hdrop]
  rintro (hletter | hsymbol)
  · revert hletter
    decide
  · revert hsymbol
    decide

end ChartLint
