import ChartLint.Proofs.FindingPlaces
import ChartLint.Proofs.LineBack
import Mathlib.Data.List.Find

/-!
# Strings and comments do not matter for the layout

Two lines may differ in what stands between the quotes of a closed string, and in the text of their
comment.  The layout is judged alike for both, although it looks for operators and words at the ends
of a line without regard to quotes.

*Ends.*  The codes of two such lines are equal, or they are equal up to a quote and again from a quote
on (`SameEnds`).  This survives trimming, since a quote is no blank.

*Operators and words.*  They hold no quote.  So one that is found at the front ends in front of the
first quote, and what is looked up behind it is that quote at the latest (`startsWithOperator_quote`).
One that is found at the back starts behind the last quote (`trailingOperator?_quote`).

*Columns.*  An operator at the end stands behind the middle, and what is exchanged there is no tab.

*Shapes.*  So the shapes of the lines show the same (`LineShape.LooksAlike`), and nothing else of them
reaches the findings (`Layout.checkFrom_looksAlike`).
-/

namespace ChartLint

/-! ## Lines that differ in strings and comments -/

/-- Is it one of the two quotes? -/
def IsQuote (c : Char) : Prop :=
  c = '"' ∨ c = '\''

namespace IsQuote

variable {q : Char}

theorem isMarginChar (hq : IsQuote q) : isMarginChar q = false := by
  rcases hq with rfl | rfl
  · rfl
  · rfl

theorem isBlank (hq : IsQuote q) : Text.isBlank q = false := by
  rcases hq with rfl | rfl
  · decide +kernel
  · decide +kernel

theorem isWordChar (hq : IsQuote q) : Text.isWordChar q = false := by
  rcases hq with rfl | rfl
  · decide +kernel
  · decide +kernel

theorem ne_slash (hq : IsQuote q) : q ≠ '/' := by
  rintro rfl
  rcases hq with hq | hq <;> cases hq

theorem ne_backslash (hq : IsQuote q) : q ≠ '\\' := by
  rintro rfl
  rcases hq with hq | hq <;> cases hq

end IsQuote

/-- A character that may be exchanged in a string: no quote, no backslash and no tab. -/
def isFiller (c : Char) : Bool :=
  c != '"' && c != '\'' && c != '\\' && c != '\t'

/-- May the two characters stand in a string at the same place? -/
def Exchangeable (c c' : Char) : Prop :=
  c = c' ∨ (isFiller c = true ∧ isFiller c' = true)

/-- Characters of two lines that are the same, apart from characters inside of strings that are closed
and apart from the text of a comment.  `quote` is the quote that closes the string being read, if
there is one. -/
inductive SameButText : Option Char → List Char → List Char → Prop
  /-- The rest of the lines is the same. -/
  | same (cs : List Char) : SameButText none cs cs
  /-- Comments, of any text. -/
  | comment (text text' : List Char) :
      SameButText none ('/' :: '/' :: text) ('/' :: '/' :: text')
  /-- A character outside strings that starts no comment. -/
  | code {c : Char} {cs cs' : List Char} (hquote : ¬ IsQuote c)
      (hcomment : ¬ (c = '/' ∧ cs.head? = some '/')) (h : SameButText none cs cs') :
      SameButText none (c :: cs) (c :: cs')
  /-- The quote that opens a string. -/
  | opening {q : Char} {cs cs' : List Char} (hq : IsQuote q) (h : SameButText (some q) cs cs') :
      SameButText none (q :: cs) (q :: cs')
  /-- A character of a string behind a backslash. -/
  | escaped {q c c' : Char} {cs cs' : List Char} (hc : Exchangeable c c')
      (h : SameButText (some q) cs cs') : SameButText (some q) ('\\' :: c :: cs) ('\\' :: c' :: cs')
  /-- Another character of a string. -/
  | inside {q c c' : Char} {cs cs' : List Char} (hescape : c ≠ '\\') (hclose : c ≠ q)
      (hc : Exchangeable c c') (h : SameButText (some q) cs cs') :
      SameButText (some q) (c :: cs) (c' :: cs')
  /-- The quote that closes a string. -/
  | closing {q : Char} {cs cs' : List Char} (h : SameButText none cs cs') :
      SameButText (some q) (q :: cs) (q :: cs')

/-- The two lines are the same, apart from the contents of closed strings and the text of a comment. -/
def SameLine (line line' : String) : Prop :=
  SameButText none line.toList line'.toList

namespace SameButText

variable {quote : Option Char} {cs cs' : List Char}

/-- Outside strings both lines go on with the same character. -/
theorem head?_eq (h : SameButText none cs cs') : cs.head? = cs'.head? := by
  cases h with
  | same => rfl
  | comment => rfl
  | code => rfl
  | opening => rfl

/-- The lines have the same margin, and they are the same behind it apart from strings and comments. -/
theorem margin (h : SameButText quote cs cs') (hnone : quote = none) :
    cs.takeWhile isMarginChar = cs'.takeWhile isMarginChar ∧
      SameButText none (cs.dropWhile isMarginChar) (cs'.dropWhile isMarginChar) := by
  induction h with
  | same cs => exact ⟨rfl, .same _⟩
  | comment text text' => exact ⟨rfl, .comment text text'⟩
  | @code c cs cs' hquote hcomment h ih =>
      obtain ⟨hmargin, hrest⟩ := ih rfl
      cases hc : isMarginChar c with
      | true => simpa [hc, hmargin] using hrest
      | false => simpa [hc] using SameButText.code hquote hcomment h
  | opening hq h =>
      simpa [hq.isMarginChar] using SameButText.opening hq h
  | escaped => cases hnone
  | inside => cases hnone
  | closing => cases hnone

end SameButText

/-! ## Codes with the same ends -/

theorem columns_append (tab : Nat) (cs ds : List Char) :
    LineShape.columns tab (cs ++ ds) =
      Word.add (LineShape.columns tab cs) (LineShape.columns tab ds) := by
  rw [columns_eq_sum, columns_eq_sum, columns_eq_sum, Word.mod_add, Word.add_mod, List.map_append,
    List.sum_append, Word.add_eq]

theorem columns_cons (tab : Nat) (c : Char) (cs : List Char) :
    LineShape.columns tab (c :: cs) =
      Word.add (Position.width tab c) (LineShape.columns tab cs) := by
  rw [columns_eq_sum, columns_eq_sum, Word.add_mod, Word.add_eq, List.map_cons, List.sum_cons]
  rfl

/-- Two codes that are equal, or equal up to a quote and again from a quote on.  What stands between
the two quotes takes the same columns. -/
inductive SameEnds : List Char → List Char → Prop
  /-- The codes are equal. -/
  | same (code : List Char) : SameEnds code code
  /-- The codes differ between two quotes. -/
  | between (front back : List Char) {mid mid' : List Char} {q q' : Char} (hq : IsQuote q)
      (hq' : IsQuote q') (hcolumns : ∀ tab, LineShape.columns tab mid = LineShape.columns tab mid') :
      SameEnds (front ++ q :: (mid ++ q' :: back)) (front ++ q :: (mid' ++ q' :: back))

namespace SameEnds

variable {code code' : List Char}

theorem cons (c : Char) (h : SameEnds code code') : SameEnds (c :: code) (c :: code') := by
  cases h with
  | same => exact .same _
  | between front back hq hq' hcolumns =>
      exact .between (c :: front) back hq hq' hcolumns

/-- A string in front of codes with the same ends. -/
theorem string {q : Char} (hq : IsQuote q) {mid mid' : List Char}
    (hcolumns : ∀ tab, LineShape.columns tab mid = LineShape.columns tab mid')
    (h : SameEnds code code') :
    SameEnds (q :: (mid ++ q :: code)) (q :: (mid' ++ q :: code')) := by
  cases h with
  | same => exact .between [] code hq hq hcolumns
  | @between front back inner inner' q₁ q₂ hq₁ hq₂ hinner =>
      -- What differs reaches from the first quote of all to the last one.
      have houter (tab : Nat) : LineShape.columns tab (mid ++ q :: (front ++ q₁ :: inner)) =
          LineShape.columns tab (mid' ++ q :: (front ++ q₁ :: inner')) := by
        simp only [columns_append, columns_cons, hcolumns, hinner]
      simpa using SameEnds.between [] back hq hq₂ houter

theorem trimRight_quote {q : Char} (hq : IsQuote q) (cs ds : List Char) :
    Text.trimRight (cs ++ q :: ds) = cs ++ q :: Text.trimRight ds := by
  have hcut : cs ++ q :: ds = (cs ++ [q]) ++ ds := by simp
  rw [hcut, trimRight_append List.getLast?_concat hq.isBlank, List.append_assoc]
  rfl

/-- Codes have the same ends when they are trimmed. -/
theorem trimRight (h : SameEnds code code') :
    SameEnds (Text.trimRight code) (Text.trimRight code') := by
  cases h with
  | same => exact .same _
  | @between front back mid mid' q q' hq hq' hcolumns =>
      have htrim (m : List Char) : Text.trimRight (front ++ q :: (m ++ q' :: back)) =
          front ++ q :: (m ++ q' :: Text.trimRight back) := by
        rw [trimRight_quote hq, trimRight_quote hq']
      rw [htrim, htrim]
      exact .between front (Text.trimRight back) hq hq' hcolumns

end SameEnds

/-! ## Reading the code -/

/-- What is read of two such lines from inside of a string: the rest of the string, which takes the
same columns in both, and codes with the same ends.  Outside strings it is codes with the same
ends. -/
def SameRest : Option Char → List Char → List Char → Prop
  | none, code, code' => SameEnds code code'
  | some q, code, code' => ∃ mid mid' rest rest', code = mid ++ q :: rest ∧
      code' = mid' ++ q :: rest' ∧
      (∀ tab, LineShape.columns tab mid = LineShape.columns tab mid') ∧ SameEnds rest rest'

theorem width_of_exchangeable {c c' : Char} (h : Exchangeable c c') (tab : Nat) :
    Position.width tab c = Position.width tab c' := by
  rcases h with rfl | ⟨hc, hc'⟩
  · rfl
  · simp only [isFiller, Bool.and_eq_true, bne_iff_ne] at hc hc'
    rw [Position.width, Position.width, if_neg hc.2, if_neg hc'.2]

/-- One more character of a string on both sides. -/
theorem SameRest.cons {q c c' : Char} {code code' : List Char} (hc : Exchangeable c c')
    (h : SameRest (some q) code code') : SameRest (some q) (c :: code) (c' :: code') := by
  obtain ⟨mid, mid', rest, rest', rfl, rfl, hcolumns, hrest⟩ := h
  refine ⟨c :: mid, c' :: mid', rest, rest', rfl, rfl, ?_, hrest⟩
  intro tab
  rw [columns_cons, columns_cons, hcolumns, width_of_exchangeable hc]

/-- A character that stands for one which neither escapes nor closes does neither. -/
theorem plain_of_exchangeable {q c c' : Char} (hq : IsQuote q) (hc : Exchangeable c c')
    (hescape : c ≠ '\\') (hclose : c ≠ q) : c' ≠ '\\' ∧ c' ≠ q := by
  rcases hc with rfl | ⟨-, hc'⟩
  · exact ⟨hescape, hclose⟩
  · simp only [isFiller, Bool.and_eq_true, bne_iff_ne] at hc'
    refine ⟨hc'.1.2, ?_⟩
    rintro rfl
    rcases hq with rfl | rfl
    · exact hc'.1.1.1 rfl
    · exact hc'.1.1.2 rfl

/-- The lines are read alike: to the same depth, and to codes with the same ends. -/
theorem readCode_sameButText {quote : Option Char} {cs cs' : List Char}
    (h : SameButText quote cs cs') (hquote : ∀ q, quote = some q → IsQuote q) (depth : Nat) :
    (readCode quote depth cs).2 = (readCode quote depth cs').2 ∧
      SameRest quote (readCode quote depth cs).1 (readCode quote depth cs').1 := by
  induction h generalizing depth with
  | same cs => exact ⟨rfl, .same _⟩
  | comment text text' =>
      rw [readCode_comment ⟨rfl, rfl⟩, readCode_comment ⟨rfl, rfl⟩]
      exact ⟨rfl, .same []⟩
  | @code c cs cs' hc hcomment h ih =>
      obtain ⟨hdepth, hcode⟩ := ih hquote (depthAfterChar depth c)
      rw [IsQuote] at hc
      have hcomment' : ¬ (c = '/' ∧ cs'.head? = some '/') := h.head?_eq ▸ hcomment
      rw [readCode_code hcomment, readCode_code hcomment', if_neg hc]
      exact ⟨hdepth, SameEnds.cons c hcode⟩
  | @opening q cs cs' hq h ih =>
      obtain ⟨hdepth, mid, mid', rest, rest', hread, hread', hcolumns, hrest⟩ :=
        ih (fun q' hq' => Option.some.inj hq' ▸ hq) (depthAfterChar depth q)
      have hslash (ds : List Char) : ¬ (q = '/' ∧ ds.head? = some '/') :=
        fun h => hq.ne_slash h.1
      have hopens : q = '"' ∨ q = '\'' := hq
      rw [readCode_code (hslash cs), readCode_code (hslash cs'), if_pos hopens]
      refine ⟨hdepth, ?_⟩
      rw [behindCode_fst, behindCode_fst, hread, hread']
      exact .string hq hcolumns hrest
  | @escaped q c c' cs cs' hc h ih =>
      obtain ⟨hdepth, hrest⟩ := ih hquote depth
      rw [readCode_escape, readCode_escape]
      exact ⟨hdepth, (hrest.cons hc).cons (.inl rfl)⟩
  | @inside q c c' cs cs' hescape hclose hc h ih =>
      obtain ⟨hdepth, hrest⟩ := ih hquote depth
      obtain ⟨hescape', hclose'⟩ := plain_of_exchangeable (hquote q rfl) hc hescape hclose
      rw [readCode_string hescape, readCode_string hescape', if_neg hclose, if_neg hclose']
      exact ⟨hdepth, hrest.cons hc⟩
  | @closing q cs cs' h ih =>
      obtain ⟨hdepth, hrest⟩ := ih nofun depth
      have hescape := (hquote q rfl).ne_backslash
      rw [readCode_string hescape, readCode_string hescape, if_pos rfl]
      exact ⟨hdepth, [], [], _, _, rfl, rfl, fun _ => rfl, hrest⟩

/-! ## Operators and words at the ends -/

/-- Is there no quote in the operator? -/
def isUnquoted (op : String) : Bool :=
  !(op.toList.contains '"' || op.toList.contains '\'')

theorem not_mem_of_isUnquoted {op : String} (h : isUnquoted op = true) {q : Char} (hq : IsQuote q) :
    q ∉ op.toList := by
  simp only [isUnquoted, Bool.not_eq_true', Bool.or_eq_false_iff, List.contains_eq_mem,
    decide_eq_false_iff_not] at h
  rcases hq with rfl | rfl
  · exact h.1
  · exact h.2

theorem leadingOperators_isUnquoted : ∀ op ∈ Vocabulary.leadingOperators, isUnquoted op = true := by
  decide

theorem trailingSymbols_isUnquoted : ∀ op ∈ trailingSymbols, isUnquoted op = true := by
  decide

theorem prefix_of_prefix_append_cons {w x y : List Char} {q : Char} (hq : q ∉ w)
    (h : w <+: x ++ q :: y) : w <+: x := by
  obtain ⟨t, ht⟩ := h
  rcases List.append_eq_append_iff.1 ht with ⟨a, rfl, -⟩ | ⟨a, rfl, ha⟩
  · exact List.prefix_append w a
  · cases a with
    | nil => simp
    | cons c a =>
        obtain ⟨rfl, -⟩ := List.cons.inj ha
        simp at hq

theorem suffix_of_suffix_append_cons {w x y : List Char} {q : Char} (hq : q ∉ w)
    (h : w <:+ x ++ q :: y) : w <:+ y := by
  have hreverse : w.reverse <+: y.reverse ++ q :: x.reverse := by
    simpa using List.reverse_prefix.2 h
  exact List.reverse_prefix.1 (prefix_of_prefix_append_cons (by simpa using hq) hreverse)

/-- Whether the code starts with an operator is seen in front of a quote. -/
theorem startsWithOperator_quote {op : String} (hop : isUnquoted op = true) {q : Char}
    (hq : IsQuote q) (front back : List Char) :
    startsWithOperator (front ++ q :: back) op = startsWithOperator (front ++ [q]) op := by
  have hmem := not_mem_of_isUnquoted hop hq
  have hprefix (ds : List Char) :
      op.toList.isPrefixOf (front ++ q :: ds) = op.toList.isPrefixOf front := by
    rw [Bool.eq_iff_iff, List.isPrefixOf_iff_prefix, List.isPrefixOf_iff_prefix]
    exact ⟨prefix_of_prefix_append_cons hmem, fun h => h.trans (List.prefix_append _ _)⟩
  rw [startsWithOperator, startsWithOperator, hprefix, hprefix]
  cases hfront : op.toList.isPrefixOf front with
  | false => rfl
  | true =>
      -- What stands behind the operator is in front of the quote, or the quote.
      have hlength := (List.isPrefixOf_iff_prefix.1 hfront).length_le
      rw [String.length_toList] at hlength
      have hnext (ds : List Char) : ((front ++ q :: ds).drop op.length).head? =
          ((front.drop op.length).head?.or (some q)) := by
        rw [List.drop_append_of_le_length hlength, List.head?_append, List.head?_cons]
      rw [hnext, hnext]

/-- What the code ends with is seen behind a quote. -/
theorem trailingOperator?_quote {q : Char} (hq : IsQuote q) (front back : List Char) :
    trailingOperator? (front ++ q :: back) = trailingOperator? back := by
  have hrun : (front ++ q :: back).rtakeWhile Text.isWordChar = back.rtakeWhile Text.isWordChar := by
    rw [List.rtakeWhile, List.reverse_append, List.reverse_cons, List.append_assoc,
      List.singleton_append, Lexer.takeWhile_append_boundary hq.isWordChar]
    rfl
  have hwords : trailingWords.find? (endsWithWord (front ++ q :: back)) =
      trailingWords.find? (endsWithWord back) := by
    refine List.find?_congr fun word hword => ?_
    have hword := trailingWords_all word hword
    rw [Bool.eq_iff_iff, endsWithWord_iff hword, endsWithWord_iff hword, hrun]
  have hsymbols : trailingSymbols.find? (·.toList.isSuffixOf (front ++ q :: back)) =
      trailingSymbols.find? (·.toList.isSuffixOf back) := by
    refine List.find?_congr fun op hop => ?_
    have hmem := not_mem_of_isUnquoted (trailingSymbols_isUnquoted op hop) hq
    rw [Bool.eq_iff_iff, List.isSuffixOf_iff_suffix, List.isSuffixOf_iff_suffix]
    refine ⟨suffix_of_suffix_append_cons hmem, fun h => ?_⟩
    exact h.trans ((List.suffix_cons q back).trans (List.suffix_append _ _))
  rw [trailingOperator?, trailingOperator?, hwords, hsymbols]

/-! ## Shapes that show the same -/

namespace LineShape

/-- Two shapes show the same: nothing that the judgement of the layout looks at tells them apart. -/
structure LooksAlike (l l' : LineShape) : Prop where
  /-- They have the same margin. -/
  margin : l.margin = l'.margin
  /-- The depth behind them is the same. -/
  depthAfter : l.depthAfter = l'.depthAfter
  /-- Both have code or none has. -/
  exempt : l.isExempt = l'.isExempt
  /-- Both are closing brackets or none is. -/
  closer : l.isLoneCloser = l'.isLoneCloser
  /-- Both start with an operator or none does. -/
  leads : l.leadsContinuation = l'.leadsContinuation
  /-- Both open a block or none does. -/
  opens : l.opensBlock = l'.opensBlock
  /-- They end with the same operator. -/
  trailing : l.trailing? = l'.trailing?
  /-- The operator is in the same column. -/
  column : ∀ tab op, l.trailing? = some op → l.trailingColumn tab op = l'.trailingColumn tab op

theorem LooksAlike.refl (l : LineShape) : l.LooksAlike l :=
  ⟨rfl, rfl, rfl, rfl, rfl, rfl, rfl, fun _ _ _ => rfl⟩

theorem LooksAlike.asksForMore {l l' : LineShape} (h : l.LooksAlike l') :
    l.asksForMore = l'.asksForMore := by
  rw [LineShape.asksForMore, LineShape.asksForMore, h.trailing]

/-- Whether the code leads on is seen in front of a quote. -/
theorem leadsContinuation_quote {q : Char} (hq : IsQuote q) (margin front back : List Char)
    (depth : Nat) : leadsContinuation ⟨margin, front ++ q :: back, depth⟩ =
      leadsContinuation ⟨margin, front ++ [q], depth⟩ := by
  have hany : Vocabulary.leadingOperators.any (startsWithOperator (front ++ q :: back)) =
      Vocabulary.leadingOperators.any (startsWithOperator (front ++ [q])) := by
    rw [Bool.eq_iff_iff, List.any_eq_true, List.any_eq_true]
    refine exists_congr fun op => and_congr_right fun hop => ?_
    rw [startsWithOperator_quote (leadingOperators_isUnquoted op hop) hq]
  have harrow : isUnquoted "=>" = true := by decide
  rw [leadsContinuation, leadsContinuation, hany, startsWithOperator_quote harrow hq]

/-- Closing brackets have no quote among them. -/
theorem isLoneCloser_quote {q : Char} (hq : IsQuote q) (margin front back : List Char)
    (depth : Nat) : isLoneCloser ⟨margin, front ++ q :: back, depth⟩ = false := by
  have hall : (front ++ q :: back).all (fun c => isClosingChar c || c == ',') = false := by
    rw [List.all_eq_false]
    refine ⟨q, by simp, ?_⟩
    rcases hq with rfl | rfl
    · decide
    · decide
  rw [isLoneCloser, hall, Bool.and_false]

/-- An operator at the end is in the same column, if what differs in front of it takes the same
columns. -/
theorem trailingColumn_between {mid mid' : List Char}
    (hcolumns : ∀ tab, columns tab mid = columns tab mid') (margin front inner : List Char)
    (q q' : Char) (depth tab : Nat) (op : String) :
    trailingColumn ⟨margin, front ++ q :: (mid ++ q' :: (inner ++ op.toList)), depth⟩ tab op =
      trailingColumn ⟨margin, front ++ q :: (mid' ++ q' :: (inner ++ op.toList)), depth⟩ tab op := by
  have hcut (m : List Char) : front ++ q :: (m ++ q' :: (inner ++ op.toList)) =
      (front ++ q :: (m ++ q' :: inner)) ++ op.toList := by simp
  rw [trailingColumn_of_code_eq (hcut mid), trailingColumn_of_code_eq (hcut mid')]
  simp only [columns_append, columns_cons, hcolumns]

/-- Codes with the same ends show the same. -/
theorem looksAlike_of_sameEnds {margin code code' : List Char} {depth : Nat}
    (h : SameEnds code code') :
    LooksAlike ⟨margin, code, depth⟩ ⟨margin, code', depth⟩ := by
  cases h with
  | same => exact .refl _
  | @between front back mid mid' q q' hq hq' hcolumns =>
      have htrailing (m : List Char) :
          trailingOperator? (front ++ q :: (m ++ q' :: back)) = trailingOperator? back := by
        rw [trailingOperator?_quote hq, trailingOperator?_quote hq']
      have hword (m : List Char) : (front ++ q :: m).takeWhile Text.isWordChar =
          front.takeWhile Text.isWordChar :=
        Lexer.takeWhile_append_boundary hq.isWordChar front m
      refine ⟨rfl, rfl, ?exempt, ?closer, ?leads, ?opens, ?trailing, ?column⟩
      case exempt => cases front <;> rfl
      case closer => rw [isLoneCloser_quote hq, isLoneCloser_quote hq]
      case leads =>
        exact (leadsContinuation_quote hq _ _ _ _).trans (leadsContinuation_quote hq _ _ _ _).symm
      case opens => simp only [opensBlock, trailing?, htrailing, hword]
      case trailing => rw [trailing?, trailing?, htrailing, htrailing]
      case column =>
        intro tab op hop
        rw [trailing?, htrailing] at hop
        have hsuffix : op.toList <:+ back := suffix_of_trailing? (l := ⟨[], back, 0⟩) hop
        obtain ⟨inner, rfl⟩ := hsuffix
        exact trailingColumn_between hcolumns margin front inner q q' depth tab op

end LineShape

/-- Lines that are the same apart from strings and comments show the same at every depth. -/
theorem looksAlike_ofLine {line line' : List Char} (h : SameButText none line line') (depth : Nat) :
    (LineShape.ofLine depth line).LooksAlike (LineShape.ofLine depth line') := by
  obtain ⟨hmargin, hrest⟩ := h.margin rfl
  obtain ⟨hdepth, hcode⟩ := readCode_sameButText hrest nofun depth
  have hshape : LineShape.ofLine depth line' = ⟨line.takeWhile isMarginChar,
      Text.trimRight (readCode none depth (line'.dropWhile isMarginChar)).1,
      (readCode none depth (line.dropWhile isMarginChar)).2⟩ := by
    rw [hmargin, hdepth]
    rfl
  rw [hshape]
  exact LineShape.looksAlike_of_sameEnds hcode.trimRight

namespace Layout

/-! ## Findings -/

/-- Lines of the same number whose shapes show the same. -/
structure Previous.LooksAlike (p p' : Previous) : Prop where
  /-- They have the same number. -/
  number : p.number = p'.number
  /-- Their shapes show the same. -/
  shape : p.shape.LooksAlike p'.shape

theorem continues_looksAlike {previous previous' : Option Previous}
    (hprevious : Option.Rel Previous.LooksAlike previous previous') {l l' : LineShape}
    (h : l.LooksAlike l') (depth : Nat) :
    continues previous depth l = continues previous' depth l' := by
  cases hprevious with
  | none => rfl
  | some hp =>
      simp only [continues, Option.any_some, hp.shape.asksForMore, hp.shape.opens, h.leads]

theorem indentationFinding_looksAlike {l l' : LineShape} (h : l.LooksAlike l') (s : Settings)
    (number base : Nat) : indentationFinding s number l base = indentationFinding s number l' base := by
  have htab : l.hasTab = l'.hasTab := by rw [LineShape.hasTab, LineShape.hasTab, h.margin]
  have hindent : l.indent s.tabWidth = l'.indent s.tabWidth := by
    rw [LineShape.indent, LineShape.indent, h.margin]
  have hmessage (expected : Nat) : indentationMessage s.tabWidth l base expected =
      indentationMessage s.tabWidth l' base expected := by
    rw [indentationMessage, indentationMessage, h.closer, htab, hindent]
  rw [indentationFinding, indentationFinding, htab, hindent, hmessage]

theorem placementFinding_looksAlike {p p' : Previous} (h : p.LooksAlike p') (s : Settings) :
    placementFinding s p = placementFinding s p' := by
  rw [placementFinding, placementFinding, ← h.shape.trailing]
  cases htrailing : p.shape.trailing? with
  | none => rfl
  | some op => simp only [h.number, h.shape.column s.tabWidth op htrailing]

/-- Lines that show the same have the same findings. -/
theorem checkFrom_looksAlike (s : Settings) {ls ls' : List (List Char)}
    (h : List.Forall₂ (SameButText none) ls ls') {previous previous' : Option Previous}
    (hprevious : Option.Rel Previous.LooksAlike previous previous') (depth base number : Nat) :
    checkFrom s depth previous base number ls = checkFrom s depth previous' base number ls' := by
  induction h generalizing previous previous' depth base number with
  | nil => rfl
  | @cons line line' rest rest' hline hrest ih =>
      have halike := looksAlike_ofLine hline depth
      have hheld : Option.Rel Previous.LooksAlike (some ⟨number, .ofLine depth line⟩)
          (some ⟨number, .ofLine depth line'⟩) := .some ⟨rfl, halike⟩
      have hplacement : previous.toList.flatMap (placementFinding s) =
          previous'.toList.flatMap (placementFinding s) := by
        cases hprevious with
        | none => rfl
        | some hp => simp [placementFinding_looksAlike hp s]
      have hindent : (LineShape.ofLine depth line).indent s.tabWidth =
          (LineShape.ofLine depth line').indent s.tabWidth := by
        rw [LineShape.indent, LineShape.indent, halike.margin]
      rw [checkFrom, checkFrom]
      simp only [halike.exempt, continues_looksAlike hprevious halike depth,
        indentationFinding_looksAlike halike s number base, hplacement, hindent, halike.depthAfter,
        ih hprevious, ih hheld]

/-- The contents of strings and the text of comments have no part in the layout.  Lines that are the
same apart from them have the same findings, whatever the settings are. -/
theorem check_eq_of_sameLine {lines lines' : List String}
    (h : List.Forall₂ SameLine lines lines') (s : Settings) : check s lines = check s lines' := by
  have hlines : List.Forall₂ (SameButText none) (lines.map String.toList)
      (lines'.map String.toList) := by
    rw [List.forall₂_map_left_iff, List.forall₂_map_right_iff]
    exact h
  exact checkFrom_looksAlike s hlines .none 0 0 1

/-- A string with a bracket, an operator and the start of a comment inside, in front of an operator
and a comment. -/
theorem check_eq_of_sameLine_operator :
    let lines := ["\"(//\\n\" + // a", "b"]
    let lines' := ["\"and\\r\" + // \"b", "b"]
    List.Forall₂ SameLine lines lines' ∧ check {} lines = check {} lines' ∧
      (check {} lines).map (·.category) = [.badIndentation, .operatorPlacement] := by
  intro lines lines'
  have hfiller {c c' : Char} (hc : isFiller c = true) (hc' : isFiller c' = true) :
      Exchangeable c c' := .inr ⟨hc, hc'⟩
  have hfirst : SameButText none "\"(//\\n\" + // a".toList "\"and\\r\" + // \"b".toList := by
    have hline : "\"(//\\n\" + // a".toList =
        '"' :: '(' :: '/' :: '/' :: '\\' :: 'n' :: '"' :: ' ' :: '+' :: ' ' :: '/' :: '/' ::
          " a".toList := by decide
    have hline' : "\"and\\r\" + // \"b".toList =
        '"' :: 'a' :: 'n' :: 'd' :: '\\' :: 'r' :: '"' :: ' ' :: '+' :: ' ' :: '/' :: '/' ::
          " \"b".toList := by decide
    rw [hline, hline']
    refine .opening (.inl rfl) ?_
    refine .inside (by decide) (by decide) (hfiller rfl rfl) ?_
    refine .inside (by decide) (by decide) (hfiller rfl rfl) ?_
    refine .inside (by decide) (by decide) (hfiller rfl rfl) ?_
    refine .escaped (hfiller rfl rfl) (.closing ?_)
    refine .code (by simp [IsQuote]) (by simp) ?_
    refine .code (by simp [IsQuote]) (by simp) ?_
    refine .code (by simp [IsQuote]) (by simp) ?_
    exact .comment _ _
  have hlines : List.Forall₂ SameLine lines lines' := .cons hfirst (.cons (.same _) .nil)
  exact ⟨hlines, check_eq_of_sameLine hlines {}, by decide +kernel⟩

end Layout

end ChartLint
