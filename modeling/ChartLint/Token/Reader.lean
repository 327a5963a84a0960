import ChartLint.Token.Lexer

/-!
# Reading tokens character by character

The reader has a cursor in the script.  It looks at the characters ahead, pushes characters to the
text of the token that it reads, and moves the cursor on.  Pushing and moving are two steps, and each
kind of token has its own way to take them.  The cursor counts columns in machine words.

A token and what is behind it are held in a `Draft`.  Whatever the kind of the token is, the reader
pushes just the characters that it moves over: it *cuts* a run of characters off the script
(`Draft.cut`).  How long the run is is told by the shape of the token (`Draft.readToken_eq`).  So the
reader finds the tokens of the lexer, each at the position that a word can hold (`readTokens_eq`).
-/

namespace ChartLint

/-- A token that is being read, and the cursor behind it. -/
structure Draft where
  /-- The characters of the token so far. -/
  text : List Char
  /-- The characters ahead. -/
  rest : List Char
  /-- Where the cursor is. -/
  position : Position

namespace Draft

/-- The next character. -/
def peek? (d : Draft) : Option Char :=
  d.rest.head?

/-- The character behind the next `n` ones. -/
def peekAt? (d : Draft) (n : Nat) : Option Char :=
  d.rest[n]?

/-- One more character of the token.  The cursor stays. -/
def push (d : Draft) (c : Char) : Draft :=
  { d with text := d.text ++ [c] }

/-- Move the cursor over one character.  The token stays. -/
def advance (tab : Nat) (d : Draft) : Draft :=
  match d.rest with
  | [] => d
  | c :: rest => { d with rest, position := d.position.stepWord tab c }

theorem length_rest_advance {d : Draft} {c : Char} (h : d.peek? = some c) (tab : Nat) :
    (d.advance tab).rest.length < d.rest.length := by
  obtain ⟨text, rest, position⟩ := d
  cases rest with
  | nil => cases h
  | cons c rest => exact Nat.lt_succ_self rest.length

/-- Take characters as long as they satisfy `p`. -/
def takeWhile (tab : Nat) (p : Char → Bool) (d : Draft) : Draft :=
  match _hc : d.peek? with
  | none => d
  | some c => if p c then takeWhile tab p ((d.push c).advance tab) else d
termination_by d.rest.length
decreasing_by exact length_rest_advance (d := d.push c) _hc tab

/-- Take the inside of a string and the quote that closes it.  The end of the line ends the string
too, and a backslash takes the next character with it. -/
def takeString (tab : Nat) (quote : Char) (d : Draft) : Draft :=
  match _hc : d.peek? with
  | none => d
  | some c =>
    if c = '\n' then d
    else if c = '\\' then
      match _he : ((d.push c).advance tab).peek?.filter (· ≠ '\n') with
      | some e => takeString tab quote ((((d.push c).advance tab).push e).advance tab)
      | none => takeString tab quote ((d.push c).advance tab)
    else if c = quote then (d.push c).advance tab
    else takeString tab quote ((d.push c).advance tab)
termination_by d.rest.length
decreasing_by
  · have hnext : (((d.push c).advance tab).push e).peek? = some e :=
      Option.eq_some_of_filter_eq_some _he
    exact Nat.lt_trans (length_rest_advance hnext tab) (length_rest_advance (d := d.push c) _hc tab)
  all_goals exact length_rest_advance (d := d.push c) _hc tab

/-- Take a point that no letter follows, and digits. -/
def takeFraction (tab : Nat) (d : Draft) : Draft :=
  if d.peek? = some '.' ∧ (d.peekAt? 1).any Text.isAlphabetic = false then
    ((d.push '.').advance tab).takeWhile tab Char.isDigit
  else d

/-- Take a number of characters, or as many as there are. -/
def takeNext (tab : Nat) : Nat → Draft → Draft
  | 0, d => d
  | n + 1, d =>
    match d.peek? with
    | some c => takeNext tab n ((d.advance tab).push c)
    | none => takeNext tab n d

/-- Take an exponent: a letter, a sign if there is one, and digits if there is one. -/
def takeExponent (tab : Nat) (d : Draft) : Draft :=
  if d.peek? = some 'e' ∨ d.peek? = some 'E' then
    let digitAt := if d.peekAt? 1 = some '+' ∨ d.peekAt? 1 = some '-' then 2 else 1
    if (d.peekAt? digitAt).any Char.isDigit then
      (d.takeNext tab digitAt).takeWhile tab Char.isDigit
    else d
  else d

/-- Read a number. -/
def readNumber (tab : Nat) (d : Draft) : TokenKind × Draft :=
  (.numericLiteral, ((d.takeWhile tab Char.isDigit).takeFraction tab).takeExponent tab)

/-- Read a color. -/
def readColor (tab : Nat) (d : Draft) : TokenKind × Draft :=
  let color := ((d.push '#').advance tab).takeWhile tab Lexer.isHexDigit
  let digits := color.text.length - 1
  (if digits = 6 ∨ digits = 8 then .colorLiteral else .punctuation, color)

/-- Read a word. -/
def readWord (tab : Nat) (d : Draft) : TokenKind × Draft :=
  let word := d.takeWhile tab Text.isWordChar
  (if Lexer.wordOperators.contains (String.ofList word.text) then .operator else .identifier, word)

/-- Read an operator or another character. -/
def readSymbol (tab : Nat) (c : Char) (d : Draft) : TokenKind × Draft :=
  let single :=
    (if Lexer.singleOperators.contains c then .operator else .punctuation, (d.advance tab).push c)
  match d.peekAt? 1 with
  | none => single
  | some next =>
    if Lexer.doubleOperators.contains (c, next) then
      (.operator, (((d.advance tab).advance tab).push c).push next)
    else single

/-- Read the token that starts with `c`, the next character. -/
def readToken (tab : Nat) (c : Char) (d : Draft) : TokenKind × Draft :=
  if c = '\n' then (.newline, (d.advance tab).push '\n')
  else if c = '/' ∧ d.peekAt? 1 = some '/' then (.comment, d.takeWhile tab (· ≠ '\n'))
  else if c = '"' ∨ c = '\'' then (.stringLiteral, ((d.push c).advance tab).takeString tab c)
  else if c = '#' ∧ (d.peekAt? 1).any Lexer.isHexDigit then d.readColor tab
  else if c.isDigit ∨ (c = '.' ∧ (d.peekAt? 1).any Char.isDigit) then d.readNumber tab
  else if Text.isAlphabetic c ∨ c = '_' then d.readWord tab
  else d.readSymbol tab c

/-! ## Cutting -/

/-- Cut the next `n` characters off the script. -/
def cut (tab n : Nat) (d : Draft) : Draft :=
  ⟨d.text ++ d.rest.take n, d.rest.drop n, d.position.advanceWord tab (d.rest.take n)⟩

@[simp] theorem cut_zero (tab : Nat) (d : Draft) : d.cut tab 0 = d := by
  simp [cut, Position.advanceWord]

theorem cut_cut (tab n m : Nat) (d : Draft) : (d.cut tab n).cut tab m = d.cut tab (n + m) := by
  simp only [cut, List.drop_drop, List.take_add, List.append_assoc, Position.advanceWord_append]

@[simp] theorem rest_cut (tab n : Nat) (d : Draft) : (d.cut tab n).rest = d.rest.drop n := rfl

/-- To push the next character and move over it is to cut it off. -/
theorem advance_push {d : Draft} {c : Char} (h : d.peek? = some c) (tab : Nat) :
    (d.push c).advance tab = d.cut tab 1 := by
  obtain ⟨text, rest, position⟩ := d
  cases rest with
  | nil => cases h
  | cons c' rest =>
      cases h
      rfl

/-- Pushing and moving may be done in either order. -/
theorem push_advance_comm (tab : Nat) (d : Draft) (c : Char) :
    (d.advance tab).push c = (d.push c).advance tab := by
  obtain ⟨text, rest, position⟩ := d
  cases rest with
  | nil => rfl
  | cons c' rest => rfl

theorem push_advance {d : Draft} {c : Char} (h : d.peek? = some c) (tab : Nat) :
    (d.advance tab).push c = d.cut tab 1 := by
  rw [push_advance_comm, advance_push h]

theorem rest_cut_one {d : Draft} {c : Char} {rest : List Char} (h : d.rest = c :: rest)
    (tab : Nat) : (d.cut tab 1).rest = rest := by
  rw [rest_cut, h]
  rfl

/-! ## What is cut off -/

theorem takeWhile_eq (tab : Nat) (p : Char → Bool) (d : Draft) :
    d.takeWhile tab p = d.cut tab (Lexer.runLength p d.rest) := by
  fun_induction takeWhile tab p d with
  | case1 d hnone =>
      rw [List.head?_eq_none_iff.1 hnone]
      exact (cut_zero tab d).symm
  | case2 d c hc hp ih =>
      obtain ⟨rest, hrest⟩ := List.head?_eq_some_iff.1 hc
      rw [ih, advance_push hc, cut_cut, rest_cut_one hrest, hrest, Lexer.runLength, Lexer.runLength,
        List.takeWhile_cons_of_pos hp, List.length_cons, Nat.add_comm]
  | case3 d c hc hp =>
      obtain ⟨rest, hrest⟩ := List.head?_eq_some_iff.1 hc
      rw [hrest, Lexer.runLength, List.takeWhile_cons_of_neg hp]
      exact (cut_zero tab d).symm

theorem takeString_eq (tab : Nat) (quote : Char) (d : Draft) :
    d.takeString tab quote = d.cut tab (Lexer.stringExtent quote d.rest) := by
  fun_induction takeString tab quote d with
  | case1 d hnone =>
      rw [List.head?_eq_none_iff.1 hnone]
      exact (cut_zero tab d).symm
  | case2 d hc =>
      obtain ⟨rest, hrest⟩ := List.head?_eq_some_iff.1 hc
      rw [hrest, Lexer.stringExtent_newline, cut_zero]
  | case3 d e hc _ he ih =>
      -- The backslash takes the next character with it.
      obtain ⟨rest, hrest⟩ := List.head?_eq_some_iff.1 hc
      rw [advance_push hc] at he ih ⊢
      obtain ⟨hnext, hline⟩ := Option.filter_eq_some_iff.1 he
      obtain ⟨tail, htail⟩ := List.head?_eq_some_iff.1 hnext
      rw [ih, advance_push hnext, rest_cut_one htail, cut_cut, cut_cut, hrest,
        ← rest_cut_one hrest tab, htail, Lexer.stringExtent_escape (of_decide_eq_true hline)]
      exact congrArg (cut tab · d) (by omega)
  | case4 d hc _ he ih =>
      -- The string ends behind the backslash.
      obtain ⟨rest, hrest⟩ := List.head?_eq_some_iff.1 hc
      rw [advance_push hc, peek?, rest_cut_one hrest] at he
      rw [advance_push hc, rest_cut_one hrest] at ih
      rw [advance_push hc, ih, cut_cut, hrest]
      cases rest with
      | nil => rfl
      | cons e es =>
          obtain rfl : e = '\n' := by simpa using he
          simp [Lexer.stringExtent]
  | case5 d hc hn hb =>
      obtain ⟨rest, hrest⟩ := List.head?_eq_some_iff.1 hc
      rw [advance_push hc, hrest, Lexer.stringExtent_quote hn hb]
  | case6 d c hc hn hb hq ih =>
      obtain ⟨rest, hrest⟩ := List.head?_eq_some_iff.1 hc
      rw [ih, advance_push hc, cut_cut, rest_cut_one hrest, hrest, Lexer.stringExtent_other hn hb hq,
        Nat.add_comm]

theorem takeFraction_eq (tab : Nat) (d : Draft) :
    d.takeFraction tab = d.cut tab (Lexer.fractionExtent d.rest) := by
  by_cases hc : d.peek? = some '.'
  · obtain ⟨cs, hrest⟩ := List.head?_eq_some_iff.1 hc
    have hnext : d.peekAt? 1 = cs.head? := by
      rw [peekAt?, hrest, List.head?_eq_getElem?]
      rfl
    rw [takeFraction, hc, hnext, hrest, Lexer.fractionExtent]
    cases cs.head?.any Text.isAlphabetic with
    | true => simp
    | false =>
        rw [if_pos ⟨rfl, rfl⟩, if_neg Bool.false_ne_true, advance_push hc, takeWhile_eq, cut_cut,
          rest_cut_one hrest, Nat.add_comm]
  · have hnone : Lexer.fractionExtent d.rest = 0 := by
      rw [Lexer.fractionExtent.eq_2]
      rintro cs hrest
      exact hc (by rw [peek?, hrest]; rfl)
    rw [takeFraction, if_neg (fun h => hc h.1), hnone, cut_zero]

theorem takeNext_eq {tab n : Nat} {d : Draft} (h : n ≤ d.rest.length) :
    d.takeNext tab n = d.cut tab n := by
  induction n generalizing d with
  | zero => exact (cut_zero tab d).symm
  | succ n ih =>
      obtain ⟨c, rest, hrest⟩ := List.exists_cons_of_length_pos (Nat.zero_lt_of_lt h)
      have hc : d.peek? = some c := by rw [peek?, hrest]; rfl
      rw [takeNext, hc]
      simp only
      rw [push_advance hc, ih, cut_cut, Nat.add_comm]
      rw [rest_cut_one hrest]
      rw [hrest] at h
      exact Nat.le_of_succ_le_succ h

/-- An exponent takes its letter, its sign if there is one, and its digits; nothing without a digit. -/
theorem exponentExtent_eq (c : Char) (cs : List Char) :
    let digitAt := if cs.head? = some '+' ∨ cs.head? = some '-' then 2 else 1
    Lexer.exponentExtent (c :: cs) =
      if (c = 'e' ∨ c = 'E') ∧ (c :: cs)[digitAt]?.any Char.isDigit = true then
        digitAt + Lexer.runLength Char.isDigit ((c :: cs).drop digitAt)
      else 0 := by
  intro digitAt
  rw [Lexer.exponentExtent]
  by_cases hc : c = 'e' ∨ c = 'E'
  case neg => rw [if_neg hc, if_neg (fun h => hc h.1)]
  case pos =>
  rw [if_pos hc]
  cases cs with
  | nil => simp [digitAt, Lexer.signedExtent]
  | cons s ds =>
      by_cases hsign : s = '+' ∨ s = '-'
      · have hat : digitAt = 2 := by simp [digitAt, hsign]
        have hnext : (c :: s :: ds)[2]? = ds.head? := by rw [List.head?_eq_getElem?]; rfl
        rw [Lexer.signedExtent, if_pos hsign, hat, hnext]
        cases ds.head?.any Char.isDigit with
        | true =>
            rw [if_pos rfl, if_pos ⟨hc, rfl⟩, Nat.add_comm 2]
            rfl
        | false => simp
      · have hat : digitAt = 1 := by simp [digitAt, hsign]
        rw [Lexer.signedExtent, if_neg hsign, hat]
        have hrun : Lexer.runLength Char.isDigit (s :: ds) =
            if s.isDigit then Lexer.runLength Char.isDigit ds + 1 else 0 := by
          rw [Lexer.runLength, List.takeWhile_cons]
          split
          · rfl
          · rfl
        cases hdigit : s.isDigit with
        | true => simp [hc, hdigit, hrun, Nat.add_comm 1]
        | false => simp [hdigit, hrun]

theorem takeExponent_eq (tab : Nat) (d : Draft) :
    d.takeExponent tab = d.cut tab (Lexer.exponentExtent d.rest) := by
  cases hrest : d.rest with
  | nil => simp [takeExponent, peek?, hrest, Lexer.exponentExtent]
  | cons c cs =>
      have hnext : (c :: cs)[1]? = cs.head? := by rw [List.head?_eq_getElem?]; rfl
      simp only [exponentExtent_eq, takeExponent, peek?, peekAt?, hrest, hnext, List.head?_cons,
        Option.some.injEq]
      generalize (if cs.head? = some '+' ∨ cs.head? = some '-' then 2 else 1) = digitAt
      by_cases hletter : c = 'e' ∨ c = 'E'
      case neg => rw [if_neg hletter, if_neg (fun h => hletter h.1), cut_zero]
      case pos =>
      cases hdigit : (c :: cs)[digitAt]?.any Char.isDigit with
      | false => simp
      | true =>
          have hle : digitAt ≤ d.rest.length := by
            obtain ⟨e, he, -⟩ := (Option.any_eq_true ..).1 hdigit
            rw [hrest]
            exact Nat.le_of_lt (List.getElem?_eq_some_iff.1 he).1
          rw [if_pos hletter, if_pos rfl, if_pos ⟨hletter, rfl⟩, takeNext_eq hle, takeWhile_eq,
            cut_cut, rest_cut, hrest]

theorem readNumber_eq {d : Draft} {c : Char} {cs : List Char} (hrest : d.rest = c :: cs)
    (h : c.isDigit = true ∨ (c = '.' ∧ cs.head?.any Char.isDigit = true)) (tab : Nat) :
    d.readNumber tab = (.numericLiteral, d.cut tab (Lexer.numberExtent c cs + 1)) := by
  simp only [readNumber, takeExponent_eq, takeFraction_eq, takeWhile_eq, cut_cut, rest_cut, hrest]
  refine congrArg (fun n => (_, d.cut tab n)) ?_
  rcases h with hdigit | ⟨rfl, hdigit⟩
  · have hpoint : c ≠ '.' := by
      rintro rfl
      cases hdigit
    simp only [Lexer.numberExtent, hpoint, if_false, Lexer.runLength_cons_of_pos hdigit,
      List.drop_succ_cons, Nat.add_right_comm _ 1]
  · obtain ⟨e, he, hdigit⟩ := (Option.any_eq_true ..).1 hdigit
    have hletter : ¬ cs.head?.any Text.isAlphabetic = true := by
      rw [he, Option.any_some, Lexer.isAlphabetic_of_isDigit hdigit]
      exact Bool.false_ne_true
    rw [Lexer.runLength_cons_of_neg (by decide), Lexer.numberExtent, if_pos rfl, List.drop_zero,
      Lexer.fractionExtent, if_neg hletter, Nat.zero_add, List.drop_succ_cons, Nat.add_right_comm]

theorem readColor_eq {d : Draft} {cs : List Char} (htext : d.text = []) (hrest : d.rest = '#' :: cs)
    (tab : Nat) : d.readColor tab =
      ((Lexer.colorShape cs).kind, d.cut tab ((Lexer.colorShape cs).extent + 1)) := by
  have hc : d.peek? = some '#' := by rw [peek?, hrest]; rfl
  have hcolor : ((d.push '#').advance tab).takeWhile tab Lexer.isHexDigit =
      d.cut tab (Lexer.runLength Lexer.isHexDigit cs + 1) := by
    rw [advance_push hc, takeWhile_eq, cut_cut, rest_cut_one hrest, Nat.add_comm]
  have hdigits : (d.cut tab (Lexer.runLength Lexer.isHexDigit cs + 1)).text.length - 1 =
      Lexer.runLength Lexer.isHexDigit cs := by
    rw [cut, htext, hrest, List.nil_append, List.take_succ_cons, List.length_cons, Nat.add_sub_cancel,
      List.length_take]
    exact Nat.min_eq_left (List.takeWhile_prefix _).length_le
  rw [readColor, hcolor]
  simp only [hdigits]
  rfl

theorem readWord_eq {d : Draft} {c : Char} {cs : List Char} (htext : d.text = [])
    (hrest : d.rest = c :: cs) (h : Text.isAlphabetic c = true ∨ c = '_') (tab : Nat) :
    d.readWord tab =
      ((Lexer.wordShape c cs).kind, d.cut tab ((Lexer.wordShape c cs).extent + 1)) := by
  have hword : Text.isWordChar c = true := by
    rcases h with h | rfl
    · rw [Text.isWordChar, h]
      rfl
    · rfl
  have htake : (d.cut tab (Lexer.runLength Text.isWordChar cs + 1)).text =
      c :: cs.takeWhile Text.isWordChar := by
    rw [cut, htext, hrest, List.nil_append, List.take_succ_cons, Lexer.runLength,
      ← List.prefix_iff_eq_take.1 (List.takeWhile_prefix _)]
  rw [readWord, takeWhile_eq, hrest, Lexer.runLength_cons_of_pos hword]
  simp only [htake]
  rfl

theorem readSymbol_eq {d : Draft} {c : Char} {cs : List Char} (hrest : d.rest = c :: cs)
    (tab : Nat) : d.readSymbol tab c =
      ((Lexer.symbolShape c cs).kind, d.cut tab ((Lexer.symbolShape c cs).extent + 1)) := by
  have hc : d.peek? = some c := by rw [peek?, hrest]; rfl
  have hnext : d.peekAt? 1 = cs.head? := by rw [peekAt?, hrest, List.head?_eq_getElem?]; rfl
  rw [readSymbol, hnext, push_advance hc, Lexer.symbolShape]
  cases hhead : cs.head? with
  | none =>
      simp only [Option.any_none, Bool.false_eq_true, if_false]
      split <;> rfl
  | some next =>
      obtain ⟨tail, hcs⟩ := List.head?_eq_some_iff.1 hhead
      have hpair : (((d.advance tab).advance tab).push c).push next = d.cut tab 2 := by
        obtain ⟨text, rest, position⟩ := d
        subst hrest hcs
        simp [push, advance, cut, Position.advanceWord]
      simp only [Option.any_some, hpair]
      split
      · rfl
      · split <;> rfl

/-- Whatever a token starts with, the reader takes as much of the script as the shape of the token
says. -/
theorem readToken_eq {d : Draft} {c : Char} {cs : List Char} (htext : d.text = [])
    (hrest : d.rest = c :: cs) (tab : Nat) :
    d.readToken tab c = ((Lexer.shape c cs).kind, d.cut tab ((Lexer.shape c cs).extent + 1)) := by
  have hc : d.peek? = some c := by rw [peek?, hrest]; rfl
  have hnext : d.peekAt? 1 = cs.head? := by rw [peekAt?, hrest, List.head?_eq_getElem?]; rfl
  rw [readToken, Lexer.shape, hnext]
  split
  case isTrue hline =>
    subst hline
    rw [push_advance hc]
  case isFalse =>
  split
  case isTrue hslashes =>
    have hrun : Lexer.runLength (· ≠ '\n') (c :: cs) = Lexer.runLength (· ≠ '\n') cs + 1 :=
      Lexer.runLength_cons_of_pos (by rw [hslashes.1]; rfl) cs
    rw [takeWhile_eq, hrest, hrun]
  case isFalse =>
  split
  case isTrue =>
    rw [advance_push hc, takeString_eq, cut_cut, rest_cut_one hrest, Nat.add_comm]
  case isFalse =>
  split
  case isTrue hcolor =>
    obtain ⟨rfl, -⟩ := hcolor
    exact readColor_eq htext hrest tab
  case isFalse =>
  split
  case isTrue hnumber => exact readNumber_eq hrest hnumber tab
  case isFalse =>
  split
  case isTrue hword => exact readWord_eq htext hrest hword tab
  case isFalse => exact readSymbol_eq hrest tab

end Draft

/-! ## All tokens -/

theorem Draft.length_rest_readToken (tab : Nat) (c : Char) (cs : List Char) (position : Position) :
    ((Draft.mk [] (c :: cs) position).readToken tab c).2.rest.length < (c :: cs).length := by
  rw [readToken_eq rfl rfl, rest_cut, List.drop_succ_cons, List.length_drop, List.length_cons]
  exact Nat.lt_succ_of_le (Nat.sub_le _ _)

/-- The tokens from the cursor on. -/
def readFrom (tab : Nat) (position : Position) : List Char → List Token
  | [] => [⟨.endOfInput, "", position⟩]
  | c :: cs =>
    let start : Draft := ⟨[], c :: cs, position⟩
    if Lexer.isGap c then readFrom tab (start.advance tab).position (start.advance tab).rest
    else
      let token := start.readToken tab c
      ⟨token.1, String.ofList token.2.text, position⟩ :: readFrom tab token.2.position token.2.rest
termination_by cs => cs.length
decreasing_by
  · exact Nat.lt_succ_self cs.length
  · exact Draft.length_rest_readToken tab c cs position

/-- The tokens of a script as the reader finds them.  A tab is `tab` columns wide. -/
def readTokens (source : String) (tab : Nat) : List Token :=
  readFrom tab Position.origin source.toList

/-- The token at the position that a word can hold. -/
def Token.wrap (t : Token) : Token :=
  { t with position := t.position.wrap }

/-- From one place on, the reader finds the tokens that are cut off the script there. -/
theorem readFrom_wrap (tab : Nat) (position : Position) (cs : List Char) :
    readFrom tab position.wrap cs = (Lexer.scan tab position cs).map Token.wrap := by
  fun_induction Lexer.scan tab position cs with
  | case1 position =>
    rw [readFrom]
    rfl
  | case2 position c cs hgap ih =>
      rw [readFrom, if_pos hgap, ← ih, Position.wrap_step]
      rfl
  | case3 position c cs hgap s text ih =>
      rw [readFrom, if_neg hgap, List.map_cons, ← ih, Position.wrap_advance]
      simp only [Draft.readToken_eq (d := ⟨[], c :: cs, position.wrap⟩) rfl rfl]
      rfl

/-- The reader finds the tokens of the script, each at the position that a word can hold. -/
theorem readTokens_eq (source : String) (tab : Nat) :
    readTokens source tab = (tokenize source tab).map Token.wrap := by
  rw [readTokens, ← Position.wrap_origin, readFrom_wrap, tokenize]

theorem exists_of_mem_readTokens {source : String} {tab : Nat} {t : Token}
    (h : t ∈ readTokens source tab) : ∃ u ∈ tokenize source tab, u.wrap = t := by
  rw [readTokens_eq] at h
  exact List.mem_map.1 h

end ChartLint
