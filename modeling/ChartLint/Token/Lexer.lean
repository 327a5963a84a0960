import ChartLint.Text.Numeric
import ChartLint.Token

/-!
# The lexer

The lexer cuts a script into tokens.  It never fails: a character it has no other use for is a
punctuation token of its own.

At each place the lexer looks at the characters ahead and decides two things, the *kind* of the
next token and its *extent*, the number of characters it takes behind its first one.  The text of
the token is then cut off the script, and the position moves over it.  So nothing is lost or read
twice, whatever the kinds and extents are: the tokens spell the script up to the blanks between
them.

* A line feed is a token.  A comment runs up to the line feed.
* A string runs to the quote that closes it, or up to the line feed.  A backslash takes the next
  character with it.
* `#` and a hexadecimal digit start a color, which takes all hexadecimal digits that follow.
* A number starts with a digit, or with a point and a digit.  It goes on with digits, a fraction
  unless a letter follows the point, and an exponent.
* A word starts with an alphabetic character or an underscore.
* An operator of two characters is preferred to one of a single character.
-/

namespace ChartLint

namespace Lexer

/-- Blanks between tokens.  A carriage return is one; a line feed is not. -/
def isGap (c : Char) : Bool :=
  c == ' ' || c == '\t' || c == '\r'

/-- Is the character a hexadecimal digit? -/
def isHexDigit (c : Char) : Bool :=
  c.isDigit || ('a' ≤ c && c ≤ 'f') || ('A' ≤ c && c ≤ 'F')

theorem toNat_lt_of_isAlphanum {c : Char} (h : c.isAlphanum = true) : c.toNat < 0x80 := by
  delta Char.isAlphanum Char.isAlpha Char.isUpper Char.isLower Char.isDigit at h
  simp only [Bool.or_eq_true, Bool.and_eq_true, decide_eq_true_eq] at h
  rcases h with (h | h) | h
  · exact Nat.lt_of_le_of_lt (UInt32.le_iff_toNat_le.1 h.2) (by decide)
  · exact Nat.lt_of_le_of_lt (UInt32.le_iff_toNat_le.1 h.2) (by decide)
  · exact Nat.lt_of_le_of_lt (UInt32.le_iff_toNat_le.1 h.2) (by decide)

theorem isAlphabetic_of_isDigit {c : Char} (h : c.isDigit = true) : Text.isAlphabetic c = false := by
  rw [Text.isAlphabetic_eq_isAlpha (toNat_lt_of_isAlphanum (by simp [Char.isAlphanum, h]))]
  delta Char.isDigit at h
  delta Char.isAlpha Char.isUpper Char.isLower
  simp only [Bool.and_eq_true, decide_eq_true_eq, UInt32.le_iff_toNat_le] at h
  simp only [Bool.or_eq_false_iff, Bool.and_eq_false_iff, decide_eq_false_iff_not,
    UInt32.le_iff_toNat_le]
  have hnine : '9'.val.toNat < 'A'.val.toNat := by decide
  have hletters : 'A'.val.toNat < 'a'.val.toNat := by decide
  omega

/-- Words that are operators. -/
def wordOperators : List String := ["and", "or", "not"]

/-- Operators of two characters. -/
def doubleOperators : List (Char × Char) :=
  [(':', '='), ('=', '='), ('!', '='), ('<', '='), ('>', '='), ('=', '>'), ('+', '='), ('-', '='),
   ('*', '='), ('/', '='), ('%', '=')]

/-- Operators of one character. -/
def singleOperators : List Char := ['+', '-', '*', '/', '%', '<', '>', '=', '?', ':']

/-- How many characters at the front of `cs` satisfy `p`. -/
def runLength (p : Char → Bool) (cs : List Char) : Nat :=
  (cs.takeWhile p).length

theorem runLength_cons_of_pos {p : Char → Bool} {c : Char} (h : p c = true) (cs : List Char) :
    runLength p (c :: cs) = runLength p cs + 1 := by
  rw [runLength, List.takeWhile_cons_of_pos h, List.length_cons, runLength]

theorem runLength_cons_of_neg {p : Char → Bool} {c : Char} (h : ¬ p c = true) (cs : List Char) :
    runLength p (c :: cs) = 0 := by
  rw [runLength, List.takeWhile_cons_of_neg h, List.length_nil]

/-- How many characters a string takes behind its opening quote, the closing one included. -/
def stringExtent (quote : Char) : List Char → Nat
  | [] => 0
  | c :: cs =>
    if c = '\n' then 0
    else if c = '\\' then
      match cs with
      | [] => 1
      | e :: es => if e = '\n' then 1 else stringExtent quote es + 2
    else if c = quote then 1
    else stringExtent quote cs + 1

@[simp] theorem stringExtent_newline (quote : Char) (cs : List Char) :
    stringExtent quote ('\n' :: cs) = 0 := by
  unfold stringExtent
  rfl

@[simp] theorem stringExtent_quote {quote : Char} (hn : quote ≠ '\n') (hb : quote ≠ '\\')
    (cs : List Char) : stringExtent quote (quote :: cs) = 1 := by
  unfold stringExtent
  rw [if_neg hn, if_neg hb, if_pos rfl]

@[simp] theorem stringExtent_other {quote c : Char} (hn : c ≠ '\n') (hb : c ≠ '\\')
    (hq : c ≠ quote) (cs : List Char) :
    stringExtent quote (c :: cs) = stringExtent quote cs + 1 := by
  rw [stringExtent.eq_def]
  simp only [if_neg hn, if_neg hb, if_neg hq]

@[simp] theorem stringExtent_escape {e : Char} (h : e ≠ '\n') (quote : Char) (cs : List Char) :
    stringExtent quote ('\\' :: e :: cs) = stringExtent quote cs + 2 := by
  rw [stringExtent.eq_def]
  simp [h]

/-- How many characters a fraction takes: a point that no letter follows, and digits. -/
def fractionExtent : List Char → Nat
  | '.' :: cs =>
    if cs.head?.any Text.isAlphabetic then 0 else runLength Char.isDigit cs + 1
  | _ => 0

/-- How many characters the digits of an exponent and its sign take; none without a digit. -/
def signedExtent : List Char → Nat
  | [] => 0
  | c :: cs =>
    if c = '+' ∨ c = '-' then
      if cs.head?.any Char.isDigit then runLength Char.isDigit cs + 1 else 0
    else runLength Char.isDigit (c :: cs)

/-- How many characters an exponent takes. -/
def exponentExtent : List Char → Nat
  | [] => 0
  | c :: cs =>
    if c = 'e' ∨ c = 'E' then
      match signedExtent cs with
      | 0 => 0
      | n + 1 => n + 2
    else 0

/-- How many characters a number takes behind its first one, which is a digit or a point. -/
def numberExtent (first : Char) (cs : List Char) : Nat :=
  let digits := if first = '.' then runLength Char.isDigit cs
    else
      let whole := runLength Char.isDigit cs
      whole + fractionExtent (cs.drop whole)
  digits + exponentExtent (cs.drop digits)

/-- The kind of a token and the number of characters it takes behind its first one. -/
structure Shape where
  /-- What the token is. -/
  kind : TokenKind
  /-- How far it reaches. -/
  extent : Nat

/-- The shape of a token that is no literal, word or comment. -/
def symbolShape (c : Char) (cs : List Char) : Shape :=
  if cs.head?.any fun d => doubleOperators.contains (c, d) then ⟨.operator, 1⟩
  else if singleOperators.contains c then ⟨.operator, 0⟩
  else ⟨.punctuation, 0⟩

/-- The shape of the word that starts with `c`. -/
def wordShape (c : Char) (cs : List Char) : Shape :=
  let tail := cs.takeWhile Text.isWordChar
  ⟨if wordOperators.contains (String.ofList (c :: tail)) then .operator else .identifier,
    tail.length⟩

/-- The shape of the color that starts with `#`. -/
def colorShape (cs : List Char) : Shape :=
  let digits := runLength isHexDigit cs
  ⟨if digits = 6 ∨ digits = 8 then .colorLiteral else .punctuation, digits⟩

/-- The shape of the token that starts with `c`, when `cs` follows. -/
def shape (c : Char) (cs : List Char) : Shape :=
  if c = '\n' then ⟨.newline, 0⟩
  else if c = '/' ∧ cs.head? = some '/' then ⟨.comment, runLength (· ≠ '\n') cs⟩
  else if c = '"' ∨ c = '\'' then ⟨.stringLiteral, stringExtent c cs⟩
  else if c = '#' ∧ cs.head?.any isHexDigit then colorShape cs
  else if c.isDigit ∨ (c = '.' ∧ cs.head?.any Char.isDigit) then ⟨.numericLiteral, numberExtent c cs⟩
  else if Text.isAlphabetic c ∨ c = '_' then wordShape c cs
  else symbolShape c cs

/-- The tokens of the characters that start at a position. -/
def scan (tab : Nat) (position : Position) : List Char → List Token
  | [] => [⟨.endOfInput, "", position⟩]
  | c :: cs =>
    if isGap c then scan tab (position.step tab c) cs
    else
      let s := shape c cs
      let text := c :: cs.take s.extent
      ⟨s.kind, String.ofList text, position⟩ ::
        scan tab (position.advance tab text) (cs.drop s.extent)
termination_by cs => cs.length
decreasing_by
  · simp
  · simp only [List.length_drop, List.length_cons]; omega

end Lexer

/-- The tokens of a script.  A tab is `tab` columns wide. -/
def tokenize (source : String) (tab : Nat) : List Token :=
  Lexer.scan tab Position.origin source.toList

end ChartLint
