import ChartLint.Text.Digit
import ChartLint.Text.Split
import ChartLint.Toml

/-!
# Numbers, dates and truth values of TOML

A value that is neither quoted nor bracketed is a word: letters, digits, signs, points, colons and
underscores up to the first other character.  What the whole word looks like decides what it is.

* An integer has a sign or none, and no leading zero; without a sign it may be written in base
  sixteen, eight or two.  Single underscores may stand between digits.  It fits into sixty-four bits
  with a sign.
* A float is an integer with a fraction, an exponent, or both.  One that is larger than all finite
  numbers is refused; smaller ones are not.
* Dates are dates of the calendar, times have seconds, and a date and a time may be joined.
-/

namespace ChartLint

namespace Toml

/-- May the character stand in a word? -/
def isWordChar (c : Char) : Bool :=
  c.isAlphanum || c == '+' || c == '-' || c == '.' || c == ':' || c == '_'

/-! ## Numbers -/

/-- The digits of a base in groups divided by single underscores. -/
def digits? (base : Nat) (cs : List Char) : Option (List Char) :=
  let groups := Text.splitAt '_' cs
  if groups.all fun g => !g.isEmpty && g.all fun c => (Text.digitValue? base c).isSome
  then some groups.flatten else none

/-- The decimal digits of a whole number without a leading zero. -/
def wholeDigits? (cs : List Char) : Option (List Char) :=
  if cs.length > 1 && cs.head? == some '0' then none else digits? 10 cs

/-- Is the number behind the sign negative, and the rest of the word. -/
def splitSign : List Char → Bool × List Char
  | '+' :: rest => (false, rest)
  | '-' :: rest => (true, rest)
  | cs => (false, cs)

/-- The magnitude of a whole number in some base; only a decimal one may have a sign. -/
def magnitude? : List Char → Option Nat
  | '0' :: 'x' :: rest => (digits? 16 rest).bind (Text.ofDigits? 16)
  | '0' :: 'o' :: rest => (digits? 8 rest).bind (Text.ofDigits? 8)
  | '0' :: 'b' :: rest => (digits? 2 rest).bind (Text.ofDigits? 2)
  | cs => (wholeDigits? (splitSign cs).2).bind (Text.ofDigits? 10)

/-- An integer. -/
def integer? (word : List Char) : Option Toml := do
  let magnitude ← magnitude? word
  let n : Int := if (splitSign word).1 then -magnitude else magnitude
  if -0x8000000000000000 ≤ n ∧ n < 0x8000000000000000 then some (.integer n) else none

/-- What follows the mark of the exponent, and what stands in front of it. -/
def splitExponent (cs : List Char) : List Char × Option (List Char) :=
  match cs.span fun c => c != 'e' && c != 'E' with
  | (front, []) => (front, none)
  | (front, _ :: exponent) => (front, some exponent)

/-- The value of an exponent. -/
def exponent? (cs : List Char) : Option Int := do
  let (negative, digits) := splitSign cs
  let n ← (digits? 10 digits).bind (Text.ofDigits? 10)
  return if negative then -n else n

/-- Do `mantissa · 10 ^ exponent` and everything above it round to an infinity in double precision?
Far from the bound the number of digits decides. -/
def overflows (mantissa : Nat) (exponent : Int) : Bool :=
  let size : Int := (Nat.toDigits 10 mantissa).length + exponent
  if mantissa = 0 || size < 300 then false
  else if 320 < size then true
  else
    let bound := ((1 <<< 54) - 1) <<< 970
    if 0 ≤ exponent then bound ≤ mantissa * Nat.pow 10 exponent.toNat
    else bound * Nat.pow 10 (-exponent).toNat ≤ mantissa

/-- A number with a fraction, an exponent, or both. -/
def decimal? (word : List Char) : Option Toml := do
  let (negative, unsigned) := splitSign word
  let (front, exponent) := splitExponent unsigned
  let (whole, fraction) ← match Text.splitAt '.' front with
    | [whole] => if exponent.isNone then none else some (whole, [])
    | [whole, fraction] => (digits? 10 fraction).map (whole, ·)
    | _ => none
  let whole ← wholeDigits? whole
  let mantissa ← Text.ofDigits? 10 (whole ++ fraction)
  let exponent ← (exponent.map exponent?).getD (some 0)
  guard (negative || !overflows mantissa (exponent - fraction.length))
  return .float word

/-- An infinity or no number. -/
def special? (word : List Char) : Option Toml :=
  let name := (splitSign word).2
  if name = "inf".toList ∨ name = "nan".toList then some (.float word) else none

/-! ## Dates and times -/

/-- The number that digits write, if there are as many as asked for. -/
def fixedDigits? (count : Nat) (cs : List Char) : Option Nat :=
  if cs.length = count then Text.ofDigits? 10 cs else none

/-- Is the year a leap year? -/
def isLeap (year : Nat) : Bool :=
  year % 4 == 0 && (year % 100 != 0 || year % 400 == 0)

/-- The days of a month. -/
def daysOfMonth (year month : Nat) : Nat :=
  if month = 2 then (if isLeap year then 29 else 28)
  else if month = 4 ∨ month = 6 ∨ month = 9 ∨ month = 11 then 30
  else 31

/-- Is it a date: year, month and day with hyphens between them? -/
def isDate (cs : List Char) : Bool :=
  match Text.splitAt '-' cs with
  | [y, m, d] =>
    match fixedDigits? 4 y, fixedDigits? 2 m, fixedDigits? 2 d with
    | some year, some month, some day =>
      1 ≤ month && month ≤ 12 && 1 ≤ day && day ≤ daysOfMonth year month
    | _, _, _ => false
  | _ => false

/-- Are they hour and minute? -/
def isHourMinute (h m : List Char) : Bool :=
  match fixedDigits? 2 h, fixedDigits? 2 m with
  | some hour, some minute => hour < 24 && minute < 60
  | _, _ => false

/-- Is it a number of seconds, with a fraction or without? -/
def isSecond (cs : List Char) : Bool :=
  match Text.splitAt '.' cs with
  | s :: fractions =>
    (match fixedDigits? 2 s with
      | some second => second ≤ 60
      | none => false)
    && fractions.length ≤ 1 && fractions.all fun f => !f.isEmpty && f.all Char.isDigit
  | [] => false

/-- Is it a time: hour, minute and second with colons between them? -/
def isTime (cs : List Char) : Bool :=
  match Text.splitAt ':' cs with
  | [h, m, s] => isHourMinute h m && isSecond s
  | _ => false

/-- Is it hour and minute with a colon between them? -/
def isOffset (cs : List Char) : Bool :=
  match Text.splitAt ':' cs with
  | [h, m] => isHourMinute h m
  | _ => false

/-- Is it a time, with the distance from universal time or without? -/
def isZonedTime (cs : List Char) : Bool :=
  match cs.span fun c => c != 'Z' && c != 'z' && c != '+' && c != '-' with
  | (time, []) => isTime time
  | (time, mark :: offset) =>
    isTime time && if mark = 'Z' ∨ mark = 'z' then offset.isEmpty else isOffset offset

/-- A date, a time, or a date and a time with a `T` between them. -/
def datetime? (word : List Char) : Option Toml :=
  let (date, time) := word.span fun c => c != 'T' && c != 't'
  if (if time.isEmpty then isDate word || isTime word else isDate date && isZonedTime time.tail)
  then some (.datetime word) else none

/-! ## Words -/

/-- The value of a word. -/
def ofWord? (word : List Char) : Option Toml :=
  if word = "true".toList then some (.boolean true)
  else if word = "false".toList then some (.boolean false)
  else datetime? word <|> integer? word <|> decimal? word <|> special? word

/-- A word in front of `cs`.  A date may be joined to a time by a blank. -/
def readWord (cs : List Char) : Option (Toml × List Char) :=
  let (word, rest) := cs.span isWordChar
  let (time, rest') := rest.tail.span isWordChar
  if rest.head? == some ' ' && isDate word && isZonedTime time
  then some (.datetime (word ++ ' ' :: time), rest')
  else (ofWord? word).map (·, rest)

end Toml

end ChartLint
