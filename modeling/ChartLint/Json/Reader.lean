import ChartLint.Json
import ChartLint.Text.Digit

/-!
# Reading JSON

The reader takes exactly what the format allows: no comments, no comma behind the last item, no
control characters in strings, no digits behind a leading zero.  Blanks may stand around values and
marks.

Values nest, so the reader has a bound on the depth of its own calls.  Each call at the second
remove takes a character, and `Json.read` sets the bound accordingly.
-/

namespace ChartLint

namespace Json

/-- Blanks between values and marks. -/
def isSpace (c : Char) : Bool :=
  c == ' ' || c == '\n' || c == '\t' || c == '\r'

/-- The characters behind the blanks. -/
def skipSpaces (cs : List Char) : List Char :=
  cs.dropWhile isSpace

/-! ## Strings -/

/-- The number that four hexadecimal digits write. -/
def hexUnit? (a b c d : Char) : Option Nat := do
  return ((16 * (← Text.hexValue? a) + (← Text.hexValue? b)) * 16 + (← Text.hexValue? c)) * 16
    + (← Text.hexValue? d)

/-- Is the number the first half of a surrogate pair? -/
def isHighHalf (n : Nat) : Bool :=
  0xD800 ≤ n && n < 0xDC00

/-- Is the number the second half of a surrogate pair? -/
def isLowHalf (n : Nat) : Bool :=
  0xDC00 ≤ n && n < 0xE000

/-- The second half of a surrogate pair in front of `cs`, and what follows it. -/
def lowHalf? : List Char → Option (Nat × List Char)
  | '\\' :: 'u' :: a :: b :: c :: d :: rest => do
    let n ← hexUnit? a b c d
    guard (isLowHalf n)
    return (n, rest)
  | _ => none

/-- The character of a number behind `\u`, and what follows it.  The first half of a surrogate pair
takes the second half with it; a half that stands alone is no character. -/
def unitChar (n : Nat) (rest : List Char) : Option Char × List Char :=
  if isHighHalf n then
    match lowHalf? rest with
    | some (low, rest) =>
      (some (Char.ofNat (0x10000 + (n - 0xD800) * 0x400 + (low - 0xDC00))), rest)
    | none => (none, rest)
  else if isLowHalf n then (none, rest)
  else (some (Char.ofNat n), rest)

/-- What a backslash and `c` stand for, when `cs` follows; and what follows that. -/
def unescape? (c : Char) (cs : List Char) : Option (Option Char × List Char) :=
  match c with
  | '"' => some (some '"', cs)
  | '\\' => some (some '\\', cs)
  | '/' => some (some '/', cs)
  | 'b' => some (some (Char.ofNat 0x08), cs)
  | 'f' => some (some (Char.ofNat 0x0C), cs)
  | 'n' => some (some '\n', cs)
  | 'r' => some (some '\r', cs)
  | 't' => some (some '\t', cs)
  | 'u' =>
    match cs with
    | w :: x :: y :: z :: rest => (hexUnit? w x y z).map fun n => unitChar n rest
    | _ => none
  | _ => none

/-- The characters of a string behind its opening quote, with `none` for what is no character, and
what follows the closing quote. -/
def readChars (fuel : Nat) (cs : List Char) : Option (List (Option Char) × List Char) :=
  match fuel with
  | 0 => none
  | fuel + 1 =>
    match cs with
    | [] => none
    | '"' :: rest => some ([], rest)
    | '\\' :: rest =>
      match rest with
      | [] => none
      | e :: rest => do
        let (c, rest) ← unescape? e rest
        let (more, rest) ← readChars fuel rest
        return (c :: more, rest)
    | c :: rest =>
      if c.toNat < 0x20 then none
      else do
        let (more, rest) ← readChars fuel rest
        return (some c :: more, rest)

/-- The text that characters form, if all of them are some. -/
def textOf (cs : List (Option Char)) : Option String :=
  (cs.mapM id).map String.ofList

/-- A string behind its opening quote. -/
def readString (cs : List Char) : Option (Option String × List Char) :=
  (readChars (cs.length + 1) cs).map fun (chars, rest) => (textOf chars, rest)

/-! ## Numbers -/

/-- The number that decimal digits write. -/
def digitsValue (ds : List Char) : Nat :=
  ds.foldl (fun n c => 10 * n + (c.toNat - '0'.toNat)) 0

/-- Digits in front of `cs`, at least one. -/
def readDigits (cs : List Char) : Option (List Char × List Char) :=
  let (ds, rest) := cs.span Char.isDigit
  if ds.isEmpty then none else some (ds, rest)

/-- The digits of an integer: a zero, or digits that do not start with one. -/
def readWhole : List Char → Option (List Char × List Char)
  | '0' :: rest => some (['0'], rest)
  | cs => readDigits cs

/-- A fraction, if there is one. -/
def readFraction : List Char → Option (List Char × List Char)
  | '.' :: rest => (readDigits rest).map fun (ds, rest) => ('.' :: ds, rest)
  | cs => some ([], cs)

/-- An exponent, if there is one. -/
def readExponent : List Char → Option (List Char × List Char)
  | [] => some ([], [])
  | e :: cs =>
    if e = 'e' ∨ e = 'E' then
      match cs with
      | s :: rest =>
        if s = '+' ∨ s = '-' then (readDigits rest).map fun (ds, rest) => (e :: s :: ds, rest)
        else (readDigits cs).map fun (ds, rest) => (e :: ds, rest)
      | [] => none
    else some ([], e :: cs)

/-- The value of a number from its parts.  A zero with a sign is no integer. -/
def numberOf (negative : Bool) (whole tail : List Char) : Json :=
  let magnitude := digitsValue whole
  let n : Int := if negative then -magnitude else magnitude
  let spelling := if negative then '-' :: whole ++ tail else whole ++ tail
  if tail.isEmpty && fits n && !(negative && magnitude == 0) then .int n else .decimal spelling

/-- A number. -/
def readNumber (cs : List Char) : Option (Json × List Char) := do
  let (negative, cs) := match cs with
    | '-' :: rest => (true, rest)
    | _ => (false, cs)
  let (whole, cs) ← readWhole cs
  let (fraction, cs) ← readFraction cs
  let (exponent, cs) ← readExponent cs
  return (numberOf negative whole (fraction ++ exponent), cs)

/-! ## Values -/

mutual

/-- A value, and what follows it. -/
def readValue (fuel : Nat) (cs : List Char) : Option (Json × List Char) :=
  match fuel with
  | 0 => none
  | fuel + 1 =>
    match skipSpaces cs with
    | 'n' :: 'u' :: 'l' :: 'l' :: rest => some (.null, rest)
    | 't' :: 'r' :: 'u' :: 'e' :: rest => some (.bool true, rest)
    | 'f' :: 'a' :: 'l' :: 's' :: 'e' :: rest => some (.bool false, rest)
    | '"' :: rest => (readString rest).map fun (s, rest) => (.string s, rest)
    | '[' :: rest =>
      match skipSpaces rest with
      | ']' :: rest => some (.array [], rest)
      | _ => (readItems fuel rest).map fun (items, rest) => (.array items, rest)
    | '\x7b' :: rest =>
      match skipSpaces rest with
      | '\x7d' :: rest => some (.object [], rest)
      | _ => (readMembers fuel rest).map fun (members, rest) => (.object members, rest)
    | cs => readNumber cs

/-- One or more items of a list, and what follows the closing bracket. -/
def readItems (fuel : Nat) (cs : List Char) : Option (List Json × List Char) :=
  match fuel with
  | 0 => none
  | fuel + 1 =>
    match readValue fuel cs with
    | none => none
    | some (item, rest) =>
      match skipSpaces rest with
      | ']' :: rest => some ([item], rest)
      | ',' :: rest => (readItems fuel rest).map fun (items, rest) => (item :: items, rest)
      | _ => none

/-- One or more members of an object, and what follows the closing brace. -/
def readMembers (fuel : Nat) (cs : List Char) : Option (List (Option String × Json) × List Char) :=
  match fuel with
  | 0 => none
  | fuel + 1 =>
    match skipSpaces cs with
    | '"' :: rest =>
      match readString rest with
      | none => none
      | some (name, rest) =>
        match skipSpaces rest with
        | ':' :: rest =>
          match readValue fuel rest with
          | none => none
          | some (value, rest) =>
            match skipSpaces rest with
            | '\x7d' :: rest => some ([(name, value)], rest)
            | ',' :: rest =>
              (readMembers fuel rest).map fun (members, rest) => ((name, value) :: members, rest)
            | _ => none
        | _ => none
    | _ => none

end

/-- The value that a whole text writes. -/
def read (text : String) : Option Json :=
  match readValue (2 * text.length + 2) text.toList with
  | some (v, rest) => if (skipSpaces rest).isEmpty then some v else none
  | none => none

end Json

end ChartLint
