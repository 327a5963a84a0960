import ChartLint.Text.Digit

/-!
# Strings of TOML

There are four kinds: in double or single quotes, on one line or on several.  Double quotes allow
escapes, single quotes take everything as it stands.  Triple quotes allow line breaks; a break right
behind the opening quotes is left out, and every break counts as one line feed.  Up to two more
quotes may stand in front of the three that close such a string, and belong to it.

Readers take characters from the front of a text and return what follows.
-/

namespace ChartLint

namespace Toml

/-- Blanks inside a line. -/
def isBlank (c : Char) : Bool :=
  c == ' ' || c == '\t'

/-- May the character stand in a string or in a comment? -/
def isPlain (c : Char) : Bool :=
  c == '\t' || (0x20 ≤ c.toNat && c.toNat ≤ 0x7E) || 0x80 ≤ c.toNat

/-- What follows a line break. -/
def newline? : List Char → Option (List Char)
  | '\n' :: rest => some rest
  | '\r' :: '\n' :: rest => some rest
  | _ => none

/-- The character that hexadecimal digits number. -/
def numbered? (digits : List Char) : Option Char := do
  let n ← Text.ofDigits? 16 digits
  if n.isValidChar then some (Char.ofNat n) else none

/-- What the characters behind a backslash stand for, and what follows them. -/
def escape? : List Char → Option (Char × List Char)
  | 'b' :: rest => some (Char.ofNat 0x08, rest)
  | 't' :: rest => some ('\t', rest)
  | 'n' :: rest => some ('\n', rest)
  | 'f' :: rest => some (Char.ofNat 0x0C, rest)
  | 'r' :: rest => some ('\r', rest)
  | '"' :: rest => some ('"', rest)
  | '\\' :: rest => some ('\\', rest)
  | 'u' :: a :: b :: c :: d :: rest => (numbered? [a, b, c, d]).map (·, rest)
  | 'U' :: a :: b :: c :: d :: e :: f :: g :: h :: rest =>
    (numbered? [a, b, c, d, e, f, g, h]).map (·, rest)
  | _ => none

/-- What follows blanks and line breaks, for a backslash at the end of a line; none if the line does
not end there. -/
def lineEnd? (cs : List Char) : Option (List Char) :=
  (newline? (cs.dropWhile isBlank)).map fun _ =>
    cs.dropWhile fun c => isBlank c || c == '\n' || c == '\r'

/-- The characters in double quotes on one line, and what follows the closing quote. -/
def readBasic (fuel : Nat) (cs : List Char) : Option (List Char × List Char) :=
  match fuel with
  | 0 => none
  | fuel + 1 =>
    match cs with
    | [] => none
    | '"' :: rest => some ([], rest)
    | '\\' :: rest => do
      let (c, rest) ← escape? rest
      let (more, rest) ← readBasic fuel rest
      return (c :: more, rest)
    | c :: rest => do
      guard (isPlain c)
      let (more, rest) ← readBasic fuel rest
      return (c :: more, rest)

/-- The characters in single quotes on one line, and what follows the closing quote. -/
def readLiteral : List Char → Option (List Char × List Char)
  | [] => none
  | '\'' :: rest => some ([], rest)
  | c :: rest => do
    guard (isPlain c)
    let (more, rest) ← readLiteral rest
    return (c :: more, rest)

/-- The end of a string in triple quotes: the quotes that belong to the string, and what follows the
closing quotes; none if there are fewer than three quotes here. -/
def closing? (quote : Char) (cs : List Char) : Option (List Char × List Char) :=
  let run := (cs.takeWhile (· == quote)).length
  if run < 3 then none
  else some (List.replicate (min (run - 3) 2) quote, cs.drop (min run 5))

/-- The characters in triple double quotes, and what follows the closing quotes. -/
def readBasicLines (fuel : Nat) (cs : List Char) : Option (List Char × List Char) :=
  match fuel with
  | 0 => none
  | fuel + 1 =>
    match closing? '"' cs, newline? cs, cs with
    | some result, _, _ => some result
    | none, some rest, _ => do
      let (more, rest) ← readBasicLines fuel rest
      return ('\n' :: more, rest)
    | none, none, '\\' :: rest =>
      match lineEnd? rest with
      | some rest => readBasicLines fuel rest
      | none => do
        let (c, rest) ← escape? rest
        let (more, rest) ← readBasicLines fuel rest
        return (c :: more, rest)
    | none, none, c :: rest => do
      guard (isPlain c)
      let (more, rest) ← readBasicLines fuel rest
      return (c :: more, rest)
    | none, none, [] => none

/-- The characters in triple single quotes, and what follows the closing quotes. -/
def readLiteralLines (fuel : Nat) (cs : List Char) : Option (List Char × List Char) :=
  match fuel with
  | 0 => none
  | fuel + 1 =>
    match closing? '\'' cs, newline? cs, cs with
    | some result, _, _ => some result
    | none, some rest, _ => do
      let (more, rest) ← readLiteralLines fuel rest
      return ('\n' :: more, rest)
    | none, none, c :: rest => do
      guard (isPlain c)
      let (more, rest) ← readLiteralLines fuel rest
      return (c :: more, rest)
    | none, none, [] => none

/-- The characters behind a line break at the start, or all of them. -/
def skipNewline (cs : List Char) : List Char :=
  (newline? cs).getD cs

/-- A string of any kind.  Every step of its readers takes a character. -/
def readString (cs : List Char) : Option (List Char × List Char) :=
  match cs with
  | '"' :: '"' :: '"' :: rest => readBasicLines (rest.length + 1) (skipNewline rest)
  | '\'' :: '\'' :: '\'' :: rest => readLiteralLines (rest.length + 1) (skipNewline rest)
  | '"' :: rest => readBasic (rest.length + 1) rest
  | '\'' :: rest => readLiteral rest
  | _ => none

/-! ## Keys -/

/-- May the character stand in a key without quotes? -/
def isBare (c : Char) : Bool :=
  c.isAlphanum || c == '_' || c == '-'

/-- A key without dots: a string on one line, or a bare word. -/
def readSimpleKey (cs : List Char) : Option (String × List Char) :=
  match cs with
  | '"' :: rest => (readBasic (rest.length + 1) rest).map fun (key, rest) => (String.ofList key, rest)
  | '\'' :: rest => (readLiteral rest).map fun (key, rest) => (String.ofList key, rest)
  | _ =>
    let (key, rest) := cs.span isBare
    if key.isEmpty then none else some (String.ofList key, rest)

/-- A key with blanks around it and around its dots, and what follows the blanks behind it. -/
def readKeyParts (fuel : Nat) (cs : List Char) : Option (List String × List Char) :=
  match fuel with
  | 0 => none
  | fuel + 1 => do
    let (key, rest) ← readSimpleKey (cs.dropWhile isBlank)
    match rest.dropWhile isBlank with
    | '.' :: rest =>
      let (more, rest) ← readKeyParts fuel rest
      return (key :: more, rest)
    | rest => return ([key], rest)

/-- Keys and values nest less deep than this. -/
def nestingLimit : Nat := 80

/-- A dotted key, from its first part to its last. -/
def readKey (cs : List Char) : Option (List String × List Char) := do
  let (key, rest) ← readKeyParts (cs.length + 1) cs
  guard (key.length < nestingLimit)
  return (key, rest)

end Toml

end ChartLint
