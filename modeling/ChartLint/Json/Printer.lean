import ChartLint.Json

/-!
# Printing JSON

There are two ways to print a value: on one line without blanks, and over several lines with two
spaces for each level.  Strings are written the same way in both.  The quote, the backslash and the
control characters are escaped, five of them by a letter and the others by their number; every other
character stands for itself.
-/

namespace ChartLint

namespace Json

/-- A hexadecimal digit in lower case. -/
def hexDigit (n : Nat) : Char :=
  if n < 10 then Char.ofNat ('0'.toNat + n) else Char.ofNat ('a'.toNat + (n - 10))

/-- A character inside a string. -/
def escapeChar (c : Char) : List Char :=
  if c = '"' then ['\\', '"']
  else if c = '\\' then ['\\', '\\']
  else if c.toNat = 0x08 then ['\\', 'b']
  else if c.toNat = 0x0C then ['\\', 'f']
  else if c = '\n' then ['\\', 'n']
  else if c = '\r' then ['\\', 'r']
  else if c = '\t' then ['\\', 't']
  else if c.toNat < 0x20 then
    ['\\', 'u', '0', '0', hexDigit (c.toNat / 16), hexDigit (c.toNat % 16)]
  else [c]

/-- A string with its quotes.  One that is no text is written as half of a surrogate pair. -/
def printString : Option String → List Char
  | some s => '"' :: (s.toList.flatMap escapeChar ++ ['"'])
  | none => "\"\\ud800\"".toList

/-- An integer in decimal digits. -/
def printInt (n : Int) : List Char :=
  if n < 0 then '-' :: Nat.toDigits 10 n.natAbs else Nat.toDigits 10 n.natAbs

mutual

/-- A value on one line. -/
def print : Json → List Char
  | .null => "null".toList
  | .bool true => "true".toList
  | .bool false => "false".toList
  | .int n => printInt n
  | .decimal spelling => spelling
  | .string s => printString s
  | .array items => '[' :: printItems items
  | .object members => '\x7b' :: printMembers members

/-- The items of a list with commas between them, and the closing bracket. -/
def printItems : List Json → List Char
  | [] => [']']
  | [item] => print item ++ [']']
  | item :: items => print item ++ ',' :: printItems items

/-- The members of an object with commas between them, and the closing brace. -/
def printMembers : List (Option String × Json) → List Char
  | [] => ['\x7d']
  | [(name, value)] => printString name ++ ':' :: (print value ++ ['\x7d'])
  | (name, value) :: members =>
    printString name ++ ':' :: (print value ++ ',' :: printMembers members)

end

/-- The text of a value on one line. -/
def compress (v : Json) : String :=
  String.ofList v.print

/-- The start of a line at a level. -/
def newLine (level : Nat) : List Char :=
  '\n' :: List.replicate (2 * level) ' '

mutual

/-- A value over several lines.  Its first line is at a level. -/
def layOut (level : Nat) : Json → List Char
  | .array (item :: items) => '[' :: layOutItems level (item :: items)
  | .object (member :: members) => '\x7b' :: layOutMembers level (member :: members)
  | .array [] => ['[', ']']
  | .object [] => ['\x7b', '\x7d']
  | .null => print .null
  | .bool b => print (.bool b)
  | .int n => print (.int n)
  | .decimal spelling => spelling
  | .string s => printString s

/-- The items of a list on lines of their own, and the closing bracket. -/
def layOutItems (level : Nat) : List Json → List Char
  | [] => newLine level ++ [']']
  | [item] => newLine (level + 1) ++ layOut (level + 1) item ++ newLine level ++ [']']
  | item :: items =>
    newLine (level + 1) ++ layOut (level + 1) item ++ ',' :: layOutItems level items

/-- The members of an object on lines of their own, and the closing brace. -/
def layOutMembers (level : Nat) : List (Option String × Json) → List Char
  | [] => newLine level ++ ['\x7d']
  | [(name, value)] =>
    newLine (level + 1) ++ printString name ++ ':' :: ' ' :: layOut (level + 1) value
      ++ newLine level ++ ['\x7d']
  | (name, value) :: members =>
    newLine (level + 1) ++ printString name ++ ':' :: ' ' :: layOut (level + 1) value
      ++ ',' :: layOutMembers level members

end

/-- The text of a value over several lines. -/
def pretty (v : Json) : String :=
  String.ofList (v.layOut 0)

end Json

end ChartLint
