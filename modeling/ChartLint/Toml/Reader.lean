import ChartLint.Toml.Quoted
import ChartLint.Toml.Table
import ChartLint.Toml.Word

/-!
# Reading TOML

A document is a list of lines: headers, keys with values, comments.  A value may go on over several
lines inside brackets and inside triple quotes.

Values nest, and the reader has a bound on the depth: an item is read with a bound that is smaller by
one.  So the recursion is on the bound, and the items of a list are read by a loop that is given the
reader for one item.
-/

namespace ChartLint

namespace Toml

/-- What follows a comment, or the characters as they are. -/
def skipComment : List Char → List Char
  | '#' :: rest => rest.dropWhile isPlain
  | cs => cs

/-- What follows the rest of a line that holds nothing more than blanks and a comment. -/
def endOfLine? (cs : List Char) : Option (List Char) :=
  match skipComment (cs.dropWhile isBlank) with
  | [] => some []
  | rest => newline? rest

/-- What follows blanks, comments and line breaks. -/
def skipLines (fuel : Nat) (cs : List Char) : List Char :=
  let rest := cs.dropWhile isBlank
  match fuel, newline? (skipComment rest) with
  | fuel + 1, some rest => skipLines fuel rest
  | _, _ => rest

/-- What follows blanks, comments and line breaks between the items of a list. -/
def skipGap (cs : List Char) : List Char :=
  skipLines cs.length cs

/-- The items of a list behind the opening bracket or a comma, and what follows the closing
bracket. -/
def readItems (item : List Char → Option (Toml × List Char)) (fuel : Nat) (cs : List Char) :
    Option (List Toml × List Char) :=
  match fuel with
  | 0 => none
  | fuel + 1 =>
    match skipGap cs with
    | ']' :: rest => some ([], rest)
    | cs => do
      let (value, rest) ← item cs
      match skipGap rest with
      | ',' :: rest =>
        let (values, rest) ← readItems item fuel rest
        return (value :: values, rest)
      | ']' :: rest => return ([value], rest)
      | _ => none

/-- A key and its value, and what follows the blanks behind the value. -/
def readPair (value : List Char → Option (Toml × List Char)) (cs : List Char) :
    Option ((List String × Toml) × List Char) := do
  let (key, rest) ← readKey cs
  match rest with
  | '=' :: rest =>
    let (v, rest) ← value (rest.dropWhile isBlank)
    return ((key, v), rest.dropWhile isBlank)
  | _ => none

/-- One or more keys with values, added to entries, up to the closing brace. -/
def readPairs (value : List Char → Option (Toml × List Char)) (fuel : Nat)
    (entries : List (String × Toml)) (cs : List Char) : Option (List (String × Toml) × List Char) :=
  match fuel with
  | 0 => none
  | fuel + 1 => do
    let ((key, v), rest) ← readPair value cs
    let entries ← addValue v true key entries
    match rest with
    | ',' :: rest => readPairs value fuel entries rest
    | '\x7d' :: rest => return (entries, rest)
    | _ => none

/-- A value, in which lists and tables nest at most as deep as the bound. -/
def readValue : Nat → List Char → Option (Toml × List Char)
  | 0, cs => readSingle cs
  | depth + 1, '[' :: rest =>
    (readItems (readValue depth) (rest.length + 1) rest).map fun (items, rest) => (.array items, rest)
  | depth + 1, '\x7b' :: rest =>
    match rest.dropWhile isBlank with
    | '\x7d' :: rest => some (.table .braces [], rest)
    | rest =>
      (readPairs (readValue depth) (rest.length + 1) [] rest).map fun (entries, rest) =>
        (.table .braces entries, rest)
  | _ + 1, cs => readSingle cs
where
  /-- A string or a word. -/
  readSingle (cs : List Char) : Option (Toml × List Char) :=
    match cs with
    | '"' :: _ => (readString cs).map fun (s, rest) => (.string (String.ofList s), rest)
    | '\'' :: _ => (readString cs).map fun (s, rest) => (.string (String.ofList s), rest)
    | _ => readWord cs

/-- What a line of a document is. -/
inductive Line where
  /-- Nothing, or a comment. -/
  | void
  /-- A header in single brackets. -/
  | table (header : List String)
  /-- A header in double brackets. -/
  | tables (header : List String)
  /-- A key and its value. -/
  | pair (key : List String) (value : Toml)

/-- The first line of a text, with the lines over which its value goes on, up to its end. -/
def readLine (cs : List Char) : Option (Line × List Char) :=
  match cs.dropWhile isBlank with
  | [] => some (.void, [])
  | '#' :: rest => some (.void, '#' :: rest)
  | '[' :: '[' :: rest => do
    match ← readKey rest with
    | (key, ']' :: ']' :: rest) => some (.tables key, rest)
    | _ => none
  | '[' :: rest => do
    match ← readKey rest with
    | (key, ']' :: rest) => some (.table key, rest)
    | _ => none
  | cs =>
    if (newline? cs).isSome then some (.void, cs)
    else (readPair (readValue (nestingLimit - 1)) cs).map fun ((key, value), rest) =>
      (.pair key value, rest)

/-- Add the lines of a text to the entries of a document, under the header that came last. -/
def readLines (fuel : Nat) (header : List String) (entries : List (String × Toml)) (cs : List Char) :
    Option (List (String × Toml)) :=
  match fuel, cs with
  | _, [] => some entries
  | 0, _ => none
  | fuel + 1, cs => do
    let (line, rest) ← readLine cs
    let rest ← endOfLine? rest
    match line with
    | .void => readLines fuel header entries rest
    | .table header => readLines fuel header (← addTable header entries) rest
    | .tables header => readLines fuel header (← addToTables header entries) rest
    | .pair key value => readLines fuel header (← within (addValue value true key) header entries) rest

/-- A text without the mark of the byte order at its start. -/
def dropMark : List Char → List Char
  | c :: rest => if c.toNat = 0xFEFF then rest else c :: rest
  | [] => []

/-- The entries of a document.  Every line takes a character. -/
def read (text : String) : Option (List (String × Toml)) :=
  let cs := dropMark text.toList
  readLines cs.length [] [] cs

end Toml

end ChartLint
