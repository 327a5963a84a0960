import ChartLint.Position
import ChartLint.Text.Blank
import ChartLint.Text.Numeric
import ChartLint.Vocabulary
import ChartLint.Word

/-!
# The shape of a line

The layout of a script is judged line by line, on the characters of the line and not on its tokens.
A line is cut into its *margin*, the spaces and tabs in front, its *code*, and what is left out: a
comment and the blanks in front of it.  Strings are skipped over when the comment is looked for and
when brackets are counted.

What a line says about the next one is read off its code: the operator it ends with, and whether it
opens a block.  Columns are counted in machine words, so the columns of very wide tabs wrap around.
-/

namespace ChartLint

/-- Is the character an opening bracket? -/
def isOpeningChar (c : Char) : Bool :=
  c == '(' || c == '[' || c == '\x7b'

/-- Is the character a closing bracket? -/
def isClosingChar (c : Char) : Bool :=
  c == ')' || c == ']' || c == '\x7d'

/-- The bracket depth behind a character outside strings. -/
def depthAfterChar (depth : Nat) (c : Char) : Nat :=
  if isOpeningChar c then depth + 1 else if isClosingChar c then depth - 1 else depth

/-- What is in front of a comment, and the bracket depth behind it.  `quote` is the quote that closes
the string being read, if there is one. -/
def readCode (quote : Option Char) (depth : Nat) : List Char → List Char × Nat
  | [] => ([], depth)
  | c :: cs =>
    match quote with
    | some q =>
      if c = '\\' then
        match cs with
        | [] => ([c], depth)
        | e :: es =>
          let (code, after) := readCode (some q) depth es
          (c :: e :: code, after)
      else
        let (code, after) := readCode (if c = q then none else some q) depth cs
        (c :: code, after)
    | none =>
      if c = '/' ∧ cs.head? = some '/' then ([], depth)
      else
        let (code, after) :=
          readCode (if c = '"' ∨ c = '\'' then some c else none) (depthAfterChar depth c) cs
        (c :: code, after)

/-- What the judgement of the layout needs of a line. -/
structure LineShape where
  /-- The spaces and tabs in front. -/
  margin : List Char
  /-- The code, without comment and without blanks behind. -/
  code : List Char
  /-- The bracket depth behind the line. -/
  depthAfter : Nat
deriving DecidableEq, Repr

/-- The blanks that make up a margin. -/
def isMarginChar (c : Char) : Bool :=
  c == ' ' || c == '\t'

/-- Operators that a line may end with, longer ones first. -/
def trailingSymbols : List String :=
  [":=", "==", "!=", "<=", ">=", "=>", "+=", "-=", "*=", "/=", "%=", "+", "-", "*", "/", "%", "<",
   ">", "=", "?", ":", ","]

/-- Operators that are words. -/
def trailingWords : List String := ["and", "or", "not"]

/-- Does the code end with the word, and not with a longer one? -/
def endsWithWord (code : List Char) (word : String) : Bool :=
  word.toList.isSuffixOf code
    && !(code.take (code.length - word.length)).getLast?.any Text.isWordChar

/-- The operator or comma that the code ends with. -/
def trailingOperator? (code : List Char) : Option String :=
  trailingWords.find? (endsWithWord code) <|>
    trailingSymbols.find? fun op => op.toList.isSuffixOf code

/-- Does the code start with the operator, and not with a longer word? -/
def startsWithOperator (code : List Char) (op : String) : Bool :=
  op.toList.isPrefixOf code
    && !(op.toList.all Text.isWordChar && (code.drop op.length).head?.any Text.isWordChar)

namespace LineShape

/-- The shape of a line that starts at a bracket depth. -/
def ofLine (depth : Nat) (line : List Char) : LineShape :=
  let (code, after) := readCode none depth (line.dropWhile isMarginChar)
  ⟨line.takeWhile isMarginChar, Text.trimRight code, after⟩

/-- Is there no code on the line? -/
def isExempt (l : LineShape) : Bool :=
  l.code.isEmpty

/-- The columns that a run of characters takes. -/
def columns (tab : Nat) (cs : List Char) : Nat :=
  cs.foldl (fun n c => Word.add n (Position.width tab c)) 0

/-- The columns of the margin. -/
def indent (l : LineShape) (tab : Nat) : Nat :=
  columns tab l.margin

/-- Is there a tab in the margin? -/
def hasTab (l : LineShape) : Bool :=
  l.margin.contains '\t'

/-- The operator or comma that the line ends with. -/
def trailing? (l : LineShape) : Option String :=
  trailingOperator? l.code

/-- The column where an operator at the end of the line starts. -/
def trailingColumn (l : LineShape) (tab : Nat) (op : String) : Nat :=
  Word.add 1 (columns tab (l.margin ++ l.code.take (l.code.length - op.length)))

/-- Does the end of the line ask for a continuation?  An arrow does not. -/
def asksForMore (l : LineShape) : Bool :=
  l.trailing?.any (· != "=>")

/-- Does the line start with an operator that continues a statement? -/
def leadsContinuation (l : LineShape) : Bool :=
  !startsWithOperator l.code "=>" && Vocabulary.leadingOperators.any (startsWithOperator l.code)

/-- Does the line open a block, with an arrow at its end or with its first word? -/
def opensBlock (l : LineShape) : Bool :=
  l.trailing? == some "=>"
    || Vocabulary.blockOpeners.contains (String.ofList (l.code.takeWhile Text.isWordChar))

/-- Does the line hold nothing but closing brackets and commas? -/
def isLoneCloser (l : LineShape) : Bool :=
  !l.code.isEmpty && l.code.all fun c => isClosingChar c || c == ','

end LineShape

end ChartLint
