import ChartLint.Position

/-!
# Tokens

A token is a piece of a script with its kind and the position where it starts.  The text of a token
is its exact spelling, the quotes of a string included.  Comments, line ends and the end of the
script are tokens too; the other kinds are the *code* of the script.

Brackets come in three pairs, and the linter counts how deep it stands inside them without telling
the pairs apart.  A closing bracket that nothing opened leaves the depth at zero.
-/

namespace ChartLint

/-- What a token is. -/
inductive TokenKind where
  /-- A word that is no operator. -/
  | identifier
  /-- Text between quotes, closed or cut off by the end of its line. -/
  | stringLiteral
  /-- A number. -/
  | numericLiteral
  /-- `#` and six or eight hexadecimal digits. -/
  | colorLiteral
  /-- An operator, spelled with symbols or as a word. -/
  | operator
  /-- Any other character, and `#` with another number of hexadecimal digits. -/
  | punctuation
  /-- `//` and the rest of the line. -/
  | comment
  /-- A line feed. -/
  | newline
  /-- The end of the script. -/
  | endOfInput
deriving DecidableEq, Repr

/-- A piece of a script. -/
structure Token where
  /-- What the token is. -/
  kind : TokenKind
  /-- The spelling in the script. -/
  text : String
  /-- Where the token starts. -/
  position : Position
deriving DecidableEq, Repr

namespace Token

/-- Is this the operator spelled `text`? -/
def isOperator (t : Token) (text : String) : Bool :=
  t.kind == .operator && t.text == text

/-- Is this the punctuation spelled `text`? -/
def isPunctuation (t : Token) (text : String) : Bool :=
  t.kind == .punctuation && t.text == text

/-- Is this an identifier? -/
def isIdentifier (t : Token) : Bool :=
  t.kind == .identifier

/-- Is this a token other than a comment, a line end and the end of the script? -/
def isCode (t : Token) : Bool :=
  match t.kind with
  | .comment | .newline | .endOfInput => false
  | _ => true

/-- Is this one of the three opening brackets? -/
def isOpening (t : Token) : Bool :=
  t.kind == .punctuation && ["(", "[", "\x7b"].contains t.text

/-- Is this one of the three closing brackets? -/
def isClosing (t : Token) : Bool :=
  t.kind == .punctuation && [")", "]", "\x7d"].contains t.text

/-- The bracket depth behind the token, when it is `depth` in front of it. -/
def depthAfter (t : Token) (depth : Nat) : Nat :=
  if t.isOpening then depth + 1 else if t.isClosing then depth - 1 else depth

/-- The text of a string literal without its quotes.  A literal cut off by the end of its line has
only the quote in front; any other token is its own value. -/
def stringValue (t : Token) : String :=
  match t.kind, t.text.toList with
  | .stringLiteral, quote :: inner =>
    String.ofList (if inner.getLast? = some quote then inner.dropLast else inner)
  | _, _ => t.text

end Token

/-- A token with its number in the script, counted from zero. -/
structure Lexeme extends Token where
  /-- How many tokens stand before this one. -/
  index : Nat
deriving DecidableEq, Repr

/-- Tokens with their numbers. -/
def numberTokens (tokens : List Token) : List Lexeme :=
  tokens.zipIdx.map fun (t, i) => { t with index := i }

end ChartLint
