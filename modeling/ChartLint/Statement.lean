import ChartLint.Token
import ChartLint.Vocabulary

/-!
# Statements

A statement is a run of code tokens, perhaps over several lines.  A script has no mark between its
statements, so they are told apart by where lines end.  Take two code tokens that follow each other,
with nothing but comments and line ends between them.  A statement ends between the two when there
is a line end, and

* no bracket of the statement is open,
* the first token asks for no more: it is no comma and no operator other than `=>`, and
* the second token does not go on with the statement: it is no leading operator, or the statement
  opens a block, so that whatever follows belongs to the block.

How many line ends and comments stand between the two tokens does not matter.

`Statement.segment` walks over the tokens once.  It knows the first token of the current statement,
the last one read and the bracket depth, and whether a line ended since.
-/

namespace ChartLint

/-- Does the token ask for a continuation? -/
def Token.asksForMore (t : Token) : Bool :=
  (t.kind == .operator && t.text != "=>") || t.isPunctuation ","

/-- Is the token an operator that continues a statement from the start of a line? -/
def Token.leadsContinuation (t : Token) : Bool :=
  t.kind == .operator && Vocabulary.leadingOperators.contains t.text

/-- A run of code tokens.  It is never empty, so its first token has a field of its own. -/
structure Statement where
  /-- The first token. -/
  first : Lexeme
  /-- The other tokens. -/
  rest : List Lexeme
deriving DecidableEq, Repr

namespace Statement

/-- The tokens of a statement. -/
def tokens (s : Statement) : List Lexeme :=
  s.first :: s.rest

/-- The last token of a statement. -/
def last (s : Statement) : Lexeme :=
  s.rest.getLastD s.first

/-- The number of columns in front of a statement, a difference of machine words. -/
def indent (s : Statement) : Nat :=
  Word.sub s.first.position.column 1

/-- The line a statement starts on. -/
def line (s : Statement) : Nat :=
  s.first.position.line

/-- Does the statement end with `=>`, so that a block follows? -/
def opensWithArrow (s : Statement) : Bool :=
  s.last.isOperator "=>"

/-- Is the token of that number part of the statement? -/
def owns (s : Statement) (index : Nat) : Bool :=
  s.tokens.any (·.index == index)

/-! ## Where statements end -/

/-- What is known of a statement while its tokens are read. -/
structure Progress where
  /-- The first token of the statement. -/
  first : Lexeme
  /-- The last token read. -/
  last : Lexeme
  /-- The bracket depth behind the last token. -/
  depth : Nat

/-- A statement of which only the first token has been read. -/
def Progress.start (t : Lexeme) : Progress :=
  ⟨t, t, t.depthAfter 0⟩

/-- One more token of the statement. -/
def Progress.push (p : Progress) (t : Lexeme) : Progress :=
  ⟨p.first, t, t.depthAfter p.depth⟩

/-- Does the statement read so far open a block? -/
def Progress.opensBlock (p : Progress) : Bool :=
  p.last.isOperator "=>" || (p.first.isIdentifier && Vocabulary.blockOpeners.contains p.first.text)

/-- Does the statement end in front of `next`, when a line ended in between? -/
def Progress.endsBefore (p : Progress) (next : Lexeme) : Bool :=
  p.depth == 0 && !p.last.asksForMore && (p.opensBlock || !next.leadsContinuation)

/-- The rest of the statement being read, and the statements after it.  `broken` tells whether a
line ended since the last token. -/
def segmentFrom (p : Progress) (broken : Bool) : List Lexeme → List Lexeme × List Statement
  | [] => ([], [])
  | t :: ts =>
    if t.isCode then
      if broken && p.endsBefore t then
        let (rest, more) := segmentFrom (.start t) false ts
        ([], ⟨t, rest⟩ :: more)
      else
        let (rest, more) := segmentFrom (p.push t) false ts
        (t :: rest, more)
    else segmentFrom p (broken || t.kind != .comment) ts

/-- The statements of a script. -/
def segment : List Lexeme → List Statement
  | [] => []
  | t :: ts =>
    if t.isCode then
      let (rest, more) := segmentFrom (.start t) false ts
      ⟨t, rest⟩ :: more
    else segment ts

end Statement

end ChartLint
