import ChartLint.Call
import ChartLint.Statement.Assignment
import ChartLint.Statement.Pass
import ChartLint.Token.Reader

/-!
# The outline of a script

The outline holds what is known of a script without knowing its names: the tokens, the statements
they form and the calls among them.  Blocks are read off the indentation: the block under a statement
is the run of statements after it that are indented further.
-/

namespace ChartLint

/-- The numbers from `start` up to `stop`, which is not included. -/
structure Span where
  /-- The first number. -/
  start : Nat
  /-- The number behind the last one. -/
  stop : Nat
deriving DecidableEq, Repr

namespace Span

/-- Is the number in the span? -/
def contains (s : Span) (n : Nat) : Bool :=
  s.start ≤ n && n < s.stop

/-- Is the span without numbers? -/
def isEmpty (s : Span) : Bool :=
  s.stop ≤ s.start

/-- The numbers of a span in increasing order. -/
def toList (s : Span) : List Nat :=
  List.range' s.start (s.stop - s.start)

end Span

/-- Tokens, statements and calls of a script. -/
structure Outline where
  /-- All tokens. -/
  tokens : List Lexeme
  /-- The statements, in order. -/
  statements : List Statement
  /-- The calls, in order. -/
  calls : List Call
deriving Repr

namespace Outline

/-- The outline of numbered tokens. -/
def ofTokens (tokens : List Lexeme) : Outline :=
  ⟨tokens, Statement.segment tokens, Call.find tokens⟩

/-- The outline of a script. -/
def ofSource (source : String) (tab : Nat) : Outline :=
  ofTokens (numberTokens (tokenize source tab))

/-- The outline of a script as it is read: columns are machine words, and statements are cut in one
pass. -/
def read (source : String) (tab : Nat) : Outline :=
  let tokens := numberTokens (readTokens source tab)
  ⟨tokens, Statement.Pass.start.run tokens, Call.find tokens⟩

/-- The number of the statement that holds a token. -/
def statementOf? (o : Outline) (index : Nat) : Option Nat :=
  o.statements.findIdx? (·.owns index)

/-- The number of the statement a call starts in. -/
def callStatement? (o : Outline) (c : Call) : Option Nat :=
  o.statementOf? c.nameStart

/-- The innermost of the calls that contain a token.  Calls come in the order of their opening
parentheses, so it is the last one. -/
def innermostCall? (o : Outline) (index : Nat) : Option Call :=
  (o.calls.filter (·.contains index)).getLast?

/-- The numbers of the tokens in the values of constants, in increasing order. -/
def constantValues (o : Outline) : List Nat :=
  o.statements.flatMap fun s =>
    match s.constant? with
    | some (_, a) => a.value.map (·.index)
    | none => []

/-- Is the token part of the value of a constant? -/
def inConstantValue (o : Outline) (index : Nat) : Bool :=
  o.constantValues.contains index

/-- The statements in the block under statement number `n`. -/
def block (o : Outline) (n : Nat) : Span :=
  match o.statements.drop n with
  | [] => ⟨n + 1, n + 1⟩
  | s :: rest => ⟨n + 1, n + 1 + (rest.takeWhile (s.indent < ·.indent)).length⟩

end Outline

end ChartLint
