import ChartLint.Token

/-!
# Calls

A call is a dotted name with an opening parenthesis behind it, such as `plot(` or `color.new(`.
Calls are looked for among the code tokens of a whole script, wherever they stand.  A chain starts at
a name that no point precedes, and takes as many members as follow.

The call reaches to the bracket that closes its parenthesis.  Brackets are matched by depth alone;
a parenthesis that nothing closes reaches to the end of the script.
-/

namespace ChartLint

/-- A call.  `opening` and `closing` are the numbers of the tokens at its ends. -/
structure Call where
  /-- The dotted name of the function. -/
  name : String
  /-- Where the name starts. -/
  position : Position
  /-- The number of the token the name starts with. -/
  nameStart : Nat
  /-- The number of the opening parenthesis. -/
  opening : Nat
  /-- The number of the closing bracket, or of the end of the script. -/
  closing : Nat
deriving DecidableEq, Repr

namespace Call

/-- Does the token of that number stand between the parentheses of the call? -/
def contains (c : Call) (index : Nat) : Bool :=
  c.opening < index && index < c.closing

/-- The number of the bracket at which the depth returns to zero, or `fallback`. -/
def closingFrom (depth fallback : Nat) : List Lexeme → Nat
  | [] => fallback
  | t :: ts =>
    let after := t.depthAfter depth
    if t.isClosing && after == 0 then t.index else closingFrom after fallback ts

/-- The members behind a name, each with the point in front of it, and the tokens after them. -/
def members : List Lexeme → List Lexeme × List Lexeme
  | point :: name :: ts =>
    if point.isPunctuation "." && name.isIdentifier then
      let (more, rest) := members ts
      (name :: more, rest)
    else ([], point :: name :: ts)
  | ts => ([], ts)

theorem length_members (ts : List Lexeme) : (members ts).2.length ≤ ts.length := by
  fun_induction members ts with
  | case1 => simp_all; omega
  | case2 => simp
  | case3 => simp

/-- The dotted name of a chain. -/
def chainName (head : Lexeme) (members : List Lexeme) : String :=
  ".".intercalate (head.text :: members.map (·.text))

/-- The call of the chain that starts with `head`, if a parenthesis follows it. -/
def ofChain? (head : Lexeme) (members rest : List Lexeme) (fallback : Nat) : Option Call :=
  match rest with
  | paren :: args =>
    if paren.isPunctuation "(" then
      some ⟨chainName head members, head.position, head.index, paren.index,
        closingFrom 1 fallback args⟩
    else none
  | [] => none

/-- The calls among the code tokens `ts`.  `afterPoint` tells whether a point precedes them. -/
def findFrom (fallback : Nat) (afterPoint : Bool) : List Lexeme → List Call
  | [] => []
  | t :: ts =>
    if t.isIdentifier && !afterPoint then
      (ofChain? t (members ts).1 (members ts).2 fallback).toList ++
        findFrom fallback false (members ts).2
    else findFrom fallback (t.isPunctuation ".") ts
termination_by ts => ts.length
decreasing_by
  · have := length_members ts
    simp only [List.length_cons]; omega
  · simp

/-- The calls of a script, in the order of their names. -/
def find (tokens : List Lexeme) : List Call :=
  findFrom (tokens.length - 1) false (tokens.filter (·.isCode))

end Call

end ChartLint
