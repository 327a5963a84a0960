import ChartLint.Statement

/-!
# Assignments

An assignment is a statement with an assignment operator outside all brackets.  What stands in front
of the operator decides what is assigned.

* `[a, b] = …` assigns the names of a tuple.
* `obj.field := …` assigns through the head of a chain of members.
* `name = …` assigns one name.  Qualifiers and a type may stand in front of it.

Any other front makes the statement no assignment.  The operator `=` declares the names of a tuple
and a single name; the other operators change what was declared before.
-/

namespace ChartLint

/-- May the token stand in front of a declared name, as part of a type or as a qualifier? -/
def Token.isTypePart (t : Token) : Bool :=
  t.isIdentifier || t.isOperator "<" || t.isOperator ">" || t.isPunctuation "."
    || t.isPunctuation "[" || t.isPunctuation "]" || t.isPunctuation ","

/-- What stands in front of the operator of an assignment. -/
inductive Front where
  /-- A tuple of names between square brackets. -/
  | tuple
  /-- A chain of members. -/
  | member
  /-- One name; `qualified` if a qualifier stands in front of it. -/
  | single (qualified : Bool)
deriving DecidableEq, Repr

/-- An assignment. -/
structure Assignment where
  /-- The tokens of the names that are assigned. -/
  targets : List Lexeme
  /-- The operator. -/
  operator : String
  /-- The tokens behind the operator. -/
  value : List Lexeme
  /-- What stands in front of the operator. -/
  front : Front
deriving DecidableEq, Repr

namespace Assignment

/-- Does the assignment declare its targets? -/
def declares (a : Assignment) : Bool :=
  a.operator == "=" && a.front != .member

/-- The tokens in front of the first assignment operator outside brackets, the operator, and the
tokens behind it.  There is none behind a `=>` outside brackets. -/
def splitAtOperator (depth : Nat) : List Lexeme → Option (List Lexeme × Lexeme × List Lexeme)
  | [] => none
  | t :: ts =>
    if depth == 0 && t.kind == .operator && Vocabulary.assignmentOperators.contains t.text then
      some ([], t, ts)
    else if depth == 0 && t.isOperator "=>" then none
    else
      (splitAtOperator (t.depthAfter depth) ts).map fun (front, op, value) => (t :: front, op, value)

/-- The tokens between square brackets, if `front` is one pair of them and its contents. -/
def tupleInside? : List Lexeme → Option (List Lexeme)
  | first :: rest =>
    if first.isPunctuation "[" && (rest.getLastD first).isPunctuation "]" then some rest.dropLast
    else none
  | [] => none

/-- The names a tuple assigns: it is made of names and commas, with at least one name. -/
def tupleTargets? (inside : List Lexeme) : Option (List Lexeme) :=
  let names := inside.filter (·.isIdentifier)
  if inside.all (fun t => t.isIdentifier || t.isPunctuation ",") && !names.isEmpty then some names
  else none

/-- Is the last token a member, with a point and something else in front of it? -/
def endsWithMember (front : List Lexeme) : Bool :=
  match front.reverse with
  | _ :: point :: _ :: _ => point.isPunctuation "."
  | _ => false

/-- What the tokens in front of an assignment operator assign. -/
def targets? (front : List Lexeme) : Option (List Lexeme × Front) :=
  match tupleInside? front with
  | some inside => (tupleTargets? inside).map (·, .tuple)
  | none =>
    match front.head?, front.getLast? with
    | some head, some target =>
      if !target.isIdentifier then none
      else if endsWithMember front then
        if front.all fun t => t.isIdentifier || t.isPunctuation "." then some ([head], .member)
        else none
      else if front.dropLast.all (·.isTypePart) then
        some ([target],
          .single (front.dropLast.any fun t => Vocabulary.qualifiers.contains t.text))
      else none
    | _, _ => none

end Assignment

namespace Statement

/-- Does the statement start with a word that rules out an assignment? -/
def startsWithBlockKeyword (s : Statement) : Bool :=
  s.first.isIdentifier && Vocabulary.blockKeywords.contains s.first.text

/-- The assignment a statement makes, if it makes one. -/
def assignment? (s : Statement) : Option Assignment := do
  guard !s.startsWithBlockKeyword
  let (front, op, value) ← Assignment.splitAtOperator 0 s.tokens
  let (targets, form) ← Assignment.targets? front
  return ⟨targets, op.text, value, form⟩

/-- The assignment that declares a constant: one name in upper snake case, declared with `=` in a
statement that is not indented. -/
def constant? (s : Statement) : Option (Lexeme × Assignment) := do
  guard (s.indent = 0)
  let a ← s.assignment?
  guard (a.operator == "=" && a.front != .tuple && a.front != .member)
  let name ← a.targets.head?
  guard (isUpperSnake name.text)
  return (name, a)

end Statement

end ChartLint
