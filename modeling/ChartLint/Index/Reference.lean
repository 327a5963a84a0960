import ChartLint.Index.Function

/-!
# References

A reference is a use of a name of the script.  An identifier is one unless

* a point precedes it: then it is a member,
* it is a builtin namespace and a point follows it,
* it stands inside brackets and `=` follows it: then it names an argument,
* it is a keyword, or
* it is a parameter of the function whose body it is in.

The tokens that are looked through are not always those of a whole statement, and what precedes and
follows an identifier means what does so among them.
-/

namespace ChartLint

/-- The identifiers among `ts` that are uses of names.  `depth` is the bracket depth in front of
them, and `afterPoint` tells whether a point precedes them. -/
def usesFrom (hidden : NameSet) (depth : Nat) (afterPoint : Bool) : List Lexeme → List Lexeme
  | [] => []
  | t :: ts =>
    let more := usesFrom hidden (t.depthAfter depth) (t.isPunctuation ".") ts
    if t.isIdentifier && !afterPoint
        && !(ts.head?.any (·.isPunctuation ".") && Vocabulary.builtinNamespaces.contains t.text)
        && !(depth != 0 && ts.head?.any (·.isOperator "="))
        && !Vocabulary.keywords.contains t.text && !hidden.contains t.text then
      t :: more
    else more

/-- The identifiers among `ts` that are uses of names other than the hidden ones. -/
def uses (hidden : NameSet) (ts : List Lexeme) : List Lexeme :=
  usesFrom hidden 0 false ts

/-- The uses of names in a statement.  `parameters` are those of the function whose block the
statement is in. -/
def Statement.uses (s : Statement) (parameters : NameSet) : List Lexeme :=
  match s.functionHeader? with
  | some header =>
    ChartLint.uses parameters header.defaults
      ++ ChartLint.uses (parameters.union header.parameters) header.body
  | none =>
    match s.assignment? with
    | some a =>
      (if a.declares then [] else ChartLint.uses parameters a.targets)
        ++ ChartLint.uses parameters a.value
    | none => ChartLint.uses parameters s.tokens

/-- A use of a name. -/
structure Reference where
  /-- The name. -/
  name : String
  /-- Where it is used. -/
  position : Position
  /-- The number of the token. -/
  token : Nat
  /-- The number of the statement the token is in. -/
  statement : Nat
deriving DecidableEq, Repr

/-- The reference that a token of statement number `n` makes. -/
def Reference.ofToken (n : Nat) (t : Lexeme) : Reference :=
  ⟨t.text, t.position, t.index, n⟩

end ChartLint
