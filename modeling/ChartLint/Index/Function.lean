import ChartLint.NameSet
import ChartLint.Outline

/-!
# Functions of a script

A function is defined by a statement that is not indented and reads `name(parameters) => body`,
perhaps with `method` or `export` in front.  The body stands behind the arrow, or it is the block
under the statement.

*Parameters.*  A name outside inner brackets is a parameter if a comma, the closing parenthesis or
`=` follows it; so the type in front of a parameter is none.  What follows `=` up to the next comma
is the default value.

*Locals.*  A name that the body declares with `=` belongs to the function.  In a body behind the
arrow that is every name outside brackets with `=` behind it.
-/

namespace ChartLint

/-- What a parameter list holds, and what follows it. -/
structure ParameterList where
  /-- The names of the parameters. -/
  names : List String
  /-- The tokens of the default values. -/
  defaults : List Lexeme
  /-- The tokens behind the closing parenthesis. -/
  rest : List Lexeme

namespace ParameterList

/-- Does a parameter end in front of these tokens? -/
def endsParameter : List Lexeme → Bool
  | [] => false
  | t :: _ => t.isPunctuation "," || t.isPunctuation ")" || t.isOperator "="

/-- Read a parameter list behind its opening parenthesis.  `depth` counts the open brackets, that
parenthesis included; `inDefault` tells whether a default value is being read. -/
def read? (depth : Nat) (inDefault : Bool) : List Lexeme → Option ParameterList
  | [] => none
  | t :: ts =>
    let after := t.depthAfter depth
    if t.isClosing && after == 0 then some ⟨[], [], ts⟩
    else if after == 1 && t.isPunctuation "," then read? after false ts
    else if after == 1 && t.isOperator "=" then read? after true ts
    else if inDefault then
      (read? after inDefault ts).map fun p => { p with defaults := t :: p.defaults }
    else if after == 1 && t.isIdentifier && endsParameter ts then
      (read? after inDefault ts).map fun p => { p with names := t.text :: p.names }
    else read? after inDefault ts

end ParameterList

/-- The header of a function: everything up to the arrow, and the body behind it. -/
structure FunctionHeader where
  /-- The token of the name. -/
  name : Lexeme
  /-- The names of the parameters. -/
  parameters : NameSet
  /-- The tokens of the default values. -/
  defaults : List Lexeme
  /-- The tokens behind the arrow. -/
  body : List Lexeme

namespace FunctionHeader

/-- The header that the tokens of a statement form. -/
def ofTokens? (ts : List Lexeme) : Option FunctionHeader :=
  match ts.dropWhile fun t => Vocabulary.functionPrefixes.contains t.text with
  | name :: paren :: rest =>
    if name.isIdentifier && !Vocabulary.keywords.contains name.text && paren.isPunctuation "(" then
      match ParameterList.read? 1 false rest with
      | some ⟨names, defaults, arrow :: body⟩ =>
        if arrow.isOperator "=>" then some ⟨name, .ofList names, defaults, body⟩ else none
      | _ => none
    else none
  | _ => none

end FunctionHeader

/-- The header of the function that a statement defines. -/
def Statement.functionHeader? (s : Statement) : Option FunctionHeader :=
  if s.indent = 0 then FunctionHeader.ofTokens? s.tokens else none

/-- A function of a script. -/
structure FunctionDef where
  /-- The header. -/
  header : FunctionHeader
  /-- The number of the statement that defines the function. -/
  statement : Nat
  /-- The statements of the body that stand in a block; none if the body is behind the arrow. -/
  block : Span
  /-- The names the body declares. -/
  locals : NameSet

namespace FunctionDef

/-- The name of the function. -/
def name (f : FunctionDef) : String :=
  f.header.name.text

/-- Is statement number `n` part of the block of the function? -/
def hasInBlock (f : FunctionDef) (n : Nat) : Bool :=
  f.block.contains n

/-- Is statement number `n` the header of the function or part of its block? -/
def covers (f : FunctionDef) (n : Nat) : Bool :=
  n == f.statement || f.block.contains n

/-- The names that a body behind an arrow declares. -/
def inlineLocals (depth : Nat) : List Lexeme → List String
  | [] => []
  | t :: ts =>
    let more := inlineLocals (t.depthAfter depth) ts
    if depth == 0 && t.isIdentifier && !Vocabulary.keywords.contains t.text
        && ts.head?.any (·.isOperator "=") then
      t.text :: more
    else more

end FunctionDef

/-- The names that a statement declares. -/
def Statement.declaredNames (s : Statement) : List String :=
  match s.assignment? with
  | some a => if a.declares then a.targets.map (·.text) else []
  | none => []

namespace Outline

/-- The statements of a span. -/
def statementsIn (o : Outline) (span : Span) : List Statement :=
  (o.statements.drop span.start).take (span.stop - span.start)

/-- The function that statement `s`, of number `n`, defines. -/
def function? (o : Outline) (s : Statement) (n : Nat) : Option FunctionDef :=
  s.functionHeader?.map fun header =>
    let block := if header.body.isEmpty then o.block n else ⟨n + 1, n + 1⟩
    let locals := (o.statementsIn block).flatMap (·.declaredNames)
      ++ FunctionDef.inlineLocals 0 header.body
    ⟨header, n, block, .ofList locals⟩

/-- The functions of a script, in order. -/
def functions (o : Outline) : List FunctionDef :=
  o.statements.zipIdx.filterMap fun (s, n) => o.function? s n

end Outline

end ChartLint
