import ChartLint.Index.Reference

/-!
# The index of a script

The index holds every declaration, every reference and every function of a script, each in the order
of the script.  A name may be declared more than once; the first declaration is the one that counts
when the name is looked up.

Each statement contributes by itself.  The only thing it needs from the rest of the script is the
function whose block it is in, which hides its parameters there.
-/

namespace ChartLint

/-- What a declared name is. -/
inductive DeclarationKind where
  /-- A single name in upper snake case, declared in a statement that is not indented. -/
  | constant
  /-- Any other assigned name. -/
  | variable
  /-- The name in a function header. -/
  | function
deriving DecidableEq, Repr

/-- A declared name. -/
structure Declaration where
  /-- The name. -/
  name : String
  /-- Where it is declared. -/
  position : Position
  /-- What it is. -/
  kind : DeclarationKind
  /-- The number of the statement that declares it. -/
  statement : Nat
deriving DecidableEq, Repr

/-- What an assignment in statement `s` makes of a target it declares. -/
def Statement.declarationKind (s : Statement) (a : Assignment) (name : String) : DeclarationKind :=
  if a.front != .tuple && s.indent == 0 && isUpperSnake name then .constant else .variable

/-- The declarations that statement `s`, of number `n`, makes. -/
def Statement.declarations (s : Statement) (n : Nat) : List Declaration :=
  match s.functionHeader? with
  | some header => [⟨header.name.text, header.name.position, .function, n⟩]
  | none =>
    match s.assignment? with
    | some a =>
      if a.declares then
        a.targets.map fun t => ⟨t.text, t.position, s.declarationKind a t.text, n⟩
      else []
    | none => []

/-- Declarations, references and functions of a script. -/
structure Index where
  /-- The declarations, in order. -/
  declarations : List Declaration
  /-- The references, in order. -/
  references : List Reference
  /-- The functions, in order. -/
  functions : List FunctionDef

namespace Index

/-- The parameters that the functions hide in statement number `n`. -/
def parametersAt (functions : List FunctionDef) (n : Nat) : NameSet :=
  match functions.find? (·.hasInBlock n) with
  | some f => f.header.parameters
  | none => ∅

/-- The index of a script. -/
def ofOutline (o : Outline) : Index where
  declarations := o.statements.zipIdx.flatMap fun (s, n) => s.declarations n
  references := o.statements.zipIdx.flatMap fun (s, n) =>
    (s.uses (parametersAt o.functions n)).map (Reference.ofToken n)
  functions := o.functions

/-- The first declaration of a name. -/
def get? (x : Index) (name : String) : Option Declaration :=
  x.declarations.find? (·.name == name)

/-- The references to a name. -/
def referencesTo (x : Index) (name : String) : List Reference :=
  x.references.filter (·.name == name)

/-- The references in a statement. -/
def referencesIn (x : Index) (statement : Nat) : List Reference :=
  x.references.filter (·.statement == statement)

/-- The declarations of constants. -/
def constants (x : Index) : List Declaration :=
  x.declarations.filter (·.kind == .constant)

end Index

end ChartLint
