import ChartLint.Diagnostic
import ChartLint.Index

/-!
# The use of declared names

A function is defined above its first use: a reference in front of the first declaration of its name
is an error if that declaration is a function.  A constant is used somewhere below the line that
declares it.
-/

namespace ChartLint

namespace Usage

/-- The finding about a reference to a function that is defined further down. -/
def forwardFinding? (x : Index) (r : Reference) : Option Diagnostic := do
  let d ← x.get? r.name
  guard (d.kind == .function && r.position < d.position)
  return .error .forwardReference r.position
    s!"function '{r.name}' is used before its definition on line {d.position.line}; define functions before their first use"

/-- The findings about functions that are used above their definition. -/
def checkForward (x : Index) : List Diagnostic :=
  x.references.filterMap (forwardFinding? x)

/-- Is there a reference to the name of the declaration below its line? -/
def isUsedBelow (x : Index) (d : Declaration) : Bool :=
  (x.referencesTo d.name).any fun r => d.position.line < r.position.line

/-- The findings about constants that nothing uses. -/
def checkUnused (x : Index) : List Diagnostic :=
  (x.constants.filter fun d => !isUsedBelow x d).map fun d =>
    .warning .unusedConstant d.position s!"constant '{d.name}' is declared but never used"

end Usage

end ChartLint
