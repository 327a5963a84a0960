import ChartLint.Diagnostic
import ChartLint.Flow

/-!
# Coupled control inputs

Each control input is meant to drive a display of its own.  A value that carries the labels of two of
them and reaches an output couples them.  There are two ways to report that.

* A *name* that reaches an output and carries two labels is reported where it is declared.  If all of
  its labels came from one other name, the message says where they were combined.
* An *argument* of an output call is reported at the call, if the names in it carry two labels
  together and no single one of them carries all.  A name that does is left to the first way.

What reaches an output is what the arguments of output calls read, what the conditions of `if` read
when there is an output call in the block under them, and whatever these depend on.
-/

namespace ChartLint

namespace Coupling

/-- The arguments of a call: its tokens, cut at the commas outside inner brackets. -/
def splitArguments (depth : Nat) : List Lexeme → List (List Lexeme)
  | [] => [[]]
  | t :: ts =>
    if depth == 0 && t.isPunctuation "," then [] :: splitArguments depth ts
    else match splitArguments (t.depthAfter depth) ts with
      | [] => [[t]]
      | arg :: args => (t :: arg) :: args

/-- The arguments of a call. -/
def arguments (o : Outline) (c : Call) : List (List Lexeme) :=
  splitArguments 0 (o.tokens.filter fun t => c.contains t.index)

/-- The names that the references among some tokens read, as flows write them. -/
def keysAmong (x : Index) (tokens : Nat → Bool) : List String :=
  (x.references.filter fun r => tokens r.token).map x.referenceKey

/-- Does the statement start with `if` or `else if`? -/
def isCondition (s : Statement) : Bool :=
  s.first.text == "if" || (s.first.text == "else" && s.rest.head?.any (·.text == "if"))

/-- The output calls of a script. -/
def outputCalls (o : Outline) (s : Settings) : List Call :=
  o.calls.filter fun c => s.isOutputCall c.name

/-- The names that reach an output directly. -/
def roots (o : Outline) (x : Index) (s : Settings) : List String :=
  let outputs := outputCalls o s
  let statements := outputs.filterMap o.callStatement?
  let guards := o.statements.zipIdx.filter fun (st, n) =>
    isCondition st && statements.any (o.block n).contains
  outputs.flatMap (fun c => keysAmong x c.contains)
    ++ guards.flatMap fun (_, n) => (x.referencesIn n).map x.referenceKey

/-- Labels in a message. -/
def labelList (labels : NameSet) : String :=
  ", ".intercalate labels.names

/-- The finding about a name that reaches an output. -/
def nameFinding? (g : FlowGraph) (key : String) : Option Diagnostic := do
  guard !g.inputs.contains key
  let origin ← g.mixingOrigin? key
  let position ← g.declaredAt? key
  let via := if origin = key then "" else s!" (combined in '{displayName origin}')"
  return .warning .mixedThresholdUsage position
    s!"'{displayName key}' combines independent control inputs ({labelList (g.labels key)}){via} and reaches an output; keep each input's logic separate"

/-- The labels that some names carry together. -/
def jointLabels (g : FlowGraph) (keys : List String) : NameSet :=
  keys.foldr (fun key labels => (g.labels key).union labels) ∅

/-- The labels of an argument that are coupled in it: two or more, which no single name carries. -/
def coupledLabels? (g : FlowGraph) (keys : List String) : Option NameSet :=
  let labels := jointLabels g keys
  if labels.size < 2 || keys.any (fun key => labels.subset (g.labels key)) then none else some labels

/-- The finding about the first argument of a call that couples control inputs. -/
def callFinding? (o : Outline) (x : Index) (g : FlowGraph) (c : Call) : Option Diagnostic :=
  (arguments o c).zipIdx.findSome? fun (arg, n) =>
    (coupledLabels? g (keysAmong x fun i => arg.any (·.index == i))).map fun labels =>
      .warning .mixedThresholdUsage c.position
        s!"argument {n + 1} of '{c.name}' combines independent control inputs ({labelList labels})"

/-- The findings about coupled control inputs: those about names in the order of the names, then
those about calls. -/
def check (o : Outline) (x : Index) (s : Settings) (patterns : List (String → Bool)) :
    List Diagnostic :=
  let g := FlowGraph.ofScript o x s patterns
  if g.inputs.size < 2 then []
  else
    (g.backwardClosure (roots o x s)).names.filterMap (nameFinding? g)
      ++ (outputCalls o s).filterMap (callFinding? o x g)

end Coupling

end ChartLint
