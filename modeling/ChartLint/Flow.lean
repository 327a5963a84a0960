import ChartLint.Flow.Propagation
import ChartLint.Index
import ChartLint.Settings

/-!
# The flow of values

An assignment makes its target depend on the names that its value reads, and a function depends on
every name that its body reads.  Each such fact is a *flow*, from the names that are read to the
target.  A name that is local to a function is written `function::name` in a flow, so that locals of
different functions stay apart.

A control input is a name that carries itself as a label.  Labels follow the flows, and stop at
control inputs: whatever is assigned to a control input, its only label is its own.  So the labels of
a name are the control inputs that it reaches without passing through another control input.

*Reaching.*  `reachFrom` visits names and takes the flows into a visited name out of the graph, so it
ends, and cycles need no care: a name that is met again has no flows left.

*Labels.*  Every target of a flow is a node, whose sources are what all flows into it read.  The labels
are propagated over the nodes in the order of their names, once for the whole graph.

*Origins.*  A name with several labels may have got all of them from one name that it reads.  Followed
back, such names lead to the place where the labels were first combined.
-/

namespace ChartLint

namespace Index

/-- The function whose header or block holds statement number `n`. -/
def owner? (x : Index) (n : Nat) : Option FunctionDef :=
  x.functions.find? (·.covers n)

/-- How a name that is read or written in statement number `n` is written in flows. -/
def key (x : Index) (n : Nat) (name : String) : String :=
  match x.owner? n with
  | some f => if f.locals.contains name then f.name ++ "::" ++ name else name
  | none => name

/-- How the name of a reference is written in flows. -/
def referenceKey (x : Index) (r : Reference) : String :=
  x.key r.statement r.name

end Index

/-- What is to the right of the last double colon. -/
def displayName (key : String) : String :=
  (key.splitOn "::").getLastD key

/-- A target and the names that it depends on. -/
structure Flow where
  /-- The name that depends. -/
  target : String
  /-- The names it depends on. -/
  reads : List String
  /-- Where the target is declared, if the flow comes from a declaration. -/
  declared : Option Position
deriving DecidableEq, Repr

/-! ## Reaching along flows -/

namespace Flow

/-- The names that the flows into `key` read, one list after the other. -/
def readsOf (flows : List Flow) (key : String) : List String :=
  (flows.filter (·.target == key)).flatMap (·.reads)

/-- The set of the names that the flows into `key` read. -/
def sources (flows : List Flow) (key : String) : NameSet :=
  .ofList (readsOf flows key)

/-- The flows that are not into `key`. -/
def without (flows : List Flow) (key : String) : List Flow :=
  flows.filter (·.target != key)

/-- Taking out the flows into a name that has one leaves fewer flows. -/
theorem length_without_lt {flows : List Flow} {key : String} (h : flows.any (·.target == key)) :
    (without flows key).length < flows.length := by
  obtain ⟨f, hf, hkey⟩ := List.any_eq_true.1 h
  exact List.length_filter_lt_length_iff_exists.2 ⟨f, hf, by simpa using hkey⟩

/-- A name that is read by a flow into `key` shows that there is one. -/
theorem any_target_of_mem_sources {flows : List Flow} {key x : String} (h : x ∈ sources flows key) :
    flows.any (·.target == key) := by
  rw [sources, NameSet.mem_ofList, readsOf, List.mem_flatMap] at h
  obtain ⟨f, hf, -⟩ := h
  obtain ⟨hflow, hkey⟩ := List.mem_filter.1 hf
  exact List.any_eq_true.2 ⟨f, hflow, hkey⟩

/-- The names reached from those in `work`, added to those in `seen`.  The flows into a name are
taken out of the graph when the name is visited. -/
def reachFrom (flows : List Flow) (work : List String) (seen : NameSet) : NameSet :=
  match work with
  | [] => seen
  | key :: rest =>
    if flows.any (·.target == key) then
      reachFrom (without flows key) (readsOf flows key ++ rest) (seen.insert key)
    else reachFrom flows rest (seen.insert key)
termination_by (flows.length, work.length)
decreasing_by
  · exact Prod.Lex.left _ _ (length_without_lt (by assumption))
  · exact Prod.Lex.right _ (by simp)

/-- The names that the roots depend on, the roots among them. -/
def reach (flows : List Flow) (roots : List String) : NameSet :=
  reachFrom flows roots ∅

/-- Follow the first source that satisfies `carries`, over and over.  The flows into a name are taken
out when it is left, so a name that is met again is where the walk ends. -/
def follow (carries : String → Bool) (flows : List Flow) (key : String) : String :=
  match _found : (sources flows key).names.find? carries with
  | none => key
  | some next => follow carries (without flows key) next
termination_by flows.length
decreasing_by
  exact length_without_lt (any_target_of_mem_sources (List.mem_of_find?_eq_some (by assumption)))

end Flow

/-! ## The flow graph of a script -/

/-- The targets of flows in increasing order, with their sources. -/
def Flow.nodes (flows : List Flow) : List Node :=
  (NameSet.ofList (flows.map (·.target))).names.map fun key => ⟨key, sources flows key⟩

/-- The flows of a script and its control inputs. -/
structure FlowGraph where
  /-- The flows: those of assignments in order, then those of functions. -/
  flows : List Flow
  /-- The control inputs. -/
  inputs : NameSet
  /-- The labels of all names. -/
  labelling : Labelling inputs
  /-- They are those that the control inputs give to the nodes. -/
  labelling_eq : labelling = .propagate (Flow.nodes flows) inputs

namespace FlowGraph

/-- The flows of the assignment that statement `s`, of number `n`, makes.  A function header makes
none. -/
def assignmentFlows (x : Index) (s : Statement) (n : Nat) : List Flow :=
  if s.functionHeader?.isSome then []
  else match s.assignment? with
    | none => []
    | some a =>
      let reads := (x.referencesIn n).filter fun r => a.value.any (·.index == r.token)
      a.targets.map fun t =>
        ⟨x.key n t.text, reads.map x.referenceKey, if a.declares then some t.position else none⟩

/-- The flow of a function: it depends on everything that its header and its body read. -/
def functionFlow (x : Index) (f : FunctionDef) : Flow :=
  ⟨f.name, (x.references.filter fun r => f.covers r.statement).map x.referenceKey,
    (x.get? f.name).map (·.position)⟩

/-- The control inputs of a script: the configured names, and the names that match a pattern among
those declared in a statement with a call of `input` or of a member of it. -/
def controlInputs (o : Outline) (x : Index) (s : Settings) (patterns : List (String → Bool)) :
    NameSet :=
  let statements := (o.calls.filter fun c => c.name == "input" || c.name.startsWith "input.").filterMap
    o.callStatement?
  let matching := x.declarations.filter fun d =>
    statements.contains d.statement && patterns.any (· d.name)
  .ofList (s.controlInputs ++ matching.map (·.name))

/-- The graph of flows and control inputs. -/
def ofFlows (flows : List Flow) (inputs : NameSet) : FlowGraph :=
  ⟨flows, inputs, .propagate (Flow.nodes flows) inputs, rfl⟩

/-- The flow graph of a script. -/
def ofScript (o : Outline) (x : Index) (s : Settings) (patterns : List (String → Bool)) : FlowGraph :=
  ofFlows ((o.statements.zipIdx.flatMap fun (st, n) => assignmentFlows x st n)
    ++ x.functions.map (functionFlow x)) (controlInputs o x s patterns)

/-- The names that a name depends on directly. -/
def sources (g : FlowGraph) (key : String) : NameSet :=
  Flow.sources g.flows key

/-- Where a name is first declared. -/
def declaredAt? (g : FlowGraph) (key : String) : Option Position :=
  g.flows.findSome? fun f => if f.target = key then f.declared else none

/-- All names whose value can reach one of the roots. -/
def backwardClosure (g : FlowGraph) (roots : List String) : NameSet :=
  Flow.reach g.flows roots

/-- The control inputs whose labels a name carries. -/
def labels (g : FlowGraph) (key : String) : NameSet :=
  g.labelling.get key

/-- The name where all labels of `key` were first combined, if it carries two or more. -/
def mixingOrigin? (g : FlowGraph) (key : String) : Option String :=
  let labels := g.labels key
  if labels.size < 2 then none
  else some (Flow.follow (fun source => labels.subset (g.labels source)) g.flows key)

end FlowGraph

end ChartLint
