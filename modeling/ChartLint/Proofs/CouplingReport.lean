import ChartLint.Proofs.InBounds
import ChartLint.Proofs.LabelReachability

/-!
# Couplings are reported

The findings about coupled control inputs come in two ways, about names and about calls, and the
second one leaves to the first what a single name carries.  Together they report every argument of
an output call in which two control inputs meet, up to names that the script does not introduce, and
nothing else.

*Arguments.*  `Couples` says that the references in an argument carry two labels together, and
`CarriesAll` that one of them carries all of these labels.  A call is reported if it has an argument
that couples while none of its references carries all (`callFinding?_isSome_iff`).

*Names.*  A reference that carries all labels of a coupling argument is no control input, since a
control input carries one label only.  It stands in an argument of an output call, so its name is
among the roots and reaches an output.  What is left is that the name has a declaration, which it
has if the script introduces it (`declaredAt?_eq_none_iff`).
-/

namespace ChartLint

theorem NameSet.two_le_size_iff {s : NameSet} : 2 ≤ s.size ↔ ∃ a b, a ∈ s ∧ b ∈ s ∧ a ≠ b := by
  obtain ⟨names, hsorted⟩ := s
  cases names with
  | nil => simp [size, mem_def]
  | cons a names =>
      cases names with
      | nil =>
          simp only [size, mem_def, List.mem_singleton]
          constructor
          · intro h
            exact absurd h (Nat.not_succ_le_self 1)
          · rintro ⟨b, c, rfl, rfl, hne⟩
            exact absurd rfl hne
      | cons b names =>
          have hlt : a < b := (List.pairwise_cons.1 hsorted).1 b List.mem_cons_self
          have hne : a ≠ b := fun h => String.lt_irrefl b (h ▸ hlt)
          refine iff_of_true (Nat.le_add_left 2 names.length) ⟨a, b, List.mem_cons_self, ?_, hne⟩
          exact List.mem_cons_of_mem a List.mem_cons_self

/-! ## Names in flows -/

/-- What is visited or still to be visited is reached. -/
theorem Flow.mem_reachFrom {flows : List Flow} {work : List String} {seen : NameSet} {key : String}
    (h : key ∈ work ∨ key ∈ seen) : key ∈ reachFrom flows work seen := by
  fun_induction reachFrom flows work seen with
  | case1 flows seen => exact h.resolve_left List.not_mem_nil
  | case2 flows seen next rest htarget ih =>
      refine ih ?_
      rw [List.mem_append, NameSet.mem_insert]
      rcases h with h | h
      · rcases List.mem_cons.1 h with rfl | h
        · exact Or.inr (Or.inl rfl)
        · exact Or.inl (Or.inr h)
      · exact Or.inr (Or.inr h)
  | case3 flows seen next rest htarget ih =>
      refine ih ?_
      rw [NameSet.mem_insert]
      rcases h with h | h
      · rcases List.mem_cons.1 h with rfl | h
        · exact Or.inr (Or.inl rfl)
        · exact Or.inl h
      · exact Or.inr (Or.inr h)

/-- Statement number `n` introduces a name of the flows with `=`. -/
def Statement.Introduces (st : Statement) (x : Index) (n : Nat) (key : String) : Prop :=
  st.functionHeader? = none ∧ ∃ a, st.assignment? = some a ∧ a.declares = true ∧
    ∃ t ∈ a.targets, x.key n t.text = key

namespace Index

/-- The script introduces a name of the flows with `=` or as a function. -/
def Introduces (x : Index) (o : Outline) (key : String) : Prop :=
  (∃ (n : Nat) (st : Statement), o.statements[n]? = some st ∧ st.Introduces x n key) ∨
    ∃ f ∈ x.functions, f.name = key

/-- A function has a declaration. -/
theorem exists_get?_of_mem_functions {o : Outline} {f : FunctionDef}
    (hf : f ∈ (ofOutline o).functions) : ∃ d, (ofOutline o).get? f.name = some d := by
  obtain ⟨⟨st, n⟩, hmem, hfunction⟩ := List.mem_filterMap.1 hf
  obtain ⟨header, hheader, rfl⟩ := Option.map_eq_some_iff.1 hfunction
  have hd : (⟨header.name.text, header.name.position, .function, n⟩ : Declaration) ∈
      (ofOutline o).declarations := by
    refine mem_declarations_iff.2 ⟨n, st, List.mem_zipIdx_iff_getElem?.1 hmem, ?_⟩
    rw [Statement.declarations, hheader]
    exact List.mem_singleton_self _
  refine Option.isSome_iff_exists.1 ?_
  rw [get?, List.find?_isSome]
  exact ⟨_, hd, beq_self_eq_true _⟩

end Index

namespace FlowGraph

/-- The flows of a statement declare the names that the statement introduces. -/
theorem declared_assignmentFlows {x : Index} {st : Statement} {n : Nat} {key : String} :
    (∀ f ∈ assignmentFlows x st n, f.target = key → f.declared = none) ↔
      ¬ st.Introduces x n key := by
  rw [assignmentFlows, Statement.Introduces]
  cases st.functionHeader? with
  | some header => simp
  | none =>
      cases st.assignment? with
      | none => simp
      | some a => cases h : a.declares <;> simp [h]

theorem declared_functionFlow {o : Outline} {f : FunctionDef}
    (hf : f ∈ (Index.ofOutline o).functions) : (functionFlow (.ofOutline o) f).declared ≠ none := by
  obtain ⟨d, hd⟩ := Index.exists_get?_of_mem_functions hf
  rw [functionFlow, hd]
  nofun

/-- A name without a declaration is one that the script does not introduce. -/
theorem declaredAt?_eq_none_iff {o : Outline} {s : Settings} {patterns : List (String → Bool)}
    {key : String} :
    (ofScript o (.ofOutline o) s patterns).declaredAt? key = none ↔
      ¬ (Index.ofOutline o).Introduces o key := by
  have hflows : (ofScript o (.ofOutline o) s patterns).declaredAt? key = none ↔
      ∀ f ∈ (ofScript o (.ofOutline o) s patterns).flows, f.target = key → f.declared = none := by
    rw [declaredAt?, List.findSome?_eq_none_iff]
    refine forall₂_congr fun f _ => ?_
    by_cases h : f.target = key <;> simp [h]
  rw [hflows, ofScript, ofFlows, List.forall_mem_append, Index.Introduces, not_or]
  refine and_congr ?_ ?_
  · simp only [List.mem_flatMap, Prod.exists, List.mem_zipIdx_iff_getElem?]
    constructor
    · rintro h ⟨n, st, hst, hintroduces⟩
      exact declared_assignmentFlows.1 (fun f hf => h f ⟨st, n, hst, hf⟩) hintroduces
    · rintro h f ⟨st, n, hst, hf⟩
      exact declared_assignmentFlows.2 (fun hintroduces => h ⟨n, st, hst, hintroduces⟩) f hf
  · rw [List.forall_mem_map]
    constructor
    · rintro h ⟨f, hf, hname⟩
      exact declared_functionFlow hf (h f hf hname)
    · intro h f hf hname
      exact absurd ⟨f, hf, hname⟩ h

/-- A control input does not carry two labels. -/
theorem not_mem_inputs {g : FlowGraph} {key : String} (h : 2 ≤ (g.labels key).size) :
    key ∉ g.inputs := by
  intro hkey
  obtain ⟨a, b, ha, hb, hne⟩ := NameSet.two_le_size_iff.1 h
  rw [labels_of_mem_inputs hkey, NameSet.mem_ofList, List.mem_singleton] at ha hb
  exact hne (ha.trans hb.symm)

end FlowGraph

namespace Coupling

/-! ## Arguments -/

/-- The references that stand among some tokens. -/
def referencesAmong (x : Index) (arg : List Lexeme) : List Reference :=
  x.references.filter fun r => arg.any (·.index == r.token)

/-- A reference among the tokens carries the label. -/
def Carried (x : Index) (g : FlowGraph) (arg : List Lexeme) (label : String) : Prop :=
  ∃ r ∈ referencesAmong x arg, label ∈ g.labels (x.referenceKey r)

/-- The references among the tokens carry two labels together. -/
def Couples (x : Index) (g : FlowGraph) (arg : List Lexeme) : Prop :=
  ∃ a b, Carried x g arg a ∧ Carried x g arg b ∧ a ≠ b

/-- The reference stands among the tokens and carries all labels that references there carry. -/
def CarriesAll (x : Index) (g : FlowGraph) (arg : List Lexeme) (r : Reference) : Prop :=
  r ∈ referencesAmong x arg ∧
    ∀ label, Carried x g arg label → label ∈ g.labels (x.referenceKey r)

variable {o : Outline} {x : Index} {s : Settings} {g : FlowGraph} {arg : List Lexeme} {c : Call}
  {d : Diagnostic}

theorem mem_jointLabels {keys : List String} {label : String} :
    label ∈ jointLabels g keys ↔ ∃ key ∈ keys, label ∈ g.labels key := by
  induction keys with
  | nil => simp [jointLabels]
  | cons key keys ih =>
      rw [jointLabels] at ih ⊢
      simp [ih]

/-- The keys of the references among the tokens of an argument. -/
theorem keysAmong_eq (x : Index) (arg : List Lexeme) :
    keysAmong x (fun i => arg.any (·.index == i)) = (referencesAmong x arg).map x.referenceKey :=
  rfl

theorem mem_jointLabels_iff {label : String} :
    label ∈ jointLabels g (keysAmong x fun i => arg.any (·.index == i)) ↔
      Carried x g arg label := by
  rw [mem_jointLabels, keysAmong_eq]
  simp [Carried]

theorem two_le_size_labels (h : Couples x g arg) {r : Reference} (hr : CarriesAll x g arg r) :
    2 ≤ (g.labels (x.referenceKey r)).size := by
  obtain ⟨a, b, ha, hb, hne⟩ := h
  exact NameSet.two_le_size_iff.2 ⟨a, b, hr.2 a ha, hr.2 b hb, hne⟩

theorem coupledLabels?_isSome_iff :
    (coupledLabels? g (keysAmong x fun i => arg.any (·.index == i))).isSome = true ↔
      Couples x g arg ∧ ∀ r, ¬ CarriesAll x g arg r := by
  have hsize : ¬ (jointLabels g (keysAmong x fun i => arg.any (·.index == i))).size < 2 ↔
      Couples x g arg := by
    rw [Nat.not_lt, NameSet.two_le_size_iff]
    simp only [mem_jointLabels_iff]
    rfl
  have hkey : (∃ key ∈ keysAmong x (fun i => arg.any (·.index == i)),
      (jointLabels g (keysAmong x fun i => arg.any (·.index == i))).subset (g.labels key) = true) ↔
      ∃ r, CarriesAll x g arg r := by
    simp only [NameSet.subset_iff, mem_jointLabels_iff]
    simp [keysAmong_eq, CarriesAll]
  rw [← hsize, ← not_exists, ← hkey, coupledLabels?]
  simp

/-! ## Findings -/

/-- A call is reported if it has an argument that couples and none of its references carries all. -/
theorem callFinding?_isSome_iff :
    (callFinding? o x g c).isSome = true ↔
      ∃ arg ∈ arguments o c, Couples x g arg ∧ ∀ r, ¬ CarriesAll x g arg r := by
  rw [callFinding?, List.isSome_findSome?, List.any_eq_true]
  simp only [Option.isSome_map, coupledLabels?_isSome_iff]
  constructor
  · rintro ⟨⟨arg, n⟩, hmem, h⟩
    exact ⟨arg, List.mem_of_getElem? (List.mem_zipIdx_iff_getElem?.1 hmem), h⟩
  · rintro ⟨arg, hmem, h⟩
    obtain ⟨n, hn⟩ := List.getElem?_of_mem hmem
    exact ⟨(arg, n), List.mem_zipIdx_iff_getElem?.2 hn, h⟩

theorem eq_warning_of_callFinding? (h : callFinding? o x g c = some d) :
    ∃ message, d = .warning .mixedThresholdUsage c.position message := by
  obtain ⟨⟨arg, n⟩, -, hfound⟩ := List.exists_of_findSome?_eq_some h
  obtain ⟨labels, -, rfl⟩ := Option.map_eq_some_iff.1 hfound
  exact ⟨_, rfl⟩

/-- A name is reported where it is declared if it is no control input and carries two labels. -/
theorem nameFinding?_isSome_iff {key : String} :
    (nameFinding? g key).isSome = true ↔
      key ∉ g.inputs ∧ 2 ≤ (g.labels key).size ∧ (g.declaredAt? key).isSome = true := by
  constructor
  · intro h
    obtain ⟨d, h⟩ := Option.isSome_iff_exists.1 h
    obtain ⟨_, hguard, h⟩ := Option.bind_eq_some_iff.1 h
    obtain ⟨origin, horigin, h⟩ := Option.bind_eq_some_iff.1 h
    obtain ⟨position, hposition, -⟩ := Option.bind_eq_some_iff.1 h
    refine ⟨?_, ?_, Option.isSome_iff_exists.2 ⟨position, hposition⟩⟩
    · intro hinput
      rw [NameSet.contains_iff.2 hinput] at hguard
      cases hguard
    · rw [FlowGraph.mixingOrigin?] at horigin
      split at horigin
      case isTrue => cases horigin
      case isFalse hsize => exact Nat.le_of_not_lt hsize
  · rintro ⟨hinput, hsize, hdeclared⟩
    obtain ⟨position, hposition⟩ := Option.isSome_iff_exists.1 hdeclared
    rw [← NameSet.contains_iff, Bool.not_eq_true] at hinput
    rw [nameFinding?, hinput, FlowGraph.mixingOrigin?, if_neg (Nat.not_lt_of_le hsize), hposition]
    rfl

theorem eq_warning_of_nameFinding? {key : String} (h : nameFinding? g key = some d) :
    ∃ position message, g.declaredAt? key = some position ∧
      d = .warning .mixedThresholdUsage position message := by
  obtain ⟨-, -, h⟩ := Option.bind_eq_some_iff.1 h
  obtain ⟨origin, -, h⟩ := Option.bind_eq_some_iff.1 h
  obtain ⟨position, hposition, h⟩ := Option.bind_eq_some_iff.1 h
  exact ⟨position, _, hposition, (Option.some.inj h).symm⟩

/-- A reference in an argument of an output call reaches an output. -/
theorem referenceKey_mem_roots (hc : c ∈ outputCalls o s) (harg : arg ∈ arguments o c)
    {r : Reference} (hr : r ∈ referencesAmong x arg) : x.referenceKey r ∈ roots o x s := by
  obtain ⟨hr, hmem⟩ := List.mem_filter.1 hr
  obtain ⟨t, ht, hindex⟩ := List.any_eq_true.1 hmem
  have hcontains := (List.mem_filter.1 ((isInfix_of_mem_splitArguments harg).subset ht)).2
  rw [eq_of_beq hindex] at hcontains
  refine List.mem_append_left _ (List.mem_flatMap.2 ⟨c, hc, List.mem_map_of_mem ?_⟩)
  exact List.mem_filter.2 ⟨hr, hcontains⟩

theorem two_le_size_inputs (h : Couples x g arg) : 2 ≤ g.inputs.size := by
  obtain ⟨a, b, ⟨_, -, ha⟩, ⟨_, -, hb⟩, hne⟩ := h
  exact NameSet.two_le_size_iff.2 ⟨a, b, Labelling.mem_inputs ha, Labelling.mem_inputs hb, hne⟩

/-! ## Scripts -/

section Scripts

variable {patterns : List (String → Bool)} (hg : g = FlowGraph.ofScript o x s patterns)
include hg

/-- There are findings about the names that reach an output and about output calls, if there are two
control inputs. -/
theorem mem_check_iff :
    d ∈ check o x s patterns ↔
      2 ≤ g.inputs.size ∧
        ((∃ key ∈ g.backwardClosure (roots o x s), nameFinding? g key = some d) ∨
          ∃ c ∈ outputCalls o s, callFinding? o x g c = some d) := by
  subst hg
  simp only [check]
  split
  case isTrue h => simp [Nat.not_le_of_lt h]
  case isFalse h =>
    rw [List.mem_append, List.mem_filterMap, List.mem_filterMap]
    exact (and_iff_right (Nat.le_of_not_lt h)).symm

theorem exists_warning_at_call (hc : c ∈ outputCalls o s) (harg : arg ∈ arguments o c)
    (h : Couples x g arg) (hnone : ∀ r, ¬ CarriesAll x g arg r) :
    ∃ d ∈ check o x s patterns, d.position = c.position := by
  have hsome := callFinding?_isSome_iff.2 ⟨arg, harg, h, hnone⟩
  obtain ⟨d, hd⟩ := Option.isSome_iff_exists.1 hsome
  obtain ⟨message, rfl⟩ := eq_warning_of_callFinding? hd
  exact ⟨_, (mem_check_iff hg).2 ⟨two_le_size_inputs h, Or.inr ⟨c, hc, hd⟩⟩, rfl⟩

theorem exists_warning_at_declaration (hc : c ∈ outputCalls o s) (harg : arg ∈ arguments o c)
    (h : Couples x g arg) {r : Reference} (hr : CarriesAll x g arg r)
    (hdeclared : g.declaredAt? (x.referenceKey r) ≠ none) :
    ∃ d ∈ check o x s patterns, g.declaredAt? (x.referenceKey r) = some d.position := by
  have hsize := two_le_size_labels h hr
  have hsome := nameFinding?_isSome_iff.2
    ⟨FlowGraph.not_mem_inputs hsize, hsize, Option.isSome_iff_ne_none.2 hdeclared⟩
  obtain ⟨d, hd⟩ := Option.isSome_iff_exists.1 hsome
  have hreach : x.referenceKey r ∈ g.backwardClosure (roots o x s) :=
    Flow.mem_reachFrom (Or.inl (referenceKey_mem_roots hc harg hr.1))
  obtain ⟨position, message, hposition, rfl⟩ := eq_warning_of_nameFinding? hd
  exact ⟨_, (mem_check_iff hg).2 ⟨two_le_size_inputs h, Or.inl ⟨_, hreach, hd⟩⟩, hposition⟩

/-- Every finding is a warning at the declaration of a name or at an output call. -/
theorem founded_of_mem_check (h : d ∈ check o x s patterns) :
    d.category = .mixedThresholdUsage ∧ d.severity = .warning ∧
      ((∃ key, key ∉ g.inputs ∧ key ∈ g.backwardClosure (roots o x s) ∧
        2 ≤ (g.labels key).size ∧ g.declaredAt? key = some d.position) ∨
      ∃ c ∈ outputCalls o s, d.position = c.position ∧
        ∃ arg ∈ arguments o c, Couples x g arg ∧ ∀ r, ¬ CarriesAll x g arg r) := by
  obtain ⟨-, ⟨key, hreach, hd⟩ | ⟨c, hc, hd⟩⟩ := (mem_check_iff hg).1 h
  · obtain ⟨hinput, hsize, -⟩ := nameFinding?_isSome_iff.1 (Option.isSome_iff_exists.2 ⟨d, hd⟩)
    obtain ⟨position, message, hposition, rfl⟩ := eq_warning_of_nameFinding? hd
    exact ⟨rfl, rfl, Or.inl ⟨key, hinput, hreach, hsize, hposition⟩⟩
  · have harguments := callFinding?_isSome_iff.1 (Option.isSome_iff_exists.2 ⟨d, hd⟩)
    obtain ⟨message, rfl⟩ := eq_warning_of_callFinding? hd
    exact ⟨rfl, rfl, Or.inr ⟨c, hc, rfl, harguments⟩⟩

end Scripts

/-- Couplings are reported.  If the references in an argument of an output call carry two labels
together, then there is a warning at the call, or one at the declaration of a reference that carries
all of them, or no reference that does so is a name that the script introduces.  Every warning is at
the declaration of a name that is no control input, reaches an output and carries two labels, or at
an output call with such an argument and no reference in it that carries all. -/
theorem couplings_reported (source : String) (s : Settings) (patterns : List (String → Bool)) :
    let script := Script.read source s
    let o := script.outline
    let x := script.index
    let g := FlowGraph.ofScript o x s patterns
    (∀ c ∈ outputCalls o s, ∀ arg ∈ arguments o c, Couples x g arg →
      (∃ d ∈ check o x s patterns, d.position = c.position) ∨
      (∃ r, CarriesAll x g arg r ∧
        ∃ d ∈ check o x s patterns, g.declaredAt? (x.referenceKey r) = some d.position) ∨
      ((∃ r, CarriesAll x g arg r) ∧ ∀ r, CarriesAll x g arg r →
        g.declaredAt? (x.referenceKey r) = none ∧ ¬ x.Introduces o (x.referenceKey r))) ∧
    ∀ d ∈ check o x s patterns, d.category = .mixedThresholdUsage ∧ d.severity = .warning ∧
      ((∃ key, key ∉ g.inputs ∧ key ∈ g.backwardClosure (roots o x s) ∧
        2 ≤ (g.labels key).size ∧ g.declaredAt? key = some d.position) ∨
      ∃ c ∈ outputCalls o s, d.position = c.position ∧
        ∃ arg ∈ arguments o c, Couples x g arg ∧ ∀ r, ¬ CarriesAll x g arg r) := by
  intro script o x g
  refine ⟨?_, fun d hd => founded_of_mem_check rfl hd⟩
  intro c hc arg harg hcouples
  by_cases hnone : ∀ r, ¬ CarriesAll x g arg r
  · exact Or.inl (exists_warning_at_call rfl hc harg hcouples hnone)
  · right
    by_cases hdeclared : ∃ r, CarriesAll x g arg r ∧ g.declaredAt? (x.referenceKey r) ≠ none
    · obtain ⟨r, hr, hdeclared⟩ := hdeclared
      exact Or.inl ⟨r, hr, exists_warning_at_declaration rfl hc harg hcouples hr hdeclared⟩
    · refine Or.inr ⟨not_forall_not.1 hnone, fun r hr => ?_⟩
      have hundeclared : g.declaredAt? (x.referenceKey r) = none := by
        by_contra hsome
        exact hdeclared ⟨r, hr, hsome⟩
      exact ⟨hundeclared, FlowGraph.declaredAt?_eq_none_iff.1 hundeclared⟩

/-- A sum of two control inputs that is plotted under a name is reported. -/
theorem couplings_reported_sum :
    let s : Settings := { controlInputs := ["a", "b"] }
    let script := Script.read "m = a + b\nplot(m)" s
    let o := script.outline
    let x := script.index
    let g := FlowGraph.ofScript o x s []
    let c : Call := ⟨"plot", ⟨2, 1⟩, 6, 7, 9⟩
    let arg : List Lexeme := [⟨⟨.identifier, "m", ⟨2, 6⟩⟩, 8⟩]
    c ∈ outputCalls o s ∧ arg ∈ arguments o c ∧ Couples x g arg ∧
      ∃ d ∈ check o x s [], d.position = ⟨1, 1⟩ ∨ d.position = ⟨2, 1⟩ := by
  intro s script o x g c arg
  have hc : c ∈ outputCalls o s := by decide +kernel
  have harg : arg ∈ arguments o c := by decide +kernel
  have hinputs : "a" ∈ g.inputs ∧ "b" ∈ g.inputs ∧ "m" ∉ g.inputs := by decide +kernel
  have hsources : "a" ∈ g.sources "m" ∧ "b" ∈ g.sources "m" := by decide +kernel
  have hr : (⟨"m", ⟨2, 6⟩, 8, 1⟩ : Reference) ∈ referencesAmong x arg := by decide +kernel
  have hkey : x.referenceKey ⟨"m", ⟨2, 6⟩, 8, 1⟩ = "m" := by decide +kernel
  have hdeclared : ∀ r ∈ referencesAmong x arg,
      g.declaredAt? (x.referenceKey r) = some ⟨1, 1⟩ := by decide +kernel
  have hcouples : Couples x g arg := by
    refine ⟨"a", "b", ⟨_, hr, ?_⟩, ⟨_, hr, ?_⟩, by decide⟩
    · rw [hkey, FlowGraph.mem_labels]
      exact .source hinputs.2.2 hsources.1 (.input hinputs.1)
    · rw [hkey, FlowGraph.mem_labels]
      exact .source hinputs.2.2 hsources.2 (.input hinputs.2.1)
  refine ⟨hc, harg, hcouples, ?_⟩
  rcases (couplings_reported "m = a + b\nplot(m)" { controlInputs := ["a", "b"] } []).1 c hc arg
    harg hcouples with ⟨d, hd, hposition⟩ | ⟨r, hr, d, hd, hposition⟩ | ⟨⟨r, hr⟩, hundeclared⟩
  · exact ⟨d, hd, Or.inr hposition⟩
  · exact ⟨d, hd, Or.inl (Option.some.inj (hposition.symm.trans (hdeclared r hr.1)))⟩
  · exact absurd ((hdeclared r hr.1).symm.trans (hundeclared r hr).1) (by simp)

end Coupling

end ChartLint
