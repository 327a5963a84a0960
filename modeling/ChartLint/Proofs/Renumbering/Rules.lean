import ChartLint.Proofs.Renumbering.Index
import ChartLint.Rule

/-!
# Findings do not depend on numbers

Findings hold positions and no numbers.  The flow graph of a script refers to names alone, so it is
the same under new numbers (`ofScript_eq`), and every rule that looks at tokens finds the same.

The arguments of a call are cut out of all tokens between its parentheses, comments among them.  What
is asked of an argument is which references stand in it, and a comment is none
(`SameCode.argumentNumbers_eq`).
-/

namespace ChartLint

variable {f : Renumbering}

/-! ## The flow graph -/

namespace Index

theorem renumber_owner? (x : Index) (n : Nat) :
    (x.renumber f).owner? n = (x.owner? n).map (·.renumber f) := by
  rw [owner?, owner?, renumber, List.find?_map]
  rfl

@[simp] theorem renumber_key (x : Index) (n : Nat) (name : String) :
    (x.renumber f).key n name = x.key n name := by
  rw [key, key, renumber_owner?]
  cases x.owner? n <;> rfl

theorem renumber_filter (x : Index) (p : Reference → Bool) :
    (x.renumber f).references.filter p =
      (x.references.filter fun r => p (r.renumber f)).map (·.renumber f) := by
  rw [renumber, List.filter_map]
  rfl

/-- What a reference reads is written the same in flows. -/
@[simp] theorem renumber_referenceKey (x : Index) (r : Reference) :
    (x.renumber f).referenceKey (r.renumber f) = x.referenceKey r :=
  x.renumber_key r.statement r.name

theorem renumber_keys (x : Index) (rs : List Reference) :
    (rs.map (·.renumber f)).map (x.renumber f).referenceKey = rs.map x.referenceKey := by
  simp [List.map_map, Function.comp_def]

end Index

namespace FlowGraph

theorem assignmentFlows_eq (x : Index) (s : Statement) (n : Nat) :
    assignmentFlows (x.renumber f) (s.renumber f) n = assignmentFlows x s n := by
  rw [assignmentFlows, assignmentFlows, Statement.renumber_functionHeader?,
    Statement.renumber_assignment?, Option.isSome_map]
  split
  · rfl
  · cases s.assignment? with
    | none => rfl
    | some a =>
        have hvalue (r : Reference) :
            a.value.any (fun t => (t.renumber f).index == (r.renumber f).token) =
              a.value.any (·.index == r.token) := by
          simp [Reference.renumber]
        simp only [Option.map_some, Index.referencesIn, Index.renumber_filter, List.filter_map,
          Index.renumber_referenceKey, Assignment.renumber_targets, Assignment.renumber_value,
          Assignment.renumber_declares, Index.renumber_key, List.map_map, List.any_map,
          Function.comp_def, hvalue]
        rfl

theorem functionFlow_eq (x : Index) (d : FunctionDef) :
    functionFlow (x.renumber f) (d.renumber f) = functionFlow x d := by
  rw [functionFlow, functionFlow, Index.renumber_filter, Index.renumber_keys]
  rfl

end FlowGraph

namespace Outline.Matches

variable {o o' : Outline}

theorem filter_calls (h : Matches f o o') (p : String → Bool) :
    (o'.calls.filter fun c => p c.name) =
      (o.calls.filter fun c => p c.name).map (·.renumber f) := by
  rw [h.calls, List.filter_map]
  rfl

/-- Calls and the ones of new numbers start in the same statements. -/
theorem filterMap_callStatement? (h : Matches f o o') (calls : List Call) :
    (calls.map (·.renumber f)).filterMap o'.callStatement? = calls.filterMap o.callStatement? := by
  rw [List.filterMap_map]
  exact List.filterMap_congr fun c _ => h.callStatement?_eq c

theorem controlInputs_eq (h : Matches f o o') (x : Index) (s : Settings)
    (patterns : List (String → Bool)) :
    FlowGraph.controlInputs o' (x.renumber f) s patterns = FlowGraph.controlInputs o x s patterns := by
  rw [FlowGraph.controlInputs, FlowGraph.controlInputs,
    h.filter_calls (fun name => name == "input" || name.startsWith "input."),
    h.filterMap_callStatement?]
  rfl

/-- The flow graph is the same. -/
theorem ofScript_eq (h : Matches f o o') (x : Index) (s : Settings)
    (patterns : List (String → Bool)) :
    FlowGraph.ofScript o' (x.renumber f) s patterns = FlowGraph.ofScript o x s patterns := by
  have hassignments : (o'.statements.zipIdx.flatMap fun y =>
        FlowGraph.assignmentFlows (x.renumber f) y.1 y.2) =
      o.statements.zipIdx.flatMap fun y => FlowGraph.assignmentFlows x y.1 y.2 := by
    rw [h.statements, List.zipIdx_map, List.flatMap_map]
    exact List.flatMap_congr fun y _ => FlowGraph.assignmentFlows_eq x y.1 y.2
  have hfunctions : (x.renumber f).functions.map (FlowGraph.functionFlow (x.renumber f)) =
      x.functions.map (FlowGraph.functionFlow x) := by
    rw [Index.renumber, List.map_map]
    exact List.map_congr_left fun d _ => FlowGraph.functionFlow_eq x d
  rw [FlowGraph.ofScript, FlowGraph.ofScript, hassignments, hfunctions, h.controlInputs_eq]

end Outline.Matches

/-! ## Coupled control inputs -/

namespace SameCode

variable {ts us : List Lexeme}

/-- The tokens whose numbers satisfy a condition have the same code, if new numbers satisfy the
condition as the old ones do. -/
theorem filter_index (h : SameCode f ts us) {p q : Nat → Bool} (hpq : ∀ i, q (f i) = p i) :
    SameCode f (ts.filter fun t => p t.index) (us.filter fun t => q t.index) := by
  induction h with
  | nil => exact .nil
  | @code t ts us ht _ ih =>
      rw [List.filter_cons, List.filter_cons, Lexeme.renumber_index, hpq]
      split
      · exact .code ht ih
      · exact ih
  | silent ht hkind hindex _ ih =>
      rw [List.filter_cons, List.filter_cons, hindex, hpq]
      split
      · exact .silent ht hkind hindex ih
      · exact ih
  | comment hu hindex _ ih =>
      rw [List.filter_cons]
      split
      · exact .comment hu hindex ih
      · exact ih

end SameCode

/-- A token that is no code is no bracket and no comma. -/
theorem Token.punctuation_of_silent {t : Token} (h : t.isCode = false) (text : String)
    (depth : Nat) : t.isPunctuation text = false ∧ t.depthAfter depth = depth := by
  have hkind : (t.kind == .punctuation) = false := by
    rw [isCode] at h
    split at h <;> simp_all
  simp [isPunctuation, depthAfter, isOpening, isClosing, hkind]

namespace Coupling

theorem splitArguments_ne_nil (depth : Nat) (ts : List Lexeme) : splitArguments depth ts ≠ [] := by
  cases ts with
  | nil => simp [splitArguments]
  | cons t ts =>
      rw [splitArguments]
      split
      · simp
      · split <;> simp

/-- For each argument, which tokens stand in it, asked under the numbers that `e` gives them. -/
def argumentNumbers (e : Nat → Nat) (depth : Nat) (ts : List Lexeme) : List (Nat → Bool) :=
  (splitArguments depth ts).map fun arg i => arg.any (·.index == e i)

theorem argumentNumbers_comma (e : Nat → Nat) {depth : Nat} {t : Lexeme}
    (h : (depth == 0 && t.isPunctuation ",") = true) (ts : List Lexeme) :
    argumentNumbers e depth (t :: ts) = (fun _ => false) :: argumentNumbers e depth ts := by
  rw [argumentNumbers, splitArguments, if_pos h]
  rfl

theorem argumentNumbers_cons (e : Nat → Nat) {depth : Nat} {t : Lexeme}
    (h : (depth == 0 && t.isPunctuation ",") = false) (ts : List Lexeme) :
    argumentNumbers e depth (t :: ts) =
      (argumentNumbers e (t.depthAfter depth) ts).modifyHead fun among i =>
        t.index == e i || among i := by
  rw [argumentNumbers, splitArguments, if_neg (by simp [h]), argumentNumbers]
  cases hargs : splitArguments (t.depthAfter depth) ts with
  | nil => exact absurd hargs (splitArguments_ne_nil _ _)
  | cons arg args => simp

end Coupling

/-- The same tokens stand in the arguments under new numbers. -/
theorem SameCode.argumentNumbers_eq {ts us : List Lexeme} (h : SameCode f ts us) (depth : Nat) :
    Coupling.argumentNumbers f depth us = Coupling.argumentNumbers id depth ts := by
  induction h generalizing depth with
  | nil => rfl
  | @code t ts us ht _ ih =>
      by_cases hcomma : (depth == 0 && t.isPunctuation ",") = true
      · rw [Coupling.argumentNumbers_comma (t := t.renumber f) f hcomma,
          Coupling.argumentNumbers_comma id hcomma, ih]
      · rw [Bool.not_eq_true] at hcomma
        rw [Coupling.argumentNumbers_cons (t := t.renumber f) f hcomma,
          Coupling.argumentNumbers_cons id hcomma, Lexeme.renumber_toToken, ih]
        simp
  | silent ht hkind hindex _ ih =>
      obtain ⟨hcomma, hdepth⟩ := Token.punctuation_of_silent ht "," depth
      obtain ⟨hcomma', hdepth'⟩ :=
        Token.punctuation_of_silent ((Token.isCode_of_kind_eq hkind).trans ht) "," depth
      rw [Coupling.argumentNumbers_cons f (by simp [hcomma']),
        Coupling.argumentNumbers_cons id (by simp [hcomma]), hdepth, hdepth', ih]
      simp [hindex]
  | comment hu hindex _ ih =>
      obtain ⟨hcomma, hdepth⟩ := Token.punctuation_of_silent (Token.isCode_comment hu) "," depth
      rw [Coupling.argumentNumbers_cons f (by simp [hcomma]), hdepth, ih]
      simp only [beq_eq_false_iff_ne.2 (hindex _), Bool.false_or]
      cases Coupling.argumentNumbers id depth _ <;> rfl

namespace Coupling

theorem isCondition_renumber (s : Statement) : isCondition (s.renumber f) = isCondition s := by
  simp [isCondition, List.head?_map, Option.any_map]

theorem keysAmong_renumber (x : Index) (tokens : Nat → Bool) :
    keysAmong (x.renumber f) tokens = keysAmong x fun i => tokens (f i) := by
  rw [keysAmong, keysAmong, Index.renumber_filter, Index.renumber_keys]
  rfl

/-- The first result over numbered items depends only on what is asked of the items. -/
theorem findSome?_zipIdx_congr {α β γ δ : Type} {items : List α} {items' : List β} {g : α → γ}
    {g' : β → γ} (h : items.map g = items'.map g') {result : α × Nat → Option δ}
    {result' : β × Nat → Option δ}
    (hresult : ∀ a b n, g a = g' b → result (a, n) = result' (b, n)) (n : Nat) :
    (items.zipIdx n).findSome? result = (items'.zipIdx n).findSome? result' := by
  induction items generalizing items' n with
  | nil =>
      cases items' with
      | nil => rfl
      | cons b bs => cases h
  | cons a as ih =>
      cases items' with
      | nil => cases h
      | cons b bs =>
          obtain ⟨hhead, htail⟩ := List.cons.inj h
          rw [List.zipIdx_cons, List.zipIdx_cons, List.findSome?_cons, List.findSome?_cons,
            hresult a b n hhead, ih htail]

end Coupling

namespace Outline.Matches

variable {o o' : Outline}

theorem callFinding?_eq (h : Matches f o o') (x : Index) (g : FlowGraph) (c : Call) :
    Coupling.callFinding? o' (x.renumber f) g (c.renumber f) = Coupling.callFinding? o x g c := by
  have hnumbers : Coupling.argumentNumbers f 0
        (o'.tokens.filter fun t => (c.renumber f).contains t.index) =
      Coupling.argumentNumbers id 0 (o.tokens.filter fun t => c.contains t.index) :=
    (h.tokens.filter_index fun i => c.renumber_contains f i).argumentNumbers_eq 0
  have hkeys : ((Coupling.arguments o' (c.renumber f)).map fun arg =>
        Coupling.keysAmong (x.renumber f) fun i => arg.any (·.index == i)) =
      (Coupling.arguments o c).map fun arg =>
        Coupling.keysAmong x fun i => arg.any (·.index == i) := by
    have := congrArg (List.map (Coupling.keysAmong x)) hnumbers
    simpa only [Coupling.arguments, Coupling.argumentNumbers, List.map_map, Function.comp_def,
      Coupling.keysAmong_renumber, id_eq] using this
  refine Coupling.findSome?_zipIdx_congr hkeys (fun arg arg' n hsame => ?_) 0
  simp only [hsame]
  rfl

theorem outputCalls_eq (h : Matches f o o') (s : Settings) :
    Coupling.outputCalls o' s = (Coupling.outputCalls o s).map (·.renumber f) :=
  h.filter_calls s.isOutputCall

theorem roots_eq (h : Matches f o o') (x : Index) (s : Settings) :
    Coupling.roots o' (x.renumber f) s = Coupling.roots o x s := by
  have harguments (c : Call) :
      Coupling.keysAmong (x.renumber f) (c.renumber f).contains = Coupling.keysAmong x c.contains := by
    rw [Coupling.keysAmong_renumber]
    simp only [Call.renumber_contains]
  have hguards (statements : List Nat) : (o'.statements.zipIdx.filter fun y =>
        Coupling.isCondition y.1 && statements.any (o'.block y.2).contains) =
      (o.statements.zipIdx.filter fun y =>
        Coupling.isCondition y.1 && statements.any (o.block y.2).contains).map
          (Prod.map (·.renumber f) id) := by
    rw [h.statements, List.zipIdx_map, List.filter_map]
    refine congrArg _ (List.filter_congr fun y _ => ?_)
    simp only [Function.comp_apply, Prod.map, id_eq, h.block_eq, Coupling.isCondition_renumber]
  have hreads (n : Nat) : ((x.renumber f).referencesIn n).map (x.renumber f).referenceKey =
      (x.referencesIn n).map x.referenceKey := by
    rw [Index.referencesIn, Index.renumber_filter, Index.renumber_keys]
    rfl
  simp only [Coupling.roots, h.outputCalls_eq, h.filterMap_callStatement?, List.flatMap_map,
    harguments, hguards, hreads]
  rfl

/-- The same control inputs are coupled. -/
theorem coupling_eq (h : Matches f o o') (x : Index) (s : Settings)
    (patterns : List (String → Bool)) :
    Coupling.check o' (x.renumber f) s patterns = Coupling.check o x s patterns := by
  have hcalls (g : FlowGraph) :
      (Coupling.outputCalls o' s).filterMap (Coupling.callFinding? o' (x.renumber f) g) =
        (Coupling.outputCalls o s).filterMap (Coupling.callFinding? o x g) := by
    rw [h.outputCalls_eq, List.filterMap_map]
    exact List.filterMap_congr fun c _ => h.callFinding?_eq x g c
  simp only [Coupling.check, h.ofScript_eq, h.roots_eq, hcalls]

end Outline.Matches

/-! ## Literals -/

namespace Literal

theorem followsTooltip_map (i : Nat) (ts : List Lexeme) :
    followsTooltip (f i) (ts.map (·.renumber f)) = followsTooltip i ts := by
  fun_induction followsTooltip i ts with
  | case1 name equals value rest ih =>
      rw [List.map_cons, List.map_cons] at ih
      simp only [List.map_cons, followsTooltip, ih, Lexeme.renumber_index, f.beq_eq,
        Lexeme.renumber_toToken]
  | case2 ts h =>
      rcases ts with _ | ⟨name, _ | ⟨equals, _ | ⟨value, rest⟩⟩⟩
      · rfl
      · rfl
      · rfl
      · exact absurd rfl (h name equals value rest)

theorem insideAny_map (calls : List Call) (i : Nat) :
    insideAny (calls.map (·.renumber f)) (f i) = insideAny calls i := by
  simp [insideAny, List.any_map, Function.comp_def]

theorem treeFinding?_map (colors : List Call) (declared : List Nat) (root : Call) :
    treeFinding? (colors.map (·.renumber f)) (declared.map f) (root.renumber f) =
      treeFinding? colors declared root := by
  have hfind : (colors.map (·.renumber f)).find?
        (fun inner => (root.renumber f).contains inner.nameStart) =
      (colors.find? fun inner => root.contains inner.nameStart).map (·.renumber f) := by
    simp [List.find?_map, Function.comp_def]
  rw [treeFinding?, treeFinding?, hfind]
  cases colors.find? fun inner => root.contains inner.nameStart with
  | none => simp
  | some inner => rfl

end Literal

/-- Two scripts under the same settings that differ in the numbers of their tokens and in
comments. -/
structure Script.Matches (f : Renumbering) (s s' : Script) : Prop where
  /-- The settings are the same. -/
  settings : s'.settings = s.settings
  /-- The outlines match. -/
  outline : s.outline.Matches f s'.outline
  /-- The index has new numbers. -/
  index : s'.index = s.index.renumber f

namespace Script.Matches

variable {s s' : Script}

theorem isShortTooltip_eq (h : Matches f s s') (t : Lexeme) :
    Literal.isShortTooltip s' (t.renumber f) = Literal.isShortTooltip s t := by
  simp [Literal.isShortTooltip, h.settings, h.outline.statements, List.any_map, Function.comp_def,
    Literal.followsTooltip_map]

theorem checkStrings_eq (h : Matches f s s') : Literal.checkStrings s' = Literal.checkStrings s := by
  have hcode (s : Script) (t : Lexeme) (ht : (t.kind == .stringLiteral
      && !s.outline.constantValues.contains t.index && !Literal.isShortTooltip s t) = true) :
      t.isCode = true := by
    simp only [Bool.and_eq_true, beq_iff_eq] at ht
    rw [Token.isCode, ht.1.1]
  rw [Literal.checkStrings, Literal.checkStrings,
    h.outline.tokens.filter_code (hcode s) (hcode s') (fun t => ?_), List.map_map]
  · rfl
  · rw [h.outline.constantValues_eq, h.isShortTooltip_eq, Lexeme.renumber_index, f.contains_map,
      Lexeme.renumber_toToken]

theorem checkColors_eq (h : Matches f s s') : Literal.checkColors s' = Literal.checkColors s := by
  have hcolors : Literal.colorCalls s' = (Literal.colorCalls s).map (·.renumber f) := by
    rw [Literal.colorCalls, Literal.colorCalls, h.settings]
    exact h.outline.filter_calls s.settings.isColorConstructor
  have hcode (s : Script) (t : Lexeme) (ht : (t.kind == .colorLiteral
      && !Literal.insideAny (Literal.colorCalls s) t.index
      && !s.outline.constantValues.contains t.index) = true) : t.isCode = true := by
    simp only [Bool.and_eq_true, beq_iff_eq] at ht
    rw [Token.isCode, ht.1.1]
  have hroots : ((Literal.colorCalls s').filter fun c =>
        !Literal.insideAny (Literal.colorCalls s') c.nameStart) =
      ((Literal.colorCalls s).filter fun c =>
        !Literal.insideAny (Literal.colorCalls s) c.nameStart).map (·.renumber f) := by
    simp [hcolors, List.filter_map, Function.comp_def, Literal.insideAny_map]
  rw [Literal.checkColors, Literal.checkColors,
    h.outline.tokens.filter_code (hcode s) (hcode s') (fun t => ?_), List.map_map, hroots,
    List.filterMap_map, hcolors, h.outline.constantValues_eq]
  · refine congrArg₂ _ (List.filterMap_congr fun c _ => ?_) rfl
    exact Literal.treeFinding?_map _ _ c
  · rw [h.outline.constantValues_eq, hcolors, Lexeme.renumber_index, Literal.insideAny_map,
      f.contains_map, Lexeme.renumber_toToken]

end Script.Matches

/-! ## Uses of names -/

namespace Usage

theorem checkForward_renumber (x : Index) : checkForward (x.renumber f) = checkForward x := by
  rw [checkForward, checkForward, Index.renumber, List.filterMap_map]
  rfl

theorem checkUnused_renumber (x : Index) : checkUnused (x.renumber f) = checkUnused x := by
  have hused (d : Declaration) : isUsedBelow (x.renumber f) d = isUsedBelow x d := by
    rw [isUsedBelow, isUsedBelow, Index.referencesTo, Index.renumber_filter, List.any_map]
    rfl
  simp only [checkUnused, hused]
  rfl

end Usage

/-- A rule that does not look at the layout finds the same in both scripts. -/
theorem Script.Matches.check_eq {s s' : Script} (h : s.Matches f s')
    (hlayout : Layout.check s'.settings (Text.lines s'.source) =
      Layout.check s.settings (Text.lines s.source)) (c : Category) : c.check s' = c.check s := by
  cases c with
  | hardcodedString => exact h.checkStrings_eq
  | hardcodedColor => exact h.checkColors_eq
  | badIndentation => simp only [Category.check, Category.layoutFindings, hlayout]
  | operatorPlacement => simp only [Category.check, Category.layoutFindings, hlayout]
  | forwardReference => simp only [Category.check, h.index, Usage.checkForward_renumber]
  | mixedThresholdUsage =>
      simp only [Category.check, h.index, h.settings, h.outline.coupling_eq]
  | unusedConstant => simp only [Category.check, h.index, Usage.checkUnused_renumber]

end ChartLint
