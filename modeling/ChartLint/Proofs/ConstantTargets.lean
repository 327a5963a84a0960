import ChartLint.Proofs.AssignmentParts
import ChartLint.Proofs.CallNesting
import ChartLint.Proofs.FindingTokens

/-!
# Two notions of a constant

A constant is told in two ways.  The outline asks a statement by itself whether it declares one, and
lets strings and colors stand in its value.  The index first tries to read the statement as a
function header, then as an assignment, and keeps track of the constants that it declares.  Both
find the same constants (`constants_eq`), so what may stand in the code is what is tracked.

*Headers.*  The parameter list of a function header is left at the bracket that closes it, and no
bracket in it is closed at depth zero, so the arrow behind it stands outside brackets and nothing in
front of it assigns (`assignment?_of_functionHeader?`).  So the order in which the index tries the
two readings does not matter.
-/

namespace ChartLint

/-! ## Function headers assign nothing -/

/-- Inside its parentheses a parameter list is passed over, and behind them no bracket is open. -/
theorem ParameterList.exists_passedOver_of_read? {depth : Nat} (hdepth : 0 < depth)
    {inDefault : Bool} {ts : List Lexeme} {p : ParameterList}
    (h : read? depth inDefault ts = some p) :
    ∃ inside, ts = inside ++ p.rest ∧ depthBehind (inside.map (·.toToken)) depth = 0 ∧
      Assignment.PassedOver depth inside := by
  induction ts generalizing depth inDefault p with
  | nil => cases h
  | cons t ts ih =>
      have hfirst : depth = 0 → t.assigns = false ∧ t.isOperator "=>" = false :=
        fun hzero => absurd hzero (Nat.ne_of_gt hdepth)
      rcases read?_cons_cases h with ⟨hclosing, hrest, -⟩ | ⟨hopen, inDefault', q, hread, hrest, -⟩
      · rw [Bool.and_eq_true, beq_iff_eq] at hclosing
        refine ⟨[t], by rw [hrest]; rfl, hclosing.2, ?_⟩
        exact Assignment.passedOver_cons.2 ⟨hfirst, Assignment.passedOver_nil _⟩
      · obtain ⟨inside, rfl, hzero, hinside⟩ := ih (depthAfter_pos hdepth hopen) hread
        exact ⟨t :: inside, by rw [hrest]; rfl, hzero,
          Assignment.passedOver_cons.2 ⟨hfirst, hinside⟩⟩

/-- A word in front of the name of a function is no bracket and no operator that counts. -/
theorem Token.passes_of_mem_functionPrefixes {t : Token}
    (h : t.text ∈ Vocabulary.functionPrefixes) :
    (t.isOpening = false ∧ t.isClosing = false) ∧
      t.assigns = false ∧ t.isOperator "=>" = false := by
  simp only [Vocabulary.functionPrefixes, List.mem_cons, List.not_mem_nil, or_false] at h
  rcases h with h | h <;>
    simp [isOpening, isClosing, assigns, isOperator, h, Vocabulary.assignmentOperators]

namespace Assignment

theorem passedOver_prefixes {before : List Lexeme}
    (h : ∀ t ∈ before, t.text ∈ Vocabulary.functionPrefixes) :
    depthBehind (before.map (·.toToken)) 0 = 0 ∧ PassedOver 0 before := by
  induction before with
  | nil => exact ⟨rfl, passedOver_nil 0⟩
  | cons t before ih =>
      obtain ⟨ht, hbefore⟩ := List.forall_mem_cons.1 h
      obtain ⟨⟨hopening, hclosing⟩, hpasses⟩ := Token.passes_of_mem_functionPrefixes ht
      obtain ⟨hdepth, hpassed⟩ := ih hbefore
      have hafter := Token.depthAfter_quiet hopening hclosing 0
      refine ⟨?_, passedOver_cons.2 ⟨fun _ => hpasses, by rwa [hafter]⟩⟩
      rw [List.map_cons, depthBehind_cons, hafter, hdepth]

end Assignment

namespace Statement

/-- A function header is no assignment. -/
theorem assignment?_of_functionHeader? {s : Statement} {header : FunctionHeader}
    (h : s.functionHeader? = some header) : s.assignment? = none := by
  obtain ⟨-, before, paren, rest, names, arrow, htokens, hbefore, hname, hparen, hread, harrow⟩ :=
    exists_of_functionHeader? h
  obtain ⟨inside, rfl, hinsideDepth, hinside⟩ :=
    ParameterList.exists_passedOver_of_read? Nat.one_pos hread
  obtain ⟨hdepth, hpassed⟩ := Assignment.passedOver_prefixes hbefore
  have hnameDepth : header.name.depthAfter 0 = 0 := by
    obtain ⟨hopening, hclosing⟩ := Call.quiet_of_isIdentifier hname
    exact Token.depthAfter_quiet hopening hclosing 0
  have hparenDepth : paren.depthAfter 0 = 1 :=
    Token.depthAfter_opening (Token.isOpening_of_paren hparen) 0
  have hpassesName : header.name.assigns = false ∧ header.name.isOperator "=>" = false := by
    simp [Token.assigns, Token.isOperator, Token.isIdentifier_iff.1 hname]
  have hpassesParen : paren.assigns = false ∧ paren.isOperator "=>" = false := by
    simp [Token.assigns, Token.isOperator, (Token.isPunctuation_iff.1 hparen).1]
  -- everything up to the arrow is passed over, and no bracket is open in front of it
  have hfront : Assignment.PassedOver 0 (before ++ header.name :: paren :: inside) := by
    refine Assignment.passedOver_append hpassed ?_
    rw [hdepth, Assignment.passedOver_cons, hnameDepth, Assignment.passedOver_cons, hparenDepth]
    exact ⟨fun _ => hpassesName, fun _ => hpassesParen, hinside⟩
  have hzero : depthBehind ((before ++ header.name :: paren :: inside).map (·.toToken)) 0 = 0 := by
    rw [List.map_append, depthBehind_append, hdepth, List.map_cons, depthBehind_cons, hnameDepth,
      List.map_cons, depthBehind_cons, hparenDepth, hinsideDepth]
  have hsplit : Assignment.splitAtOperator 0 s.tokens = none := by
    have hcut : s.tokens = (before ++ header.name :: paren :: inside) ++ arrow :: header.body := by
      rw [htokens, List.append_assoc]
      rfl
    rw [hcut, Assignment.splitAtOperator_append hfront, hzero,
      Assignment.splitAtOperator_of_arrow harrow, Option.map_none]
  rw [assignment?, hsplit]
  cases s.startsWithBlockKeyword <;> rfl

/-! ## Declared constants -/

/-- The name of the constant that a statement declares. -/
def constantTarget? (s : Statement) : Option String :=
  s.constant?.map (·.1.text)

/-- A statement declares a constant if it is not indented and assigns one name in upper snake case
with `=`. -/
theorem constant?_eq_some_iff {s : Statement} {name : Lexeme} {a : Assignment} :
    s.constant? = some (name, a) ↔
      s.indent = 0 ∧ s.assignment? = some a ∧ a.operator = "=" ∧ a.front ≠ .tuple ∧
        a.front ≠ .member ∧ a.targets.head? = some name ∧ isUpperSnake name.text = true := by
  rw [constant?]
  simp [Option.bind_eq_some_iff, guard, and_assoc]

theorem constant?_of_functionHeader? {s : Statement} {header : FunctionHeader}
    (h : s.functionHeader? = some header) : s.constant? = none := by
  rw [constant?, assignment?_of_functionHeader? h]
  by_cases hindent : s.indent = 0 <;> simp [hindent, guard]

/-- The constants among what a statement declares. -/
theorem filter_constant_declarations (s : Statement) (n : Nat) :
    (s.declarations n).filter (·.kind == .constant) =
      s.constant?.toList.map fun (name, _) => ⟨name.text, name.position, .constant, n⟩ := by
  rw [declarations]
  cases hheader : s.functionHeader? with
  | some header =>
      rw [constant?_of_functionHeader? hheader]
      rfl
  | none =>
      cases ha : s.assignment? with
      | none => simp [constant?, ha]
      | some a =>
          obtain ⟨front, op, -, -, -, htargets⟩ := exists_front_of_assignment? ha
          have hforms := Assignment.targets?_eq_some_iff.1 htargets
          generalize htargets : a.targets = targets, hform : a.front = form at hforms
          cases hforms with
          | tuple =>
              -- the names of a tuple are variables
              have hkind (name : String) : s.declarationKind a name = .variable := by
                simp [declarationKind, hform]
              have hnone : s.constant? = none := by simp [constant?, ha, hform, guard]
              rw [hnone]
              cases hdeclares : a.declares <;>
                simp [hdeclares, hkind, List.filter_map, Function.comp_def]
          | member =>
              -- a chain of members declares nothing
              have hnone : s.constant? = none := by simp [constant?, ha, hform, guard]
              simp [hnone, hform, Assignment.declares]
          | @single _ target =>
              -- one name is a constant under the same conditions
              by_cases hindent : s.indent = 0 <;> by_cases hequals : a.operator = "=" <;>
                by_cases hname : isUpperSnake target.text = true <;>
                simp [constant?, ha, hform, htargets, hindent, hequals, hname, Assignment.declares,
                  declarationKind, guard]

/-- The token is the assignment operator of the statement: the first one outside brackets, with no
arrow outside brackets in front of it. -/
def AssignsAt (s : Statement) (op : Lexeme) : Prop :=
  ∃ front value, s.tokens = front ++ op :: value ∧ op.assigns = true ∧
    depthBehind (front.map (·.toToken)) 0 = 0 ∧ Assignment.PassedOver 0 front

/-- What stands behind the operator of an assignment is its value. -/
theorem AssignsAt.exists_front {s : Statement} {op : Lexeme} (h : s.AssignsAt op) {a : Assignment}
    (ha : s.assignment? = some a) : ∃ front, s.tokens = front ++ op :: a.value := by
  obtain ⟨front, value, hcut⟩ := h
  obtain ⟨-, front', op', hcut', -⟩ := assignment?_eq_some_iff.1 ha
  have hsame := (Assignment.splitAtOperator_eq_some_iff.2 hcut).symm.trans
    (Assignment.splitAtOperator_eq_some_iff.2 hcut')
  cases hsame
  exact ⟨front, hcut.1⟩

theorem exists_assignsAt {s : Statement} {a : Assignment} (ha : s.assignment? = some a) :
    ∃ op, s.AssignsAt op := by
  obtain ⟨-, front, op, hcut, -⟩ := assignment?_eq_some_iff.1 ha
  exact ⟨op, front, a.value, hcut⟩

end Statement

/-! ## Tracked constants -/

/-- The names of the constants that statements declare, each with the number of its statement. -/
def Outline.constantTargets (o : Outline) : List (Nat × String) :=
  o.statements.zipIdx.filterMap fun (s, n) => s.constantTarget?.map (n, ·)

namespace Index

/-- The token of that number stands behind the assignment operator of a statement that declares a
tracked constant. -/
def HoldsTracked (x : Index) (o : Outline) (index : Nat) : Prop :=
  ∃ d ∈ x.constants, ∃ s op t, o.statements[d.statement]? = some s ∧ s.AssignsAt op ∧
    t ∈ s.tokens ∧ t.index = index ∧ op.index < index

theorem constants_eq (o : Outline) :
    (ofOutline o).constants = o.statements.zipIdx.flatMap fun (s, n) =>
      s.constant?.toList.map fun (name, _) => ⟨name.text, name.position, .constant, n⟩ := by
  rw [constants, ofOutline, List.filter_flatMap]
  simp only [Statement.filter_constant_declarations]

theorem map_constants (o : Outline) :
    (ofOutline o).constants.map (fun d => (d.statement, d.name)) = o.constantTargets := by
  rw [constants_eq, List.map_flatMap, Outline.constantTargets, List.filterMap_eq_flatMap_toList]
  refine List.flatMap_congr fun ⟨s, n⟩ _ => ?_
  simp only [Statement.constantTarget?]
  cases s.constant? with
  | none => rfl
  | some c => rfl

theorem mem_constants_iff {o : Outline} {d : Declaration} :
    d ∈ (ofOutline o).constants ↔
      ∃ s name a, o.statements[d.statement]? = some s ∧ s.constant? = some (name, a) ∧
        d = ⟨name.text, name.position, .constant, d.statement⟩ := by
  rw [constants_eq]
  simp only [List.mem_flatMap, List.mem_map, Prod.exists, List.mem_zipIdx_iff_getElem?,
    Option.mem_toList]
  constructor
  · rintro ⟨s, n, hs, name, a, hc, rfl⟩
    exact ⟨s, name, a, hs, hc, rfl⟩
  · rintro ⟨s, name, a, hs, hc, hd⟩
    exact ⟨s, d.statement, hs, name, a, hc, hd.symm⟩

/-- A token is in the value of a constant if it stands behind the operator of a tracked one. -/
theorem inConstantValue_iff {source : String} {tab index : Nat} :
    (Outline.ofSource source tab).inConstantValue index = true ↔
      (ofOutline (.ofSource source tab)).HoldsTracked (.ofSource source tab) index := by
  rw [Outline.inConstantValue, List.contains_iff_mem, Outline.constantValues, List.mem_flatMap]
  constructor
  · rintro ⟨s, hs, hvalue⟩
    cases hc : s.constant? with
    | none =>
        rw [hc] at hvalue
        cases hvalue
    | some c =>
        obtain ⟨name, a⟩ := c
        simp only [hc, List.mem_map] at hvalue
        obtain ⟨t, ht, rfl⟩ := hvalue
        obtain ⟨n, hn⟩ := List.getElem?_of_mem hs
        have ha := (Statement.constant?_eq_some_iff.1 hc).2.1
        obtain ⟨op, hop⟩ := Statement.exists_assignsAt ha
        obtain ⟨front, htokens⟩ := hop.exists_front ha
        have hincreasing := Outline.pairwise_index_tokens hn
        rw [htokens] at hincreasing
        refine ⟨⟨name.text, name.position, .constant, n⟩,
          mem_constants_iff.2 ⟨s, name, a, hn, hc, rfl⟩, s, op, t, hn, hop, ?_, rfl, ?_⟩
        · rw [htokens]
          exact List.mem_append_right front (List.mem_cons_of_mem op ht)
        · exact (List.pairwise_cons.1 (List.pairwise_append.1 hincreasing).2.1).1 t ht
  · rintro ⟨d, hd, s, op, t, hs, hop, ht, rfl, hlt⟩
    obtain ⟨s', name, a, hs', hc, -⟩ := mem_constants_iff.1 hd
    obtain rfl : s = s' := Option.some.inj (hs.symm.trans hs')
    obtain ⟨front, htokens⟩ := hop.exists_front (Statement.constant?_eq_some_iff.1 hc).2.1
    refine ⟨s, List.mem_of_getElem? hs, ?_⟩
    simp only [hc]
    refine List.mem_map_of_mem ?_
    have hincreasing := Outline.pairwise_index_tokens hs
    rw [htokens] at ht hincreasing
    rcases List.mem_append.1 ht with ht | ht
    · have hbefore := (List.pairwise_append.1 hincreasing).2.2 t ht op List.mem_cons_self
      exact absurd hlt (Nat.lt_asymm hbefore)
    · rcases List.mem_cons.1 ht with rfl | ht
      · exact absurd hlt (Nat.lt_irrefl _)
      · exact ht

end Index

/-! ## What may stand in the code -/

namespace Literal

variable {source : String} {settings : Settings} {t : Lexeme}

/-- A token is the only one at its position. -/
theorem eq_of_position {u : Lexeme} (ht : t ∈ (Script.ofSource source settings).outline.tokens)
    (hu : u ∈ (Script.ofSource source settings).outline.tokens) (h : u.position = t.position) :
    u = t :=
  eq_of_pairwise_key Position.lt_irrefl
    (Outline.pairwise_position source settings.tabWidth) ht hu h

/-- A string is reported unless it is a short tooltip or stands in the value of a constant. -/
theorem exists_mem_checkStrings_iff
    (ht : t ∈ (Script.ofSource source settings).outline.tokens) (hkind : t.kind = .stringLiteral) :
    (∃ d ∈ checkStrings (.ofSource source settings), d.position = t.position) ↔
      isShortTooltip (.ofSource source settings) t = false ∧
        ¬ (Script.ofSource source settings).outline.inConstantValue t.index = true := by
  rw [checkStrings, Outline.inConstantValue]
  constructor
  · rintro ⟨d, hd, hposition⟩
    obtain ⟨u, hu, rfl⟩ := List.mem_map.1 hd
    obtain ⟨hu, hreported⟩ := List.mem_filter.1 hu
    obtain rfl := eq_of_position ht hu hposition
    simpa [hkind, and_comm] using hreported
  · rintro ⟨htooltip, hvalue⟩
    refine ⟨_, List.mem_map_of_mem (List.mem_filter.2 ⟨ht, ?_⟩), rfl⟩
    simpa [hkind, htooltip] using hvalue

/-- A call stands at a word. -/
theorem exists_word_of_mem_colorCalls {c : Call}
    (hc : c ∈ colorCalls (.ofSource source settings)) :
    ∃ u ∈ (Script.ofSource source settings).outline.tokens, u.kind = .identifier ∧
      u.position = c.position ∧ u.index = c.nameStart := by
  obtain ⟨u, hu, hname, hword⟩ := Outline.exists_word_of_mem_findFrom (List.mem_filter.1 hc).1
  exact ⟨u, (List.mem_filter.1 hu).1, Token.isIdentifier_iff.1 hname, hword⟩

/-- A color literal is reported unless it stands in a color call or in the value of a constant. -/
theorem exists_mem_checkColors_literal_iff
    (ht : t ∈ (Script.ofSource source settings).outline.tokens) (hkind : t.kind = .colorLiteral) :
    (∃ d ∈ checkColors (.ofSource source settings), d.position = t.position) ↔
      insideAny (colorCalls (.ofSource source settings)) t.index = false ∧
        ¬ (Script.ofSource source settings).outline.inConstantValue t.index = true := by
  rw [checkColors, Outline.inConstantValue]
  constructor
  · rintro ⟨d, hd, hposition⟩
    rcases List.mem_append.1 hd with hd | hd
    · -- a finding about calls stands at a word
      obtain ⟨root, hroot, hfinding⟩ := List.mem_filterMap.1 hd
      obtain ⟨c, hc, hcall⟩ := exists_call_of_treeFinding? (List.mem_filter.1 hroot).1 hfinding
      obtain ⟨u, hu, hword, hplace, -⟩ := exists_word_of_mem_colorCalls hc
      obtain rfl := eq_of_position ht hu (hplace.trans (hcall.symm.trans hposition))
      exact absurd (hword.symm.trans hkind) (by decide)
    · obtain ⟨u, hu, rfl⟩ := List.mem_map.1 hd
      obtain ⟨hu, hreported⟩ := List.mem_filter.1 hu
      obtain rfl := eq_of_position ht hu hposition
      simpa [hkind] using hreported
  · rintro ⟨hinside, hvalue⟩
    refine ⟨_, List.mem_append_right _ (List.mem_map_of_mem (List.mem_filter.2 ⟨ht, ?_⟩)), rfl⟩
    simpa [hkind, hinside] using hvalue

/-- A color call that is in no color call and holds none is reported unless it stands in the value
of a constant. -/
theorem exists_mem_checkColors_call_iff {c : Call}
    (hc : c ∈ colorCalls (.ofSource source settings))
    (hroot : insideAny (colorCalls (.ofSource source settings)) c.nameStart = false)
    (halone : ∀ inner ∈ colorCalls (.ofSource source settings),
      c.contains inner.nameStart = false) :
    (∃ d ∈ checkColors (.ofSource source settings), d.position = c.position) ↔
      ¬ (Script.ofSource source settings).outline.inConstantValue c.nameStart = true := by
  obtain ⟨t, ht, hword, hposition, hindex⟩ := exists_word_of_mem_colorCalls hc
  -- a color call at the same place starts with the same token
  have hsame {c' : Call} (hc' : c' ∈ colorCalls (.ofSource source settings))
      (h : c'.position = c.position) : c'.nameStart = c.nameStart := by
    obtain ⟨u, hu, -, hposition', hindex'⟩ := exists_word_of_mem_colorCalls hc'
    obtain rfl := eq_of_position ht hu (hposition'.trans (h.trans hposition.symm))
    exact hindex'.symm.trans hindex
  rw [checkColors, Outline.inConstantValue]
  constructor
  · rintro ⟨d, hd, hd'⟩
    rcases List.mem_append.1 hd with hd | hd
    · obtain ⟨root, hmem, hfinding⟩ := List.mem_filterMap.1 hd
      obtain ⟨hmem, -⟩ := List.mem_filter.1 hmem
      rw [treeFinding?] at hfinding
      split at hfinding
      case h_1 inner hinner =>
        -- the inner call would be the one in question, which is in no color call
        cases hfinding
        have hcontains := List.find?_some hinner
        rw [hsame (List.mem_of_find?_eq_some hinner) hd'] at hcontains
        rw [insideAny, List.any_eq_false] at hroot
        exact absurd hcontains (hroot root hmem)
      case h_2 =>
        split at hfinding
        case isTrue => cases hfinding
        case isFalse hvalue =>
          cases hfinding
          rwa [hsame hmem hd'] at hvalue
    · obtain ⟨u, hu, rfl⟩ := List.mem_map.1 hd
      obtain ⟨hu, hreported⟩ := List.mem_filter.1 hu
      obtain rfl := eq_of_position ht hu (Eq.trans hd' hposition.symm)
      simp [hword] at hreported
  · intro hvalue
    have hfinding : ∃ message, treeFinding? (colorCalls (.ofSource source settings))
        (Script.ofSource source settings).outline.constantValues c =
          some (.warning .hardcodedColor c.position message) := by
      rw [treeFinding?, List.find?_eq_none.2 (by simpa using halone)]
      exact ⟨_, if_neg hvalue⟩
    obtain ⟨message, hfinding⟩ := hfinding
    refine ⟨_, List.mem_append_left _ (List.mem_filterMap.2 ⟨c, List.mem_filter.2 ⟨hc, ?_⟩,
      hfinding⟩), rfl⟩
    simp [hroot]

end Literal

/-- The two notions of a constant coincide.  The tracked constants are the targets of the statements
that declare one, in order.  A token may stand in the code as part of a constant if it stands behind
the operator of a tracked constant; this is what strings, color literals and color calls are spared
by.  And a function header assigns nothing. -/
theorem constants_coincide (source : String) (settings : Settings) :
    let script := Script.ofSource source settings
    let o := script.outline
    let x := script.index
    let colors := Literal.colorCalls script
    x.constants.map (fun d => (d.statement, d.name)) = o.constantTargets ∧
      (∀ i, o.inConstantValue i = true ↔ x.HoldsTracked o i) ∧
      (∀ t ∈ o.tokens, t.kind = .stringLiteral →
        ((∃ d ∈ Literal.checkStrings script, d.position = t.position) ↔
          Literal.isShortTooltip script t = false ∧ ¬ x.HoldsTracked o t.index)) ∧
      (∀ t ∈ o.tokens, t.kind = .colorLiteral →
        ((∃ d ∈ Literal.checkColors script, d.position = t.position) ↔
          Literal.insideAny colors t.index = false ∧ ¬ x.HoldsTracked o t.index)) ∧
      (∀ c ∈ colors, Literal.insideAny colors c.nameStart = false →
        (∀ inner ∈ colors, c.contains inner.nameStart = false) →
        ((∃ d ∈ Literal.checkColors script, d.position = c.position) ↔
          ¬ x.HoldsTracked o c.nameStart)) ∧
      ∀ s ∈ o.statements, s.functionHeader?.isSome = true → s.assignment? = none := by
  intro script o x colors
  have hvalue (i : Nat) : o.inConstantValue i = true ↔ x.HoldsTracked o i :=
    Index.inConstantValue_iff
  refine ⟨Index.map_constants o, hvalue, ?_, ?_, ?_, ?_⟩
  · intro t ht hkind
    rw [← hvalue]
    exact Literal.exists_mem_checkStrings_iff ht hkind
  · intro t ht hkind
    rw [← hvalue]
    exact Literal.exists_mem_checkColors_literal_iff ht hkind
  · intro c hc hroot halone
    rw [← hvalue]
    exact Literal.exists_mem_checkColors_call_iff hc hroot halone
  · intro s _ hheader
    obtain ⟨header, hheader⟩ := Option.isSome_iff_exists.1 hheader
    exact Statement.assignment?_of_functionHeader? hheader

/-- A color in the value of a constant is spared, a string and a color elsewhere are reported. -/
theorem constants_coincide_literals :
    let script := Script.ofSource "A = color.new(x, 5)\nplot('b', #102030)\nf(y) => y" {}
    let call : Call := ⟨"color.new", ⟨1, 5⟩, 2, 5, 9⟩
    let text : Lexeme := ⟨⟨.stringLiteral, "'b'", ⟨2, 6⟩⟩, 13⟩
    let color : Lexeme := ⟨⟨.colorLiteral, "#102030", ⟨2, 11⟩⟩, 15⟩
    script.index.constants.map (fun d => (d.statement, d.name)) = [(0, "A")] ∧
      call ∈ Literal.colorCalls script ∧ text ∈ script.outline.tokens ∧
      color ∈ script.outline.tokens ∧
      (¬ ∃ d ∈ Literal.checkColors script, d.position = ⟨1, 5⟩) ∧
      (∃ d ∈ Literal.checkStrings script, d.position = ⟨2, 6⟩) ∧
      (∃ d ∈ Literal.checkColors script, d.position = ⟨2, 11⟩) ∧
      ∃ s ∈ script.outline.statements, s.functionHeader?.isSome = true ∧ s.assignment? = none := by
  intro script call text color
  have htargets : script.outline.constantTargets = [(0, "A")] := by decide +kernel
  have hcall : call ∈ Literal.colorCalls script := by decide +kernel
  have htext : text ∈ script.outline.tokens := by decide +kernel
  have hcolor : color ∈ script.outline.tokens := by decide +kernel
  have hvalues : script.outline.inConstantValue 2 = true ∧
      ¬ script.outline.inConstantValue 13 = true ∧
      ¬ script.outline.inConstantValue 15 = true := by decide +kernel
  have hroot : Literal.insideAny (Literal.colorCalls script) 2 = false ∧
      Literal.insideAny (Literal.colorCalls script) 15 = false := by decide +kernel
  have halone : ∀ inner ∈ Literal.colorCalls script, call.contains inner.nameStart = false := by
    decide +kernel
  have htooltip : Literal.isShortTooltip script text = false := by decide +kernel
  have hheader : ∃ s ∈ script.outline.statements, s.functionHeader?.isSome = true := by
    decide +kernel
  obtain ⟨hconstants, hvalue, hstrings, hliterals, hcalls, hheaders⟩ :=
    constants_coincide "A = color.new(x, 5)\nplot('b', #102030)\nf(y) => y" {}
  refine ⟨hconstants.trans htargets, hcall, htext, hcolor, ?_, ?_, ?_, ?_⟩
  · rw [hcalls call hcall hroot.1 halone, not_not]
    exact (hvalue 2).1 hvalues.1
  · exact (hstrings text htext rfl).2 ⟨htooltip, fun h => hvalues.2.1 ((hvalue 13).2 h)⟩
  · exact (hliterals color hcolor rfl).2 ⟨hroot.2, fun h => hvalues.2.2 ((hvalue 15).2 h)⟩
  · obtain ⟨s, hs, hsome⟩ := hheader
    exact ⟨s, hs, hsome, hheaders s hs hsome⟩

end ChartLint
