import ChartLint.Proofs.ConstantTargets

/-!
# Which literals are reported

Strings and colors belong in constants.  The two rules on literals report those that stand elsewhere,
each one once.  What stands in the value of a constant is told by its assignment alone
(`Outline.inConstantValue_iff_assignment`).

*Strings.*  A short string may stand in the code if `tooltip =` stands in front of it in its
statement (`strings_reported`).  This holds for the value of an argument named `tooltip`, since an
argument lies in one statement.  But the rule looks at no call, and so a variable of that name spares
a string as well (`strings_reported_except_variable`).

*Colors.*  Calls are properly nested, so a color call is in the tree of one root.  There is one,
because a call around another one starts before it (`exists_root`).  There is no other one, because
of two roots around one call the one behind would start in the other (`root_unique`).  A finding
about a tree stands at a call of the tree, so what is found at the calls of a tree is what is found
about that tree (`findingsAt_tree`).
-/

namespace ChartLint

/-! ## The value of a constant -/

namespace Outline

/-- The token of that number stands behind the `=` of a statement that is not indented and assigns
one name in upper snake case. -/
def InConstantAssignment (o : Outline) (index : Nat) : Prop :=
  ∃ s ∈ o.statements, ∃ a, s.assignment? = some a ∧ s.indent = 0 ∧ a.operator = "=" ∧
    (∃ qualified, a.front = .single qualified) ∧
    (∃ name, a.targets.head? = some name ∧ isUpperSnake name.text = true) ∧
    ∃ t ∈ a.value, t.index = index

theorem inConstantValue_iff_assignment {o : Outline} {index : Nat} :
    o.inConstantValue index = true ↔ o.InConstantAssignment index := by
  rw [inConstantValue, List.contains_iff_mem, constantValues, List.mem_flatMap]
  refine exists_congr fun s => and_congr_right fun _ => ?_
  constructor
  · intro h
    cases hc : s.constant? with
    | none =>
        rw [hc] at h
        cases h
    | some c =>
        obtain ⟨name, a⟩ := c
        rw [hc] at h
        obtain ⟨hindent, ha, hop, htuple, hmember, hname, hupper⟩ :=
          Statement.constant?_eq_some_iff.1 hc
        refine ⟨a, ha, hindent, hop, ?_, ⟨name, hname, hupper⟩, List.mem_map.1 h⟩
        cases hfront : a.front with
        | tuple => exact absurd hfront htuple
        | member => exact absurd hfront hmember
        | single qualified => exact ⟨qualified, rfl⟩
  · rintro ⟨a, ha, hindent, hop, ⟨qualified, hfront⟩, ⟨name, hname, hupper⟩, hvalue⟩
    have hc : s.constant? = some (name, a) := by
      refine Statement.constant?_eq_some_iff.2 ⟨hindent, ha, hop, ?_, ?_, hname, hupper⟩ <;>
        simp [hfront]
    rw [hc]
    exact List.mem_map.2 hvalue

end Outline

/-! ## Tooltips -/

/-- The two tokens are `tooltip =`. -/
def SpellsTooltip (name equals : Lexeme) : Prop :=
  name.isIdentifier = true ∧ name.text = "tooltip" ∧ equals.isOperator "=" = true

namespace Outline

variable {ts : List Token}

/-- In its statement the token stands directly behind `tooltip =`. -/
def FollowsTooltip (o : Outline) (t : Lexeme) : Prop :=
  ∃ s ∈ o.statements, ∃ front name equals back,
    s.tokens = front ++ name :: equals :: t :: back ∧ SpellsTooltip name equals

/-- The token is the value of an argument named `tooltip`: up to comments and line ends, the argument
of a call is `tooltip =` and the token. -/
def IsTooltipArgument (o : Outline) (t : Lexeme) : Prop :=
  ∃ c ∈ o.calls, ∃ arg ∈ Coupling.arguments o c, ∃ name equals,
    arg.filter (·.isCode) = [name, equals, t] ∧ SpellsTooltip name equals

/-- A statement is all of the code that stands in it. -/
theorem filter_mem_tokens {s : Statement} (hs : s ∈ (ofTokens (numberTokens ts)).statements) :
    ((ofTokens (numberTokens ts)).tokens.filter (·.isCode)).filter (· ∈ s.tokens) = s.tokens := by
  obtain ⟨front, back, hstatements⟩ := List.append_of_mem hs
  have hindex := pairwise_index_statements ts
  rw [← flatMap_tokens_statements]
  rw [hstatements, List.flatMap_append, List.flatMap_cons] at hindex ⊢
  obtain ⟨-, hindex, hfront⟩ := List.pairwise_append.1 hindex
  have hback := (List.pairwise_append.1 hindex).2.2
  rw [List.filter_append, List.filter_append, List.filter_eq_nil_iff.2, List.filter_eq_self.2,
    List.filter_eq_nil_iff.2, List.nil_append, List.append_nil]
  · intro t ht hmem
    exact Nat.lt_irrefl _ (hback t (of_decide_eq_true hmem) t ht)
  · intro t ht
    exact decide_eq_true ht
  · intro t ht hmem
    exact Nat.lt_irrefl _ (hfront t ht t (List.mem_append_left _ (of_decide_eq_true hmem)))

/-- A run of code that stands in one statement is a run of the statement. -/
theorem isInfix_tokens {s : Statement} (hs : s ∈ (ofTokens (numberTokens ts)).statements)
    {run : List Lexeme} (hrun : run <:+: (ofTokens (numberTokens ts)).tokens.filter (·.isCode))
    (hmem : ∀ t ∈ run, t ∈ s.tokens) : run <:+: s.tokens := by
  have h := hrun.filter (· ∈ s.tokens)
  rw [filter_mem_tokens hs, List.filter_eq_self.2 fun t ht => decide_eq_true (hmem t ht)] at h
  exact h

/-- The code between the parentheses of a call stands in one statement. -/
theorem exists_statement_of_contains {c : Call} (hc : c ∈ (ofTokens (numberTokens ts)).calls) :
    ∃ n : Nat, ∀ t ∈ (ofTokens (numberTokens ts)).tokens, t.isCode = true → c.contains t.index = true →
      ∃ s, (ofTokens (numberTokens ts)).statements[n]? = some s ∧ t ∈ s.tokens := by
  obtain ⟨n, hn⟩ := exists_statement_of_mem_calls hc
  refine ⟨n, fun t ht hcode hcontains => ?_⟩
  simp only [Call.contains, Bool.and_eq_true, decide_eq_true_eq] at hcontains
  obtain ⟨s, hs, u, hu, hindex⟩ := statementOf?_eq_some_iff.1
    (hn t ht hcode (Nat.le_of_lt hcontains.1) (Nat.le_of_lt hcontains.2))
  obtain rfl : u = t := eq_of_pairwise_key Nat.lt_irrefl (pairwise_index_numberFrom 0 _) ht
    (mem_tokens hs hu) hindex
  exact ⟨s, hs, hu⟩

/-- The code of an argument is a run of one statement. -/
theorem exists_statement_of_mem_arguments (hts : EndsOnce ts) {c : Call}
    (hc : c ∈ (ofTokens (numberTokens ts)).calls) {arg : List Lexeme}
    (harg : arg ∈ Coupling.arguments (ofTokens (numberTokens ts)) c) (hcode : arg.filter (·.isCode) ≠ []) :
    ∃ s ∈ (ofTokens (numberTokens ts)).statements, arg.filter (·.isCode) <:+: s.tokens := by
  obtain ⟨n, hn⟩ := exists_statement_of_contains hc
  obtain ⟨before, after, htokens, -, -⟩ :=
    exists_of_mem_arguments (ordered_of_mem_calls hts hc).1 harg
  have hrun : arg <:+: (ofTokens (numberTokens ts)).tokens :=
    ⟨before, after, (List.append_assoc before arg after).trans htokens.symm⟩
  have howned : ∀ t ∈ arg.filter (·.isCode),
      ∃ s, (ofTokens (numberTokens ts)).statements[n]? = some s ∧ t ∈ s.tokens := by
    intro t ht
    obtain ⟨ht, htcode⟩ := List.mem_filter.1 ht
    have hinside := (Coupling.isInfix_of_mem_splitArguments harg).subset ht
    exact hn t (hrun.subset ht) htcode (List.mem_filter.1 hinside).2
  obtain ⟨t, ht⟩ := List.exists_mem_of_ne_nil _ hcode
  obtain ⟨s, hs, -⟩ := howned t ht
  have hmem := List.mem_of_getElem? hs
  refine ⟨s, hmem, isInfix_tokens hmem (hrun.filter _) fun u hu => ?_⟩
  obtain ⟨s', hs', hu'⟩ := howned u hu
  obtain rfl : s = s' := Option.some.inj (hs.symm.trans hs')
  exact hu'

theorem followsTooltip_of_isTooltipArgument (hts : EndsOnce ts) {t : Lexeme}
    (h : (ofTokens (numberTokens ts)).IsTooltipArgument t) :
    (ofTokens (numberTokens ts)).FollowsTooltip t := by
  obtain ⟨c, hc, arg, harg, name, equals, hcode, hspells⟩ := h
  obtain ⟨s, hs, front, back, hrun⟩ := exists_statement_of_mem_arguments hts hc harg (by simp [hcode])
  refine ⟨s, hs, front, name, equals, back, ?_, hspells⟩
  rw [← hrun, hcode, List.append_assoc]
  rfl

end Outline

namespace Literal

theorem followsTooltip_cons {index : Nat} {ts : List Lexeme} (h : followsTooltip index ts = true)
    (t : Lexeme) : followsTooltip index (t :: ts) = true := by
  rcases ts with _ | ⟨u, _ | ⟨v, rest⟩⟩
  · cases h
  · cases h
  · rw [followsTooltip, h, Bool.or_true]

theorem followsTooltip_iff {index : Nat} {ts : List Lexeme} :
    followsTooltip index ts = true ↔ ∃ front name equals value back,
      ts = front ++ name :: equals :: value :: back ∧ value.index = index ∧
        SpellsTooltip name equals := by
  constructor
  · intro h
    induction ts with
    | nil => cases h
    | cons name ts ih =>
        rcases ts with _ | ⟨equals, _ | ⟨value, rest⟩⟩
        · cases h
        · cases h
        · rw [followsTooltip, Bool.or_eq_true] at h
          rcases h with h | h
          · simp only [Bool.and_eq_true, beq_iff_eq] at h
            obtain ⟨⟨⟨hindex, hequals⟩, hname⟩, htext⟩ := h
            exact ⟨[], name, equals, value, rest, rfl, hindex, hname, htext, hequals⟩
          · obtain ⟨front, name', equals', value', back, hts, hspells⟩ := ih h
            exact ⟨name :: front, name', equals', value', back, by rw [hts]; rfl, hspells⟩
  · rintro ⟨front, name, equals, value, back, rfl, hindex, hname, htext, hequals⟩
    induction front with
    | nil => simp [followsTooltip, hindex, hname, htext, hequals]
    | cons t front ih => exact followsTooltip_cons ih t

variable {source : String} {settings : Settings}

theorem isShortTooltip_iff {t : Lexeme}
    (ht : t ∈ (Script.read source settings).outline.tokens) :
    isShortTooltip (.read source settings) t = true ↔
      t.stringValue.length < settings.tooltipMaxLength ∧
        (Script.read source settings).outline.FollowsTooltip t := by
  simp only [Script.read, Outline.read_eq, Script.ofOutline] at ht ⊢
  rw [isShortTooltip, Bool.and_eq_true, decide_eq_true_eq, List.any_eq_true]
  refine and_congr_right fun _ => exists_congr fun s => and_congr_right fun hs => ?_
  rw [followsTooltip_iff]
  constructor
  · rintro ⟨front, name, equals, value, back, htokens, hindex, hspells⟩
    obtain ⟨n, hn⟩ := List.getElem?_of_mem hs
    obtain rfl : value = t := eq_of_pairwise_key Nat.lt_irrefl (pairwise_index_numberFrom 0 _) ht
      (Outline.mem_tokens hn (by simp [htokens])) hindex
    exact ⟨front, name, equals, back, htokens, hspells⟩
  · rintro ⟨front, name, equals, back, htokens, hspells⟩
    exact ⟨front, name, equals, t, back, htokens, rfl, hspells⟩

/-- The strings of a script are reported in order, each once, at their places, but for those in the
values of constants and for short ones behind `tooltip =`.  The latter are the values of arguments
named `tooltip`, and others. -/
theorem strings_reported (source : String) (settings : Settings) :
    let script := Script.read source settings
    let o := script.outline
    ∃ reported : List Lexeme,
      checkStrings script = reported.map (fun t => .warning .hardcodedString t.position
        s!"hardcoded string {excerpt t.text}; declare it as an UPPER_SNAKE_CASE constant") ∧
      reported.Sublist o.tokens ∧
      (∀ t ∈ o.tokens, t ∈ reported ↔ t.kind = .stringLiteral ∧ ¬ o.InConstantAssignment t.index ∧
        ¬ (t.stringValue.length < settings.tooltipMaxLength ∧ o.FollowsTooltip t)) ∧
      ∀ t, o.IsTooltipArgument t → o.FollowsTooltip t := by
  intro script o
  have hread : o = .ofTokens (numberTokens (readTokens source settings.tabWidth)) :=
    Outline.read_eq source settings.tabWidth
  have hts := endsOnce_readTokens source settings.tabWidth
  refine ⟨_, rfl, List.filter_sublist, ?_, fun t => ?_⟩
  case refine_2 =>
    rw [hread]
    exact Outline.followsTooltip_of_isTooltipArgument hts
  intro t ht
  rw [List.mem_filter, and_iff_right ht, ← isShortTooltip_iff ht,
    ← Outline.inConstantValue_iff_assignment, Outline.inConstantValue]
  simp [script, o, and_assoc]

/-- The value of an argument named `tooltip` is spared, the string of another argument is reported. -/
theorem strings_reported_argument :
    let script := Script.read "f(tooltip = 'a')\nplot('b')" {}
    let o := script.outline
    let tooltip : Lexeme := ⟨⟨.stringLiteral, "'a'", ⟨1, 13⟩⟩, 4⟩
    let text : Lexeme := ⟨⟨.stringLiteral, "'b'", ⟨2, 6⟩⟩, 9⟩
    tooltip ∈ o.tokens ∧ text ∈ o.tokens ∧ o.IsTooltipArgument tooltip ∧ o.FollowsTooltip tooltip ∧
      ∃ reported : List Lexeme, tooltip ∉ reported ∧ text ∈ reported ∧
        checkStrings script = reported.map (fun t => .warning .hardcodedString t.position
          s!"hardcoded string {excerpt t.text}; declare it as an UPPER_SNAKE_CASE constant") := by
  intro script o tooltip text
  let call : Call := ⟨"f", ⟨1, 1⟩, 0, 1, 5⟩
  let name : Lexeme := ⟨⟨.identifier, "tooltip", ⟨1, 3⟩⟩, 2⟩
  let equals : Lexeme := ⟨⟨.operator, "=", ⟨1, 11⟩⟩, 3⟩
  have hfacts : (tooltip ∈ o.tokens ∧ text ∈ o.tokens) ∧
      (call ∈ o.calls ∧ [name, equals, tooltip] ∈ Coupling.arguments o call) ∧
      ¬ o.inConstantValue text.index = true ∧ ¬ isShortTooltip script text = true := by
    decide +kernel
  obtain ⟨⟨htooltip, htext⟩, ⟨hcall, harg⟩, hvalue, hlong⟩ := hfacts
  have hargument : o.IsTooltipArgument tooltip :=
    ⟨call, hcall, [name, equals, tooltip], harg, name, equals, rfl, rfl, rfl, rfl⟩
  rw [Outline.inConstantValue_iff_assignment] at hvalue
  rw [isShortTooltip_iff htext] at hlong
  obtain ⟨reported, hfindings, -, hreported, hfollows⟩ :=
    strings_reported "f(tooltip = 'a')\nplot('b')" {}
  refine ⟨htooltip, htext, hargument, hfollows tooltip hargument, reported, ?_, ?_, hfindings⟩
  · intro hmem
    have hshort : tooltip.stringValue.length < 100 := by decide
    exact ((hreported tooltip htooltip).1 hmem).2.2 ⟨hshort, hfollows tooltip hargument⟩
  · exact (hreported text htext).2 ⟨rfl, hvalue, hlong⟩

/-- A variable named `tooltip` spares a string that is neither in a constant nor in a call. -/
theorem strings_reported_except_variable :
    let script := Script.read "tooltip = \"x\"" {}
    let o := script.outline
    let text : Lexeme := ⟨⟨.stringLiteral, "\"x\"", ⟨1, 11⟩⟩, 2⟩
    text ∈ o.tokens ∧ text.kind = .stringLiteral ∧ ¬ o.InConstantAssignment text.index ∧
      ¬ o.IsTooltipArgument text ∧ checkStrings script = [] := by
  intro script o text
  have hfacts : (text ∈ o.tokens ∧ ¬ o.inConstantValue text.index = true) ∧
      o.calls = [] ∧ checkStrings script = [] := by
    decide +kernel
  obtain ⟨⟨htext, hvalue⟩, hcalls, hfindings⟩ := hfacts
  rw [Outline.inConstantValue_iff_assignment] at hvalue
  refine ⟨htext, rfl, hvalue, ?_, hfindings⟩
  rintro ⟨c, hc, -⟩
  rw [hcalls] at hc
  cases hc

end Literal

/-! ## Trees of calls -/

namespace Call

variable {last i : Nat} {c d : Call}

/-- What is in a call is in the calls that the call starts in. -/
theorem contains_trans (h : NestsWith last c d) (hd : d.Ordered last)
    (hcd : c.contains d.nameStart = true) (hdi : d.contains i = true) : c.contains i = true := by
  obtain ⟨hname, -, -⟩ := hd
  simp only [contains, Bool.and_eq_true, decide_eq_true_eq] at hcd hdi ⊢
  rcases h with h | ⟨h, hclosing⟩ | ⟨h, hc, hd⟩
  · omega
  · omega
  · omega

/-- Of two calls around a token, the one behind starts in the other. -/
theorem contains_nameStart_of_nestsWith (h : NestsWith last c d) (hd : d.Ordered last)
    (hci : c.contains i = true) (hdi : d.contains i = true) : c.contains d.nameStart = true := by
  obtain ⟨hname, -, -⟩ := hd
  simp only [contains, Bool.and_eq_true, decide_eq_true_eq] at hci hdi ⊢
  rcases h with h | ⟨h, -⟩ | ⟨h, -, -⟩
  · omega
  · omega
  · omega

theorem not_contains_nameStart (h : c.Ordered last) : c.contains c.nameStart = false := by
  simp [contains, Nat.le_of_lt h.1]

theorem nameStart_lt_of_contains (h : c.Ordered last) (hci : c.contains i = true) :
    c.nameStart < i := by
  simp only [contains, Bool.and_eq_true, decide_eq_true_eq] at hci
  exact Nat.lt_trans h.1 hci.1

theorem nameStart_lt_of_nestsWith (h : NestsWith last c d) (hc : c.Ordered last) :
    c.nameStart < d.nameStart := by
  obtain ⟨hname, hclosing, -⟩ := hc
  rcases h with h | ⟨h, -⟩ | ⟨h, -, -⟩
  · exact Nat.lt_trans hname (Nat.lt_trans hclosing h)
  · exact Nat.lt_trans hname h
  · exact Nat.lt_trans hname h

end Call

namespace Outline

variable {source : String} {tab : Nat} {c d : Call}

theorem ordered_of_mem_calls_ofSource (hc : c ∈ (ofSource source tab).calls) :
    c.Ordered ((ofSource source tab).tokens.length - 1) :=
  (ordered_of_mem_calls (endsOnce_tokenize source tab) hc).1

/-- Of two calls, one is nested with the other behind it. -/
theorem nestsWith_or (hc : c ∈ (ofSource source tab).calls) (hd : d ∈ (ofSource source tab).calls)
    (hne : c ≠ d) :
    Call.NestsWith ((ofSource source tab).tokens.length - 1) c d ∨
      Call.NestsWith ((ofSource source tab).tokens.length - 1) d c := by
  obtain ⟨front, back, hcalls⟩ := List.append_of_mem hc
  have hnested : (ofSource source tab).calls.Pairwise
      (Call.NestsWith ((ofSource source tab).tokens.length - 1)) :=
    pairwise_nestsWith (endsOnce_tokenize source tab)
  rw [hcalls] at hnested hd
  obtain ⟨-, hback, hfront⟩ := List.pairwise_append.1 hnested
  rcases List.mem_append.1 hd with hd | hd
  · exact Or.inr (hfront d hd c List.mem_cons_self)
  · rcases List.mem_cons.1 hd with rfl | hd
    · exact absurd rfl hne
    · exact Or.inl ((List.pairwise_cons.1 hback).1 d hd)

theorem nestsWith_of_contains (hc : c ∈ (ofSource source tab).calls)
    (hd : d ∈ (ofSource source tab).calls) (h : c.contains d.nameStart = true) :
    Call.NestsWith ((ofSource source tab).tokens.length - 1) c d := by
  have hlt := Call.nameStart_lt_of_contains (ordered_of_mem_calls_ofSource hc) h
  have hne : c ≠ d := by
    rintro rfl
    exact Nat.lt_irrefl _ hlt
  rcases nestsWith_or hc hd hne with hnests | hnests
  · exact hnests
  · have hlt' := Call.nameStart_lt_of_nestsWith hnests (ordered_of_mem_calls_ofSource hd)
    exact absurd hlt (Nat.lt_asymm hlt')

/-- Tokens come in the order of their places. -/
theorem position_lt_of_index_lt {t u : Lexeme} (ht : t ∈ (ofSource source tab).tokens)
    (hu : u ∈ (ofSource source tab).tokens) (h : t.index < u.index) : t.position < u.position := by
  obtain ⟨hi, hti⟩ := List.getElem?_eq_some_iff.1 (getElem?_index ht)
  obtain ⟨hj, huj⟩ := List.getElem?_eq_some_iff.1 (getElem?_index hu)
  have hlt := List.pairwise_iff_getElem.1 (pairwise_position source tab) t.index u.index hi hj h
  rw [← hti, ← huj]
  exact hlt

end Outline

namespace Literal

/-- The color call is a root: it starts in no other one. -/
def IsRoot (colors : List Call) (c : Call) : Prop :=
  c ∈ colors ∧ ∀ d ∈ colors, d ≠ c → d.contains c.nameStart = false

/-- The tree at a root: the root and the color calls that start in it. -/
def tree (colors : List Call) (root : Call) : List Call :=
  root :: colors.filter fun c => root.contains c.nameStart

variable {source : String} {settings : Settings} {c root : Call}

theorem mem_tree {colors : List Call} :
    c ∈ tree colors root ↔ c = root ∨ (c ∈ colors ∧ root.contains c.nameStart = true) := by
  rw [tree, List.mem_cons, List.mem_filter]

theorem IsRoot.eq_of_contains {colors : List Call} {d : Call} (h : IsRoot colors c)
    (hd : d ∈ colors) (hcontains : d.contains c.nameStart = true) : d = c := by
  by_contra hne
  exact Bool.false_ne_true ((h.2 d hd hne).symm.trans hcontains)

theorem mem_calls (hc : c ∈ colorCalls (.ofSource source settings)) :
    c ∈ (Outline.ofSource source settings.tabWidth).calls :=
  (List.mem_filter.1 hc).1

/-- A color call is in the tree of a root: of itself, or of a root around a color call that it starts
in. -/
theorem exists_root (hc : c ∈ colorCalls (.ofSource source settings)) :
    ∃ root, IsRoot (colorCalls (.ofSource source settings)) root ∧
      c ∈ tree (colorCalls (.ofSource source settings)) root := by
  -- a call around another one starts before it
  induction hstart : c.nameStart using Nat.strong_induction_on generalizing c with
  | h start ih =>
      by_cases hroot : IsRoot (colorCalls (.ofSource source settings)) c
      · exact ⟨c, hroot, List.mem_cons_self⟩
      obtain ⟨d, hd, hne, hcontains⟩ : ∃ d ∈ colorCalls (.ofSource source settings), d ≠ c ∧
          d.contains c.nameStart = true := by
        by_contra hnone
        exact hroot ⟨hc, fun d hd hne => Bool.eq_false_iff.2 fun h => hnone ⟨d, hd, hne, h⟩⟩
      have hordered := Outline.ordered_of_mem_calls_ofSource (mem_calls hd)
      have hlt := Call.nameStart_lt_of_contains hordered hcontains
      obtain ⟨root, hroot, hmem⟩ := ih d.nameStart (hstart ▸ hlt) hd rfl
      refine ⟨root, hroot, mem_tree.2 (Or.inr ⟨hc, ?_⟩)⟩
      rcases mem_tree.1 hmem with rfl | ⟨-, houter⟩
      · exact hcontains
      · have hnests := Outline.nestsWith_of_contains (mem_calls hroot.1) (mem_calls hd) houter
        exact Call.contains_trans hnests hordered houter hcontains

/-- A color call is in the tree of one root only. -/
theorem root_unique {root' : Call} (hroot : IsRoot (colorCalls (.ofSource source settings)) root)
    (hroot' : IsRoot (colorCalls (.ofSource source settings)) root')
    (hc : c ∈ tree (colorCalls (.ofSource source settings)) root)
    (hc' : c ∈ tree (colorCalls (.ofSource source settings)) root') : root = root' := by
  rcases mem_tree.1 hc with rfl | ⟨-, hcontains⟩
  · rcases mem_tree.1 hc' with heq | ⟨-, hcontains'⟩
    · exact heq
    · exact (hroot.eq_of_contains hroot'.1 hcontains').symm
  · rcases mem_tree.1 hc' with rfl | ⟨-, hcontains'⟩
    · exact hroot'.eq_of_contains hroot.1 hcontains
    · -- the root behind would start in the other one
      by_contra hne
      rcases Outline.nestsWith_or (mem_calls hroot.1) (mem_calls hroot'.1) hne with h | h
      · have hordered := Outline.ordered_of_mem_calls_ofSource (mem_calls hroot'.1)
        have hinside := Call.contains_nameStart_of_nestsWith h hordered hcontains hcontains'
        exact hne (hroot'.eq_of_contains hroot.1 hinside)
      · have hordered := Outline.ordered_of_mem_calls_ofSource (mem_calls hroot.1)
        have hinside := Call.contains_nameStart_of_nestsWith h hordered hcontains' hcontains
        exact hne (hroot.eq_of_contains hroot'.1 hinside).symm

/-! ## Findings about colors -/

/-- The findings that stand at one of the places. -/
def findingsAt (found : List Diagnostic) (places : List Position) : List Diagnostic :=
  found.filter fun d => d.position ∈ places

/-- If only the value of one element passes, what passes is that value. -/
theorem filter_filterMap_eq_toList {α β : Type} {xs : List α} {f : α → Option β} {p : β → Bool}
    (hxs : xs.Nodup) {x : α} (hx : x ∈ xs)
    (h : ∀ y ∈ xs, ∀ d, f y = some d → (p d = true ↔ y = x)) :
    (xs.filterMap f).filter p = (f x).toList := by
  obtain ⟨front, back, rfl⟩ := List.append_of_mem hx
  have hpasses (ys : List α) (hys : ∀ y ∈ ys, y ∈ front ++ x :: back ∧ y ≠ x) :
      (ys.filterMap f).filter p = [] := by
    refine List.filter_eq_nil_iff.2 fun d hd hpd => ?_
    obtain ⟨y, hy, hdy⟩ := List.mem_filterMap.1 hd
    exact (hys y hy).2 ((h y (hys y hy).1 d hdy).1 hpd)
  obtain ⟨-, hback, hfront⟩ := List.pairwise_append.1 hxs
  have hfrontNil := hpasses front fun y hy =>
    ⟨List.mem_append_left _ hy, hfront y hy x List.mem_cons_self⟩
  have hbackNil := hpasses back fun y hy =>
    ⟨List.mem_append_right _ (List.mem_cons_of_mem x hy),
      Ne.symm ((List.pairwise_cons.1 hback).1 y hy)⟩
  rw [List.filterMap_append, List.filter_append, hfrontNil, List.nil_append, List.filterMap_cons]
  cases hfx : f x with
  | none => exact hbackNil
  | some d =>
      have hpd := (h x hx d hfx).2 rfl
      rw [List.filter_cons_of_pos hpd, hbackNil]
      rfl

/-- Color calls come in the order of their places. -/
theorem pairwise_position_colorCalls (source : String) (settings : Settings) :
    (colorCalls (.ofSource source settings)).Pairwise (·.position < ·.position) := by
  have hnested := Outline.pairwise_nestsWith (endsOnce_tokenize source settings.tabWidth)
  refine (hnested.filter _).imp_of_mem ?_
  intro c d hc hd hnests
  obtain ⟨t, ht, -, htposition, htindex⟩ := exists_word_of_mem_colorCalls hc
  obtain ⟨u, hu, -, huposition, huindex⟩ := exists_word_of_mem_colorCalls hd
  rw [← htposition, ← huposition]
  refine Outline.position_lt_of_index_lt ht hu ?_
  rw [htindex, huindex]
  exact Call.nameStart_lt_of_nestsWith hnests (Outline.ordered_of_mem_calls_ofSource (mem_calls hc))

theorem eq_of_position_colorCalls {d : Call} (hc : c ∈ colorCalls (.ofSource source settings))
    (hd : d ∈ colorCalls (.ofSource source settings)) (h : d.position = c.position) : d = c :=
  eq_of_pairwise_key Position.lt_irrefl (pairwise_position_colorCalls source settings) hc hd h

theorem insideAny_eq_false_iff_isRoot (hc : c ∈ colorCalls (.ofSource source settings)) :
    insideAny (colorCalls (.ofSource source settings)) c.nameStart = false ↔
      IsRoot (colorCalls (.ofSource source settings)) c := by
  simp only [insideAny, List.any_eq_false, Bool.not_eq_true]
  refine ⟨fun h => ⟨hc, fun d hd _ => h d hd⟩, fun h d hd => ?_⟩
  by_cases heq : d = c
  · rw [heq]
    exact Call.not_contains_nameStart (Outline.ordered_of_mem_calls_ofSource (mem_calls hc))
  · exact h.2 d hd heq

theorem mem_colorCalls_of_mem_tree {colors : List Call} (hroot : IsRoot colors root)
    (hc : c ∈ tree colors root) : c ∈ colors := by
  rcases mem_tree.1 hc with rfl | ⟨hc, -⟩
  · exact hroot.1
  · exact hc

/-- The finding about a tree stands at a call of the tree. -/
theorem exists_mem_tree_of_treeFinding? {colors : List Call} {declared : List Nat} {d : Diagnostic}
    (h : treeFinding? colors declared root = some d) :
    ∃ c ∈ tree colors root, d.position = c.position := by
  rw [treeFinding?] at h
  split at h
  case h_1 inner hinner =>
    cases h
    have hcontains := List.find?_some hinner
    exact ⟨inner, mem_tree.2 (Or.inr ⟨List.mem_of_find?_eq_some hinner, hcontains⟩), rfl⟩
  case h_2 =>
    split at h
    case isTrue => cases h
    case isFalse =>
      cases h
      exact ⟨root, List.mem_cons_self, rfl⟩

/-- The findings about trees. -/
def treeFindings (s : Script) : List Diagnostic :=
  ((colorCalls s).filter fun c => !insideAny (colorCalls s) c.nameStart).filterMap
    (treeFinding? (colorCalls s) s.outline.constantValues)

/-- The finding about a token, if it is a color literal that may not stand where it does. -/
def literalFinding? (s : Script) (t : Lexeme) : Option Diagnostic :=
  if t.kind == .colorLiteral && !insideAny (colorCalls s) t.index
      && !s.outline.constantValues.contains t.index then
    some (.warning .hardcodedColor t.position
      s!"hardcoded color literal {t.text}; declare it as an UPPER_SNAKE_CASE constant")
  else none

theorem checkColors_eq (s : Script) :
    checkColors s = treeFindings s ++ s.outline.tokens.filterMap (literalFinding? s) := by
  refine congrArg (treeFindings s ++ ·) ?_
  rw [← List.filterMap_eq_map, List.filterMap_filter]
  rfl

theorem exists_call_of_mem_treeFindings {s : Script} {d : Diagnostic} (h : d ∈ treeFindings s) :
    ∃ c ∈ colorCalls s, d.position = c.position := by
  obtain ⟨root, hroot, hd⟩ := List.mem_filterMap.1 h
  exact exists_call_of_treeFinding? (List.mem_filter.1 hroot).1 hd

theorem position_of_literalFinding? {s : Script} {t : Lexeme} {d : Diagnostic}
    (h : literalFinding? s t = some d) : t.kind = .colorLiteral ∧ d.position = t.position := by
  rw [literalFinding?] at h
  split at h
  case isTrue hreported =>
    cases h
    simp only [Bool.and_eq_true, beq_iff_eq] at hreported
    exact ⟨hreported.1.1, rfl⟩
  case isFalse => cases h

theorem literalFinding?_eq_some {s : Script} {t : Lexeme} (hkind : t.kind = .colorLiteral)
    (hinside : insideAny (colorCalls s) t.index = false)
    (hvalue : s.outline.inConstantValue t.index = false) :
    literalFinding? s t = some (.warning .hardcodedColor t.position
      s!"hardcoded color literal {t.text}; declare it as an UPPER_SNAKE_CASE constant") := by
  rw [Outline.inConstantValue] at hvalue
  rw [literalFinding?, hkind, hinside, hvalue]
  rfl

theorem literalFinding?_eq_none {s : Script} {t : Lexeme}
    (h : insideAny (colorCalls s) t.index = true ∨ s.outline.inConstantValue t.index = true) :
    literalFinding? s t = none := by
  rw [Outline.inConstantValue] at h
  rw [literalFinding?]
  rcases h with h | h
  · rw [h]
    simp
  · rw [h]
    simp

/-- No color call stands where a color literal does. -/
theorem position_ne_of_colorLiteral (hc : c ∈ colorCalls (.ofSource source settings)) {t : Lexeme}
    (ht : t ∈ (Script.ofSource source settings).outline.tokens) (hkind : t.kind = .colorLiteral) :
    c.position ≠ t.position := by
  intro h
  obtain ⟨u, hu, hword, hposition, -⟩ := exists_word_of_mem_colorCalls hc
  obtain rfl := eq_of_position ht hu (hposition.trans h)
  exact absurd (hword.symm.trans hkind) (by decide)

/-- At the calls of a tree stands what is found about the tree. -/
theorem findingsAt_tree (hroot : IsRoot (colorCalls (.ofSource source settings)) root) :
    findingsAt (checkColors (.ofSource source settings))
        ((tree (colorCalls (.ofSource source settings)) root).map (·.position)) =
      (treeFinding? (colorCalls (.ofSource source settings))
        (Script.ofSource source settings).outline.constantValues root).toList := by
  rw [findingsAt, checkColors_eq, List.filter_append, treeFindings,
    filter_filterMap_eq_toList (x := root), List.filter_eq_nil_iff.2, List.append_nil]
  · intro d hd hplace
    obtain ⟨t, ht, hd⟩ := List.mem_filterMap.1 hd
    obtain ⟨hkind, hposition⟩ := position_of_literalFinding? hd
    obtain ⟨c, hc, hplace⟩ := List.mem_map.1 (of_decide_eq_true hplace)
    exact position_ne_of_colorLiteral (mem_colorCalls_of_mem_tree hroot hc) ht hkind
      (hplace.trans hposition)
  · exact (nodup_of_pairwise_key Position.lt_irrefl
      (pairwise_position_colorCalls source settings)).filter _
  · exact List.mem_filter.2 ⟨hroot.1, by simpa using (insideAny_eq_false_iff_isRoot hroot.1).2 hroot⟩
  · intro other hother d hd
    obtain ⟨hmem, hother⟩ := List.mem_filter.1 hother
    have hother := (insideAny_eq_false_iff_isRoot hmem).1 (by simpa using hother)
    obtain ⟨c, hc, hposition⟩ := exists_mem_tree_of_treeFinding? hd
    rw [decide_eq_true_eq, hposition]
    constructor
    · intro hplace
      obtain ⟨c', hc', hsame⟩ := List.mem_map.1 hplace
      obtain rfl := eq_of_position_colorCalls (mem_colorCalls_of_mem_tree hother hc)
        (mem_colorCalls_of_mem_tree hroot hc') hsame
      exact root_unique hother hroot hc hc'
    · rintro rfl
      exact List.mem_map_of_mem hc

/-- At a color literal stands what is found about the literal. -/
theorem findingsAt_literal {t : Lexeme}
    (ht : t ∈ (Script.ofSource source settings).outline.tokens) (hkind : t.kind = .colorLiteral) :
    findingsAt (checkColors (.ofSource source settings)) [t.position] =
      (literalFinding? (.ofSource source settings) t).toList := by
  rw [findingsAt, checkColors_eq, List.filter_append, filter_filterMap_eq_toList (x := t) _ ht,
    List.filter_eq_nil_iff.2, List.nil_append]
  · intro d hd hplace
    obtain ⟨c, hc, hposition⟩ := exists_call_of_mem_treeFindings hd
    have hplace := List.mem_singleton.1 (of_decide_eq_true hplace)
    exact position_ne_of_colorLiteral hc ht hkind (hposition.symm.trans hplace)
  · intro u hu d hd
    rw [decide_eq_true_eq, List.mem_singleton, (position_of_literalFinding? hd).2]
    exact ⟨eq_of_position ht hu, fun h => by rw [h]⟩
  · exact nodup_of_pairwise_key Position.lt_irrefl
      (Outline.pairwise_position source settings.tabWidth)

/-- What is found about a tree of several calls, whatever it is assigned to. -/
theorem treeFinding?_of_nested {colors more : List Call} {declared : List Nat} {first : Call}
    (h : tree colors root = root :: first :: more) :
    treeFinding? colors declared root = some (.error .hardcodedColor first.position
      s!"nested color construction: '{first.name}' inside '{root.name}'; declare the inner color as a constant") := by
  have hfirst : (colors.find? fun c => root.contains c.nameStart) = some first := by
    rw [← List.head?_filter, (List.cons.inj h).2]
    rfl
  rw [treeFinding?, hfirst]

/-- What is found about a tree of one call. -/
theorem treeFinding?_of_single {colors : List Call} {declared : List Nat}
    (h : tree colors root = [root]) :
    treeFinding? colors declared root =
      if declared.contains root.nameStart then none
      else some (.warning .hardcodedColor root.position
        s!"hardcoded color '{root.name}(...)'; declare it as an UPPER_SNAKE_CASE constant") := by
  have hnone : (colors.find? fun c => root.contains c.nameStart) = none := by
    rw [← List.head?_filter, (List.cons.inj h).2]
    rfl
  rw [treeFinding?, hnone]

/-- What the rule on colors reports. -/
structure ColorsReported (s : Script) : Prop where
  /-- Color calls come in the order of their places. -/
  increasing : (colorCalls s).Pairwise (·.position < ·.position)
  /-- Each color call is in the tree of one root. -/
  oneTree : ∀ c ∈ colorCalls s,
    ∃! root, IsRoot (colorCalls s) root ∧ c ∈ tree (colorCalls s) root
  /-- A tree with an inner call has one error, at the first inner call. -/
  nested : ∀ root first more, IsRoot (colorCalls s) root →
    tree (colorCalls s) root = root :: first :: more →
      findingsAt (checkColors s) ((root :: first :: more).map (·.position)) =
        [.error .hardcodedColor first.position
          s!"nested color construction: '{first.name}' inside '{root.name}'; declare the inner color as a constant"]
  /-- A root alone has one warning, outside the values of constants. -/
  single : ∀ root, IsRoot (colorCalls s) root → tree (colorCalls s) root = [root] →
    ¬ s.outline.InConstantAssignment root.nameStart →
      findingsAt (checkColors s) [root.position] = [.warning .hardcodedColor root.position
        s!"hardcoded color '{root.name}(...)'; declare it as an UPPER_SNAKE_CASE constant"]
  /-- A root alone in the value of a constant has no finding. -/
  declared : ∀ root, IsRoot (colorCalls s) root → tree (colorCalls s) root = [root] →
    s.outline.InConstantAssignment root.nameStart →
      findingsAt (checkColors s) [root.position] = []
  /-- A color literal outside color calls and the values of constants has one warning. -/
  literal : ∀ t ∈ s.outline.tokens, t.kind = .colorLiteral →
    (∀ c ∈ colorCalls s, c.contains t.index = false) →
    ¬ s.outline.InConstantAssignment t.index →
      findingsAt (checkColors s) [t.position] = [.warning .hardcodedColor t.position
        s!"hardcoded color literal {t.text}; declare it as an UPPER_SNAKE_CASE constant"]
  /-- Another color literal has no finding. -/
  spared : ∀ t ∈ s.outline.tokens, t.kind = .colorLiteral →
    (∃ c ∈ colorCalls s, c.contains t.index = true) ∨ s.outline.InConstantAssignment t.index →
      findingsAt (checkColors s) [t.position] = []
  /-- All findings stand at color calls and color literals. -/
  places : ∀ d ∈ checkColors s, (∃ c ∈ colorCalls s, d.position = c.position) ∨
    ∃ t ∈ s.outline.tokens, t.kind = .colorLiteral ∧ d.position = t.position

/-- Each tree of color calls is reported once, and so is each color literal. -/
theorem colors_reported (source : String) (settings : Settings) :
    ColorsReported (.ofSource source settings) where
  increasing := pairwise_position_colorCalls source settings
  oneTree c hc := by
    obtain ⟨root, hroot, hmem⟩ := exists_root hc
    exact ⟨root, ⟨hroot, hmem⟩, fun root' h => root_unique h.1 hroot h.2 hmem⟩
  nested root first more hroot htree := by
    rw [← htree, findingsAt_tree hroot, treeFinding?_of_nested htree]
    rfl
  single root hroot htree hvalue := by
    have h := findingsAt_tree hroot
    rw [htree, treeFinding?_of_single htree, if_neg] at h
    · exact h
    · exact fun hdeclared => hvalue (Outline.inConstantValue_iff_assignment.1 hdeclared)
  declared root hroot htree hvalue := by
    have h := findingsAt_tree hroot
    rw [htree, treeFinding?_of_single htree, if_pos] at h
    · exact h
    · exact Outline.inConstantValue_iff_assignment.2 hvalue
  literal t ht hkind hinside hvalue := by
    rw [findingsAt_literal ht hkind, literalFinding?_eq_some hkind]
    · rfl
    · simpa [insideAny] using hinside
    · rwa [← Outline.inConstantValue_iff_assignment, Bool.not_eq_true] at hvalue
  spared t ht hkind hspared := by
    rw [findingsAt_literal ht hkind, literalFinding?_eq_none]
    · rfl
    · rwa [← Outline.inConstantValue_iff_assignment, ← List.any_eq_true] at hspared
  places d hd := by
    rw [checkColors_eq] at hd
    rcases List.mem_append.1 hd with hd | hd
    · exact Or.inl (exists_call_of_mem_treeFindings hd)
    · obtain ⟨t, ht, hd⟩ := List.mem_filterMap.1 hd
      exact Or.inr ⟨t, ht, position_of_literalFinding? hd⟩

/-- A nested color in a constant is an error, and a color literal outside constants a warning. -/
theorem colors_reported_nested :
    let script := Script.ofSource "A = color.new(color.rgb(1), 5)\nplot(#102030)" {}
    let outer : Call := ⟨"color.new", ⟨1, 5⟩, 2, 5, 14⟩
    let inner : Call := ⟨"color.rgb", ⟨1, 15⟩, 6, 9, 11⟩
    let color : Lexeme := ⟨⟨.colorLiteral, "#102030", ⟨2, 6⟩⟩, 18⟩
    (∃! root, IsRoot (colorCalls script) root ∧ inner ∈ tree (colorCalls script) root) ∧
      findingsAt (checkColors script) [outer.position, inner.position] =
        [.error .hardcodedColor ⟨1, 15⟩
          "nested color construction: 'color.rgb' inside 'color.new'; declare the inner color as a constant"] ∧
      findingsAt (checkColors script) [color.position] = [.warning .hardcodedColor ⟨2, 6⟩
        "hardcoded color literal #102030; declare it as an UPPER_SNAKE_CASE constant"] := by
  intro script outer inner color
  have hfacts : colorCalls script = [outer, inner] ∧ color ∈ script.outline.tokens ∧
      ¬ script.outline.inConstantValue color.index = true := by
    decide +kernel
  obtain ⟨hcalls, hcolor, hvalue⟩ := hfacts
  have houter : IsRoot (colorCalls script) outer := by
    rw [hcalls]
    exact ⟨List.mem_cons_self, by decide⟩
  have htree : tree (colorCalls script) outer = [outer, inner] := by
    rw [hcalls]
    decide
  rw [Outline.inConstantValue_iff_assignment] at hvalue
  have h := colors_reported "A = color.new(color.rgb(1), 5)\nplot(#102030)" {}
  refine ⟨h.oneTree inner ?_, h.nested outer inner [] houter htree,
    h.literal color hcolor rfl ?_ hvalue⟩
  · exact hcalls ▸ List.mem_cons_of_mem outer List.mem_cons_self
  · show ∀ c ∈ colorCalls script, c.contains color.index = false
    rw [hcalls]
    decide

end Literal

end ChartLint
