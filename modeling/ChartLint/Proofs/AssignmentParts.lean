import ChartLint.Proofs.StatementPartition
import ChartLint.Proofs.StatementParts

/-!
# The parts of an assignment

An assignment cuts its statement into a front, an operator and a value.

*Operators.*  The cut is at the first assignment operator outside brackets, unless an arrow outside
brackets comes first (`Assignment.splitAtOperator_eq_some_iff`).  A statement is an assignment
exactly if it is cut, does not start with a block keyword, and has a front of one of the three forms
(`Statement.assignment?_eq_some_iff`).

*Targets.*  What is assigned stands in the front, and only a tuple assigns more than one token
(`Assignment.Targets.exists_eq_singleton`).

*Names.*  Tuples and single names assign nothing but names.  A chain of members assigns its first
token, and its points may stand anywhere, also in front of all names.  So the targets are names
exactly if no chain starts with a point (`Assignment.Targets.forall_isIdentifier_iff`).  A chain
that does assigns the point (`Outline.not_all_targets_names`).
-/

namespace ChartLint

/-- Is the token an assignment operator? -/
def Token.assigns (t : Token) : Bool :=
  t.kind == .operator && Vocabulary.assignmentOperators.contains t.text

/-! ## Where an assignment is split -/

namespace Assignment

/-- None of the tokens that stand outside brackets assigns or is an arrow.  `depth` is the bracket
depth in front of the tokens. -/
def PassedOver (depth : Nat) (ts : List Lexeme) : Prop :=
  ∀ before t after, ts = before ++ t :: after → depthBehind (before.map (·.toToken)) depth = 0 →
    t.assigns = false ∧ t.isOperator "=>" = false

variable {depth : Nat} {t : Lexeme} {ts front value : List Lexeme} {op : Lexeme}

theorem passedOver_nil (depth : Nat) : PassedOver depth [] := by
  intro before t after h
  simp at h

theorem passedOver_cons :
    PassedOver depth (t :: ts) ↔
      (depth = 0 → t.assigns = false ∧ t.isOperator "=>" = false) ∧
        PassedOver (t.depthAfter depth) ts := by
  constructor
  · intro h
    refine ⟨h [] t ts rfl, fun before u after hts => ?_⟩
    exact h (t :: before) u after (by rw [hts]; rfl)
  · rintro ⟨hfirst, hrest⟩ before u after hts
    cases before with
    | nil =>
        obtain ⟨rfl, -⟩ := List.cons.inj hts
        exact hfirst
    | cons v before =>
        obtain ⟨rfl, hrest'⟩ := List.cons.inj hts
        exact hrest before u after hrest'

theorem passedOver_append {us : List Lexeme} (hts : PassedOver depth ts)
    (hus : PassedOver (depthBehind (ts.map (·.toToken)) depth) us) :
    PassedOver depth (ts ++ us) := by
  induction ts generalizing depth with
  | nil => exact hus
  | cons t ts ih =>
      obtain ⟨hfirst, hrest⟩ := passedOver_cons.1 hts
      exact passedOver_cons.2 ⟨hfirst, ih hrest hus⟩

/-- Tokens that are passed over stand in front of the operator. -/
theorem splitAtOperator_append (h : PassedOver depth front) (ts : List Lexeme) :
    splitAtOperator depth (front ++ ts) =
      (splitAtOperator (depthBehind (front.map (·.toToken)) depth) ts).map
        fun (more, op, value) => (front ++ more, op, value) := by
  induction front generalizing depth with
  | nil => simp
  | cons t front ih =>
      obtain ⟨hfirst, hrest⟩ := passedOver_cons.1 h
      have hassigns : ¬ (depth == 0 && t.kind == .operator &&
          Vocabulary.assignmentOperators.contains t.text) = true := by
        intro hop
        rw [Bool.and_assoc, Bool.and_eq_true, beq_iff_eq] at hop
        exact Bool.false_ne_true ((hfirst hop.1).1.symm.trans hop.2)
      have harrow : ¬ (depth == 0 && t.isOperator "=>") = true := by
        intro hop
        rw [Bool.and_eq_true, beq_iff_eq] at hop
        exact Bool.false_ne_true ((hfirst hop.1).2.symm.trans hop.2)
      rw [List.cons_append, splitAtOperator, if_neg hassigns, if_neg harrow, ih hrest,
        Option.map_map]
      rfl

theorem splitAtOperator_of_assigns (h : op.assigns = true) (ts : List Lexeme) :
    splitAtOperator 0 (op :: ts) = some ([], op, ts) := by
  rw [splitAtOperator, if_pos (by simpa [Token.assigns] using h)]

/-- An arrow outside brackets rules an assignment out. -/
theorem splitAtOperator_of_arrow {arrow : Lexeme} (h : arrow.isOperator "=>" = true)
    (ts : List Lexeme) : splitAtOperator 0 (arrow :: ts) = none := by
  have hassigns : Vocabulary.assignmentOperators.contains arrow.text = false := by
    rw [(Token.isOperator_iff.1 h).2]
    decide
  rw [splitAtOperator, hassigns, Bool.and_false, if_neg Bool.false_ne_true, h]
  rfl

/-- The split is at the first assignment operator outside brackets that no arrow outside brackets
precedes. -/
theorem splitAtOperator_eq_some_iff :
    splitAtOperator depth ts = some (front, op, value) ↔
      ts = front ++ op :: value ∧ op.assigns = true ∧
        depthBehind (front.map (·.toToken)) depth = 0 ∧ PassedOver depth front := by
  constructor
  · intro h
    induction ts generalizing depth front with
    | nil => cases h
    | cons t ts ih =>
        rw [splitAtOperator] at h
        split at h
        case isTrue hop =>
          simp only [Option.some.injEq, Prod.mk.injEq] at h
          obtain ⟨rfl, rfl, rfl⟩ := h
          rw [Bool.and_assoc, Bool.and_eq_true, beq_iff_eq] at hop
          exact ⟨rfl, hop.2, hop.1, passedOver_nil depth⟩
        case isFalse hop =>
          split at h
          case isTrue => cases h
          case isFalse harrow =>
            obtain ⟨⟨front, op, value⟩, hsplit, heq⟩ := Option.map_eq_some_iff.1 h
            simp only [Prod.mk.injEq] at heq
            obtain ⟨rfl, rfl, rfl⟩ := heq
            obtain ⟨rfl, hassigns, hdepth, hfront⟩ := ih hsplit
            refine ⟨rfl, hassigns, hdepth, passedOver_cons.2 ⟨?_, hfront⟩⟩
            intro hzero
            rw [hzero] at hop harrow
            exact ⟨by simpa [Token.assigns] using hop, by simpa using harrow⟩
  · rintro ⟨rfl, hassigns, hdepth, hfront⟩
    rw [splitAtOperator_append hfront, hdepth, splitAtOperator_of_assigns hassigns]
    simp

end Assignment

/-! ## What a front assigns -/

namespace Assignment.Targets

variable {front targets : List Lexeme} {form : Front}

theorem front_ne_nil (h : Targets front targets form) : front ≠ [] := by
  cases h with
  | tuple => exact List.cons_ne_nil _ _
  | member => exact List.cons_ne_nil _ _
  | single => exact List.append_ne_nil_of_right_ne_nil _ (List.cons_ne_nil _ _)

/-- Only a tuple has several targets. -/
theorem exists_eq_singleton (h : Targets front targets form) (hform : form ≠ .tuple) :
    ∃ t, targets = [t] := by
  cases h with
  | tuple => exact absurd rfl hform
  | @member head => exact ⟨head, rfl⟩
  | @single _ name => exact ⟨name, rfl⟩

/-- The targets are names, unless a chain of members starts with a point. -/
theorem forall_isIdentifier_iff (h : Targets front targets form) :
    (∀ t ∈ targets, t.isIdentifier = true) ↔
      ¬ (form = .member ∧ ∃ point, front.head? = some point ∧ point.isPunctuation "." = true) := by
  by_cases hform : form = .member
  · subst hform
    cases h with
    | @member head _ _ _ hchain =>
        rw [List.forall_mem_singleton]
        constructor
        · rintro hname ⟨-, point, hfirst, hpoint⟩
          obtain rfl := Option.some.inj hfirst
          rw [Token.isPunctuation_of_isIdentifier hname] at hpoint
          cases hpoint
        · intro hno
          refine (hchain head List.mem_cons_self).resolve_right fun hpoint => ?_
          exact hno ⟨rfl, head, rfl, hpoint⟩
  · refine iff_of_true (isIdentifier_of_targets? (targets?_eq_some_iff.2 h) hform) ?_
    exact fun hno => hform hno.1

end Assignment.Targets

/-! ## When a statement is an assignment -/

namespace Statement

variable {s : Statement} {a : Assignment}

theorem assignment?_eq_some_iff :
    s.assignment? = some a ↔
      s.startsWithBlockKeyword = false ∧
        ∃ front op, (s.tokens = front ++ op :: a.value ∧ op.assigns = true ∧
          depthBehind (front.map (·.toToken)) 0 = 0 ∧ Assignment.PassedOver 0 front) ∧
          op.text = a.operator ∧ Assignment.Targets front a.targets a.front := by
  constructor
  · intro h
    rw [assignment?] at h
    obtain ⟨_, hkeyword, h⟩ := Option.bind_eq_some_iff.1 h
    obtain ⟨⟨front, op, value⟩, hsplit, h⟩ := Option.bind_eq_some_iff.1 h
    obtain ⟨⟨targets, form⟩, htargets, h⟩ := Option.bind_eq_some_iff.1 h
    obtain rfl := Option.some.inj h
    refine ⟨?_, front, op, Assignment.splitAtOperator_eq_some_iff.1 hsplit, rfl,
      Assignment.targets?_eq_some_iff.1 htargets⟩
    simpa [guard] using hkeyword
  · rintro ⟨hkeyword, front, op, hcut, htext, htargets⟩
    have hread := Assignment.targets?_eq_some_iff.2 htargets
    rw [assignment?, hkeyword, Assignment.splitAtOperator_eq_some_iff.2 hcut]
    simp [guard, hread, htext]

/-- How an assignment splits its statement. -/
structure SplitsInto (s : Statement) (a : Assignment) (front : List Lexeme) (op : Lexeme) :
    Prop where
  /-- The statement is the front, the operator and the value. -/
  tokens : s.tokens = front ++ op :: a.value
  /-- Something stands in front of the operator. -/
  nonempty : front ≠ []
  /-- The operator is an assignment operator, and the assignment has its spelling. -/
  operator : op.assigns = true ∧ op.text = a.operator
  /-- It stands outside brackets. -/
  outside : depthBehind (front.map (·.toToken)) 0 = 0
  /-- No other assignment operator and no arrow outside brackets stands in front of it. -/
  first : Assignment.PassedOver 0 front
  /-- The statement does not start with a block keyword. -/
  keyword : ¬ (s.first.isIdentifier = true ∧ s.first.text ∈ Vocabulary.blockKeywords)
  /-- Something is assigned. -/
  assigned : a.targets ≠ []
  /-- What is assigned stands in the front. -/
  targets : a.targets.Sublist front
  /-- It stands in the order of the script. -/
  ordered : a.targets.Pairwise (·.index < ·.index)
  /-- The targets are names, exactly if no chain of members starts with a point. -/
  names : (∀ t ∈ a.targets, t.isIdentifier = true) ↔
    ¬ (a.front = .member ∧ s.first.isPunctuation "." = true)
  /-- Only a tuple has several targets. -/
  several : 1 < a.targets.length → a.front = .tuple

theorem startsWithBlockKeyword_eq_false_iff :
    s.startsWithBlockKeyword = false ↔
      ¬ (s.first.isIdentifier = true ∧ s.first.text ∈ Vocabulary.blockKeywords) := by
  rw [← Bool.not_eq_true, startsWithBlockKeyword, Bool.and_eq_true, List.contains_iff_mem]

/-- A front starts with the first token of its statement. -/
theorem head?_front {front rest : List Lexeme} (h : s.tokens = front ++ rest)
    (hfront : front ≠ []) : front.head? = some s.first := by
  obtain ⟨head, tail, rfl⟩ := List.exists_cons_of_ne_nil hfront
  rw [List.head?_cons, (List.cons.inj h).1]

end Statement

namespace Outline

/-- Whatever a script looks like, each of its assignments splits its statement. -/
theorem assignments_split (source : String) (tab : Nat) :
    ∀ s ∈ (read source tab).statements, ∀ a, s.assignment? = some a →
      ∃ front op, s.SplitsInto a front op := by
  intro s hs a ha
  rw [read_eq] at hs
  obtain ⟨hkeyword, front, op, ⟨htokens, hassigns, hdepth, hfirst⟩, htext, htargets⟩ :=
    Statement.assignment?_eq_some_iff.1 ha
  have hread := Assignment.targets?_eq_some_iff.2 htargets
  have hnonempty : front ≠ [] := htargets.front_ne_nil
  have hsublist : a.targets.Sublist front := Assignment.sublist_of_targets? hread
  have hordered : a.targets.Pairwise (·.index < ·.index) := by
    obtain ⟨n, hn⟩ := List.mem_iff_getElem?.1 hs
    have hstatement := pairwise_index_tokens hn
    rw [htokens] at hstatement
    exact hstatement.sublist (hsublist.trans (List.sublist_append_left front _))
  refine ⟨front, op, htokens, hnonempty, ⟨hassigns, htext⟩, hdepth, hfirst,
    Statement.startsWithBlockKeyword_eq_false_iff.1 hkeyword,
    Assignment.ne_nil_of_targets? hread, hsublist, hordered, ?_, ?_⟩
  · rw [htargets.forall_isIdentifier_iff, Statement.head?_front htokens hnonempty]
    simp
  · intro hseveral
    by_contra hform
    obtain ⟨t, hsingle⟩ := htargets.exists_eq_singleton hform
    rw [hsingle, List.length_singleton] at hseveral
    exact Nat.lt_irrefl 1 hseveral

/-- A tuple over two lines, with a second assignment operator in brackets behind it. -/
theorem assignments_split_tuple :
    let o := read "[a,\n b] = f(c = 1)" 1
    ∃ s ∈ o.statements, ∃ a ∈ s.assignment?, a.targets.length = 2 ∧ a.value.length = 6 ∧
      ∃ front op, s.SplitsInto a front op ∧ a.front = .tuple ∧
        ∀ t ∈ a.targets, t.isIdentifier = true := by
  intro o
  have hfacts : ∃ s ∈ o.statements, ∃ a ∈ s.assignment?, a.targets.length = 2 ∧
      a.value.length = 6 := by
    decide +kernel
  obtain ⟨s, hs, a, ha, hlength, hvalue⟩ := hfacts
  obtain ⟨front, op, hsplit⟩ := assignments_split "[a,\n b] = f(c = 1)" 1 s hs a ha
  have hform : a.front = .tuple := hsplit.several (by rw [hlength]; decide)
  refine ⟨s, hs, a, ha, hlength, hvalue, front, op, hsplit, hform, hsplit.names.2 ?_⟩
  rintro ⟨hmember, -⟩
  rw [hform] at hmember
  cases hmember

/-- A chain of members that starts with a point assigns the point, which is no name. -/
theorem not_all_targets_names :
    let o := read ".a.b = 1" 1
    ¬ ∀ s ∈ o.statements, ∀ a, s.assignment? = some a → ∀ t ∈ a.targets, t.isIdentifier = true := by
  intro o hnames
  have hfacts : ∃ s ∈ o.statements, ∃ a ∈ s.assignment?, ∃ t ∈ a.targets,
      t.isIdentifier = false := by
    decide +kernel
  obtain ⟨s, hs, a, ha, t, ht, hno⟩ := hfacts
  exact Bool.false_ne_true (hno.symm.trans (hnames s hs a ha t ht))

end Outline

end ChartLint
