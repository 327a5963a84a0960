import ChartLint.Index
import Mathlib.Data.List.TakeWhile

/-!
# The parts of a statement

Assignments and function headers cut a statement into parts.  Nothing is lost and nothing is read
twice: an assignment is what stands in front of its operator, the operator and its value
(`exists_front_of_assignment?`); a function header is what stands in front of the name, the name,
the parameter list, the arrow and the body (`exists_parts_of_functionHeader?`).  What else is read
off the parts stands in them in the order of the statement.

What stands in front of an assignment operator has one of three forms, and the form says what is
assigned.  `Assignment.Targets` tells the forms without the order in which they are tried, and
`Assignment.targets?` finds exactly what it tells (`Assignment.targets?_eq_some_iff`).
-/

namespace ChartLint

namespace Token

theorem isPunctuation_iff {t : Token} {text : String} :
    t.isPunctuation text = true ↔ t.kind = .punctuation ∧ t.text = text := by
  rw [isPunctuation, Bool.and_eq_true, beq_iff_eq, beq_iff_eq]

theorem isOperator_iff {t : Token} {text : String} :
    t.isOperator text = true ↔ t.kind = .operator ∧ t.text = text := by
  rw [isOperator, Bool.and_eq_true, beq_iff_eq, beq_iff_eq]

theorem isIdentifier_iff {t : Token} : t.isIdentifier = true ↔ t.kind = .identifier := by
  rw [isIdentifier, beq_iff_eq]

theorem isPunctuation_of_isIdentifier {t : Token} (h : t.isIdentifier = true) (text : String) :
    t.isPunctuation text = false := by
  rw [isPunctuation, isIdentifier_iff.1 h]
  rfl

end Token

/-! ## Assignments -/

namespace Assignment

theorem eq_append_of_splitAtOperator {depth : Nat} {ts front value : List Lexeme} {op : Lexeme}
    (h : splitAtOperator depth ts = some (front, op, value)) :
    ts = front ++ op :: value ∧ op.kind = .operator := by
  induction ts generalizing depth front with
  | nil => cases h
  | cons t ts ih =>
      rw [splitAtOperator] at h
      split at h
      case isTrue hop =>
        simp only [Option.some.injEq, Prod.mk.injEq] at h
        obtain ⟨rfl, rfl, rfl⟩ := h
        simp only [Bool.and_eq_true, beq_iff_eq] at hop
        exact ⟨rfl, hop.1.2⟩
      case isFalse =>
        split at h
        case isTrue => cases h
        case isFalse =>
          obtain ⟨⟨front, op, value⟩, hsplit, heq⟩ := Option.map_eq_some_iff.1 h
          simp only [Prod.mk.injEq] at heq
          obtain ⟨rfl, rfl, rfl⟩ := heq
          obtain ⟨rfl, hop⟩ := ih hsplit
          exact ⟨rfl, hop⟩

/-- A tuple has two brackets, so something can be cut off at both ends. -/
theorem exists_of_tupleInside? {front inside : List Lexeme} (h : tupleInside? front = some inside) :
    ∃ first last, front = first :: (inside ++ [last]) ∧ first.isPunctuation "[" = true ∧
      last.isPunctuation "]" = true := by
  cases front with
  | nil => cases h
  | cons first rest =>
      rw [tupleInside?] at h
      split at h
      case isFalse => cases h
      case isTrue hbrackets =>
        obtain rfl := Option.some.inj h
        rw [Bool.and_eq_true] at hbrackets
        obtain ⟨hopen, hclose⟩ := hbrackets
        rcases List.eq_nil_or_concat rest with rfl | ⟨inside, last, rfl⟩
        · -- one token cannot be both brackets
          have htext := (Token.isPunctuation_iff.1 hopen).2
          rw [List.getLastD_nil, Token.isPunctuation_iff, htext] at hclose
          exact absurd hclose.2 (by decide)
        · rw [List.concat_eq_append, List.getLastD_concat] at hclose
          rw [List.concat_eq_append, List.dropLast_concat]
          exact ⟨first, last, rfl, hopen, hclose⟩

theorem tupleInside?_brackets {opening closing : Lexeme}
    (hopening : opening.isPunctuation "[" = true) (hclosing : closing.isPunctuation "]" = true)
    (inside : List Lexeme) : tupleInside? (opening :: (inside ++ [closing])) = some inside := by
  rw [tupleInside?, List.getLastD_concat, hopening, hclosing, List.dropLast_concat]
  rfl

/-- A front that ends with a name is no tuple. -/
theorem tupleInside?_concat {name : Lexeme} (hname : name.isIdentifier = true)
    (before : List Lexeme) : tupleInside? (before ++ [name]) = none := by
  rw [Option.eq_none_iff_forall_ne_some]
  intro inside h
  obtain ⟨first, last, heq, -, hclosing⟩ := exists_of_tupleInside? h
  rw [← List.cons_append] at heq
  obtain ⟨-, rfl⟩ := List.append_singleton_inj.1 heq
  rw [Token.isPunctuation_of_isIdentifier hname] at hclosing
  cases hclosing

theorem tupleTargets?_eq_some_iff {inside names : List Lexeme} :
    tupleTargets? inside = some names ↔
      (∀ t ∈ inside, t.isIdentifier = true ∨ t.isPunctuation "," = true) ∧
        names ≠ [] ∧ inside.filter (·.isIdentifier) = names := by
  rw [tupleTargets?, Option.ite_none_right_eq_some]
  simp only [Bool.and_eq_true, List.all_eq_true, Bool.or_eq_true, Bool.not_eq_true',
    List.isEmpty_eq_false_iff, Option.some.injEq, and_assoc]
  refine and_congr_right fun _ => ⟨?_, ?_⟩
  · rintro ⟨hnonempty, rfl⟩
    exact ⟨hnonempty, rfl⟩
  · rintro ⟨hnonempty, rfl⟩
    exact ⟨hnonempty, rfl⟩

/-- A member stands behind a point that something else stands in front of. -/
theorem endsWithMember_concat {before : List Lexeme} {name : Lexeme} :
    endsWithMember (before ++ [name]) = true ↔
      ∃ head between point, before = head :: (between ++ [point]) ∧
        point.isPunctuation "." = true := by
  rw [endsWithMember, List.reverse_concat]
  rcases List.eq_nil_or_concat before with rfl | ⟨init, point, rfl⟩
  · simp
  · rw [List.concat_eq_append, List.reverse_concat]
    cases init with
    | nil => simp
    | cons head between =>
        -- the match asks for a token in front of the point, and there is one
        cases hrest : (head :: between).reverse with
        | nil => simp at hrest
        | cons t ts =>
            constructor
            · exact fun hpoint => ⟨head, between, point, rfl, hpoint⟩
            · rintro ⟨head', between', point', heq, hpoint⟩
              rw [← List.cons_append] at heq
              obtain ⟨-, rfl⟩ := List.append_singleton_inj.1 heq
              exact hpoint

/-- What a front assigns, and the form it has.  The forms exclude each other. -/
inductive Targets : List Lexeme → List Lexeme → Front → Prop where
  /-- Names and commas between square brackets, with at least one name.  The names are assigned. -/
  | tuple {opening closing : Lexeme} {inside : List Lexeme} :
      opening.isPunctuation "[" = true → closing.isPunctuation "]" = true →
      (∀ t ∈ inside, t.isIdentifier = true ∨ t.isPunctuation "," = true) →
      inside.filter (·.isIdentifier) ≠ [] →
      Targets (opening :: (inside ++ [closing])) (inside.filter (·.isIdentifier)) .tuple
  /-- Names and points, with a point and a name at the end.  The first token is assigned. -/
  | member {head point name : Lexeme} {between : List Lexeme} :
      (∀ t ∈ head :: between, t.isIdentifier = true ∨ t.isPunctuation "." = true) →
      point.isPunctuation "." = true → name.isIdentifier = true →
      Targets (head :: (between ++ [point]) ++ [name]) [head] .member
  /-- A name behind qualifiers and a type, if it is no member.  The name is assigned. -/
  | single {before : List Lexeme} {name : Lexeme} :
      (∀ t ∈ before, t.isTypePart = true) → name.isIdentifier = true →
      (∀ head between point, before = head :: (between ++ [point]) →
        point.isPunctuation "." = false) →
      Targets (before ++ [name]) [name]
        (.single (before.any fun t => Vocabulary.qualifiers.contains t.text))

section Targets

variable {front targets : List Lexeme} {form : Front}

/-- How a front is read when a name stands in front of the operator. -/
theorem targets?_concat {name : Lexeme} (hname : name.isIdentifier = true) (before : List Lexeme) :
    targets? (before ++ [name]) =
      if endsWithMember (before ++ [name]) then
        if before.all fun t => t.isIdentifier || t.isPunctuation "." then
          (before ++ [name]).head?.map fun head => ([head], .member)
        else none
      else if before.all (·.isTypePart) then
        some ([name], .single (before.any fun t => Vocabulary.qualifiers.contains t.text))
      else none := by
  rw [targets?, tupleInside?_concat hname, List.getLast?_concat, List.dropLast_concat]
  cases hhead : (before ++ [name]).head? with
  | none => simp at hhead
  | some head => simp [hname]

theorem exists_name_of_targets? (h : targets? front = some (targets, form))
    (hinside : tupleInside? front = none) :
    ∃ before name, front = before ++ [name] ∧ name.isIdentifier = true := by
  rw [targets?, hinside] at h
  rcases List.eq_nil_or_concat front with rfl | ⟨before, name, rfl⟩
  · cases h
  · rw [List.concat_eq_append, List.getLast?_concat] at h
    refine ⟨before, name, List.concat_eq_append, ?_⟩
    by_contra hname
    cases hhead : (before ++ [name]).head? <;> simp [hhead, hname] at h

theorem Targets.of_targets? (h : targets? front = some (targets, form)) :
    Targets front targets form := by
  cases hinside : tupleInside? front with
  | some inside =>
      obtain ⟨opening, closing, rfl, hopening, hclosing⟩ := exists_of_tupleInside? hinside
      rw [targets?, hinside] at h
      obtain ⟨names, hnames, heq⟩ := Option.map_eq_some_iff.1 h
      obtain ⟨rfl, rfl⟩ := Prod.mk.inj heq
      obtain ⟨hinside, hnonempty, rfl⟩ := tupleTargets?_eq_some_iff.1 hnames
      exact .tuple hopening hclosing hinside hnonempty
  | none =>
      obtain ⟨before, name, rfl, hname⟩ := exists_name_of_targets? h hinside
      rw [targets?_concat hname] at h
      by_cases hmember : endsWithMember (before ++ [name]) = true
      · obtain ⟨head, between, point, rfl, hpoint⟩ := endsWithMember_concat.1 hmember
        rw [if_pos hmember, Option.ite_none_right_eq_some, List.all_eq_true] at h
        obtain ⟨hchain, heq⟩ := h
        cases heq
        refine .member (fun t ht => ?_) hpoint hname
        rw [← Bool.or_eq_true]
        exact hchain t (by rw [← List.cons_append]; exact List.mem_append_left [point] ht)
      · rw [if_neg hmember, Option.ite_none_right_eq_some, List.all_eq_true] at h
        obtain ⟨htype, heq⟩ := h
        cases heq
        refine .single htype hname fun head between point hbefore => ?_
        rw [← Bool.not_eq_true]
        intro hpoint
        exact hmember (endsWithMember_concat.2 ⟨head, between, point, hbefore, hpoint⟩)

theorem Targets.targets?_eq (h : Targets front targets form) :
    targets? front = some (targets, form) := by
  cases h with
  | tuple hopening hclosing hinside hnonempty =>
      rw [targets?, tupleInside?_brackets hopening hclosing]
      exact Option.map_eq_some_iff.2
        ⟨_, tupleTargets?_eq_some_iff.2 ⟨hinside, hnonempty, rfl⟩, rfl⟩
  | @member head point name between hchain hpoint hname =>
      have hmember : endsWithMember (head :: (between ++ [point]) ++ [name]) = true :=
        endsWithMember_concat.2 ⟨head, between, point, rfl, hpoint⟩
      rw [targets?_concat hname, if_pos hmember, if_pos]
      · rfl
      · simpa [hpoint] using hchain
  | @single before name htype hname hsingle =>
      have hmember : ¬ endsWithMember (before ++ [name]) = true := by
        rw [endsWithMember_concat]
        rintro ⟨head, between, point, hbefore, hpoint⟩
        exact Bool.false_ne_true ((hsingle head between point hbefore).symm.trans hpoint)
      rw [targets?_concat hname, if_neg hmember, if_pos (List.all_eq_true.2 htype)]

theorem targets?_eq_some_iff :
    targets? front = some (targets, form) ↔ Targets front targets form :=
  ⟨Targets.of_targets?, Targets.targets?_eq⟩

theorem sublist_of_targets? (h : targets? front = some (targets, form)) :
    targets.Sublist front := by
  cases targets?_eq_some_iff.1 h with
  | @tuple opening closing inside =>
      exact (List.filter_sublist.trans (List.sublist_append_left inside [closing])).cons opening
  | member => exact List.singleton_sublist.2 List.mem_cons_self
  | @single before name => exact List.sublist_append_right before [name]

theorem ne_nil_of_targets? (h : targets? front = some (targets, form)) : targets ≠ [] := by
  cases targets?_eq_some_iff.1 h with
  | tuple _ _ _ hnonempty => exact hnonempty
  | @member head => exact List.cons_ne_nil head []
  | @single _ name => exact List.cons_ne_nil name []

/-- Except through a chain of members, only names are assigned. -/
theorem isIdentifier_of_targets? (h : targets? front = some (targets, form))
    (hform : form ≠ .member) : ∀ t ∈ targets, t.isIdentifier = true := by
  cases targets?_eq_some_iff.1 h with
  | tuple => exact fun t ht => (List.mem_filter.1 ht).2
  | member => exact absurd rfl hform
  | single _ hname =>
      intro t ht
      rw [List.mem_singleton.1 ht]
      exact hname

end Targets

theorem ne_member_of_declares {a : Assignment} (h : a.declares = true) : a.front ≠ .member := by
  rw [declares, Bool.and_eq_true, bne_iff_ne] at h
  exact h.2

end Assignment

/-- An assignment is what stands in front of its operator, the operator and its value. -/
theorem Statement.exists_front_of_assignment? {s : Statement} {a : Assignment}
    (h : s.assignment? = some a) :
    ∃ front op, s.tokens = front ++ op :: a.value ∧ op.kind = .operator ∧ op.text = a.operator ∧
      Assignment.targets? front = some (a.targets, a.front) := by
  rw [assignment?] at h
  obtain ⟨-, -, h⟩ := Option.bind_eq_some_iff.1 h
  obtain ⟨⟨front, op, value⟩, hsplit, h⟩ := Option.bind_eq_some_iff.1 h
  obtain ⟨⟨targets, form⟩, htargets, h⟩ := Option.bind_eq_some_iff.1 h
  obtain rfl := Option.some.inj h
  obtain ⟨htokens, hop⟩ := Assignment.eq_append_of_splitAtOperator hsplit
  exact ⟨front, op, htokens, hop, rfl, htargets⟩

/-! ## Function headers -/

/-- One step through a parameter list: its closing parenthesis ends it, and any other token is passed
over or is part of a default value. -/
theorem ParameterList.read?_cons_cases {depth : Nat} {inDefault : Bool} {t : Lexeme}
    {ts : List Lexeme} {p : ParameterList} (h : read? depth inDefault (t :: ts) = some p) :
    ((t.isClosing && t.depthAfter depth == 0) = true ∧ p.rest = ts ∧ p.defaults = []) ∨
    (¬ (t.isClosing && t.depthAfter depth == 0) = true ∧
      ∃ inDefault' q, read? (t.depthAfter depth) inDefault' ts = some q ∧ p.rest = q.rest ∧
        (p.defaults = q.defaults ∨ p.defaults = t :: q.defaults)) := by
  rw [read?] at h
  split at h
  case isTrue hclosing =>
    obtain rfl := Option.some.inj h
    exact Or.inl ⟨hclosing, rfl, rfl⟩
  case isFalse hopen =>
    refine Or.inr ⟨hopen, ?_⟩
    split at h
    case isTrue => exact ⟨_, p, h, rfl, Or.inl rfl⟩
    case isFalse =>
      split at h
      case isTrue => exact ⟨_, p, h, rfl, Or.inl rfl⟩
      case isFalse =>
        split at h
        case isTrue =>
          obtain ⟨q, hread, rfl⟩ := Option.map_eq_some_iff.1 h
          exact ⟨_, q, hread, rfl, Or.inr rfl⟩
        case isFalse =>
          split at h
          case isTrue =>
            obtain ⟨q, hread, rfl⟩ := Option.map_eq_some_iff.1 h
            exact ⟨_, q, hread, rfl, Or.inl rfl⟩
          case isFalse => exact ⟨_, p, h, rfl, Or.inl rfl⟩

/-- A parameter list is read up to its closing parenthesis, and default values stand in it. -/
theorem ParameterList.exists_inside_of_read? {depth : Nat} {inDefault : Bool} {ts : List Lexeme}
    {p : ParameterList} (h : read? depth inDefault ts = some p) :
    ∃ inside, ts = inside ++ p.rest ∧ p.defaults.Sublist inside := by
  induction ts generalizing depth inDefault p with
  | nil => cases h
  | cons t ts ih =>
      rcases read?_cons_cases h with ⟨-, hrest, hdefaults⟩ | ⟨-, inDefault', q, hread, hrest, hdefaults⟩
      · exact ⟨[t], by rw [hrest]; rfl, hdefaults ▸ List.nil_sublist _⟩
      · obtain ⟨inside, rfl, hsub⟩ := ih hread
        refine ⟨t :: inside, by rw [hrest]; rfl, ?_⟩
        rcases hdefaults with hdefaults | hdefaults
        · exact hdefaults ▸ hsub.cons t
        · exact hdefaults ▸ hsub.cons_cons t

/-- How a function header is read: words in front of the name, the name, a parenthesis, and a
parameter list that the arrow and the body follow. -/
theorem Statement.exists_of_functionHeader? {s : Statement} {header : FunctionHeader}
    (h : s.functionHeader? = some header) :
    s.indent = 0 ∧ ∃ before paren rest names arrow,
      s.tokens = before ++ header.name :: paren :: rest ∧
      (∀ t ∈ before, t.text ∈ Vocabulary.functionPrefixes) ∧
      header.name.isIdentifier = true ∧ paren.isPunctuation "(" = true ∧
      ParameterList.read? 1 false rest = some ⟨names, header.defaults, arrow :: header.body⟩ ∧
      arrow.isOperator "=>" = true := by
  rw [functionHeader?] at h
  split at h
  case isFalse => cases h
  case isTrue hindent =>
    rw [FunctionHeader.ofTokens?] at h
    split at h
    case h_2 => cases h
    case h_1 name paren rest hdrop =>
      split at h
      case isFalse => cases h
      case isTrue hname =>
        split at h
        case h_2 => cases h
        case h_1 names defaults arrow body hread =>
          split at h
          case isFalse => cases h
          case isTrue harrow =>
            obtain rfl := Option.some.inj h
            simp only [Bool.and_eq_true] at hname
            refine ⟨hindent, s.tokens.takeWhile fun t => Vocabulary.functionPrefixes.contains t.text,
              paren, rest, names, arrow, ?_, ?_, hname.1.1, hname.2, hread, harrow⟩
            · rw [← hdrop, List.takeWhile_append_dropWhile]
            · intro t ht
              have hprefix := List.mem_takeWhile_imp ht
              exact List.contains_iff_mem.1 hprefix

/-- A function header is what stands in front of its name, the name, the parameter list with its
parentheses, the arrow and the body. -/
theorem Statement.exists_parts_of_functionHeader? {s : Statement} {header : FunctionHeader}
    (h : s.functionHeader? = some header) :
    ∃ before inside arrow,
      s.tokens = before ++ header.name :: (inside ++ arrow :: header.body) ∧
      header.name.isIdentifier = true ∧ arrow.isOperator "=>" = true ∧
      header.defaults.Sublist inside := by
  obtain ⟨-, before, paren, rest, names, arrow, htokens, -, hname, -, hread, harrow⟩ :=
    exists_of_functionHeader? h
  obtain ⟨inside, rfl, hsub⟩ := ParameterList.exists_inside_of_read? hread
  exact ⟨before, paren :: inside, arrow, htokens, hname, harrow, hsub.cons paren⟩

end ChartLint
