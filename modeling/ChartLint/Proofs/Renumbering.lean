import ChartLint.Outline
import Mathlib.Data.List.Basic
import Mathlib.Data.Option.Basic
import Mathlib.Order.Monotone.Basic

/-!
# Renumbering the tokens of a script

Everything that is read off a script refers to its tokens by number.  A comment that is put into a
script shifts the numbers behind it and changes nothing else.  So each pass over the tokens is shown
to commute with a change of the numbers that keeps their order.

*Tokens.*  `SameCode f ts us` says that `us` has the code tokens of `ts` under the numbers that `f`
gives them, with the same line ends in between.  It may have more comments.

*Statements and calls.*  The statements of `us` are those of `ts` with other numbers
(`SameCode.segment_eq`), and so are the calls (`SameCode.find_eq`).  Both together are what
`Outline.Matches` says of two outlines.
-/

namespace ChartLint

/-- New numbers for tokens, in the order of the old ones. -/
structure Renumbering where
  /-- The new number of a token. -/
  number : Nat → Nat
  /-- The order stays the same. -/
  strictMono : StrictMono number

namespace Renumbering

instance : CoeFun Renumbering fun _ => Nat → Nat := ⟨number⟩

@[simp] theorem lt_iff (f : Renumbering) {i j : Nat} : f i < f j ↔ i < j :=
  f.strictMono.lt_iff_lt

@[simp] theorem eq_iff (f : Renumbering) {i j : Nat} : f i = f j ↔ i = j :=
  f.strictMono.injective.eq_iff

@[simp] theorem beq_eq (f : Renumbering) (i j : Nat) : (f i == f j) = (i == j) := by
  rw [Bool.eq_iff_iff, beq_iff_eq, beq_iff_eq, f.eq_iff]

@[simp] theorem contains_map (f : Renumbering) (numbers : List Nat) (i : Nat) :
    (numbers.map f).contains (f i) = numbers.contains i := by
  induction numbers with
  | nil => rfl
  | cons n numbers ih => simp only [List.map_cons, List.contains_cons, beq_eq, ih]

end Renumbering

variable (f : Renumbering)

/-! ## Tokens -/

/-- A token under its new number. -/
def Lexeme.renumber (t : Lexeme) : Lexeme :=
  { t with index := f t.index }

@[simp] theorem Lexeme.renumber_toToken (t : Lexeme) : (t.renumber f).toToken = t.toToken := rfl

@[simp] theorem Lexeme.renumber_index (t : Lexeme) : (t.renumber f).index = f t.index := rfl

/-- The same code under other numbers, perhaps with more comments. -/
inductive SameCode : List Lexeme → List Lexeme → Prop
  /-- No tokens. -/
  | nil : SameCode [] []
  /-- A code token under its new number. -/
  | code {t : Lexeme} {ts us : List Lexeme} (ht : t.isCode = true) (h : SameCode ts us) :
      SameCode (t :: ts) (t.renumber f :: us)
  /-- Two tokens that are no code and of the same kind. -/
  | silent {t u : Lexeme} {ts us : List Lexeme} (ht : t.isCode = false) (hkind : u.kind = t.kind)
      (hindex : u.index = f t.index) (h : SameCode ts us) : SameCode (t :: ts) (u :: us)
  /-- A new comment, under a number of its own. -/
  | comment {u : Lexeme} {ts us : List Lexeme} (hu : u.kind = .comment)
      (hindex : ∀ i, u.index ≠ f i) (h : SameCode ts us) : SameCode ts (u :: us)

theorem Token.isCode_of_kind_eq {t u : Token} (h : u.kind = t.kind) : u.isCode = t.isCode := by
  rw [isCode, isCode, h]

theorem Token.isCode_comment {t : Token} (h : t.kind = .comment) : t.isCode = false := by
  rw [isCode, h]

namespace SameCode

variable {f} {ts us : List Lexeme}

/-- The code tokens have new numbers. -/
theorem filter_isCode (h : SameCode f ts us) :
    us.filter (·.isCode) = (ts.filter (·.isCode)).map (·.renumber f) := by
  induction h with
  | nil => rfl
  | code ht _ ih => simp [ht, ih]
  | silent ht hkind _ _ ih => simp [ht, Token.isCode_of_kind_eq hkind, ih]
  | comment hu _ _ ih => simp [Token.isCode_comment hu, ih]

theorem filter_code (h : SameCode f ts us) {p q : Lexeme → Bool}
    (hp : ∀ t, p t = true → t.isCode = true) (hq : ∀ t, q t = true → t.isCode = true)
    (hpq : ∀ t, q (t.renumber f) = p t) :
    us.filter q = (ts.filter p).map (·.renumber f) := by
  have hfilter (r : Lexeme → Bool) (hr : ∀ t, r t = true → t.isCode = true) (vs : List Lexeme) :
      vs.filter r = (vs.filter (·.isCode)).filter r := by
    rw [List.filter_filter]
    refine List.filter_congr fun t _ => ?_
    cases h : r t with
    | true => simp [hr t h]
    | false => rfl
  rw [hfilter q hq, hfilter p hp, h.filter_isCode, List.filter_map]
  refine congrArg _ (List.filter_congr fun t _ => ?_)
  exact hpq t

end SameCode

/-! ## Statements -/

namespace Statement

/-- A statement under new numbers. -/
def renumber (s : Statement) : Statement :=
  ⟨s.first.renumber f, s.rest.map (·.renumber f)⟩

@[simp] theorem renumber_first (s : Statement) : (s.renumber f).first = s.first.renumber f := rfl

@[simp] theorem renumber_rest (s : Statement) :
    (s.renumber f).rest = s.rest.map (·.renumber f) := rfl

@[simp] theorem renumber_tokens (s : Statement) :
    (s.renumber f).tokens = s.tokens.map (·.renumber f) := rfl

@[simp] theorem renumber_indent (s : Statement) : (s.renumber f).indent = s.indent := rfl

@[simp] theorem renumber_owns (s : Statement) (i : Nat) :
    (s.renumber f).owns (f i) = s.owns i := by
  simp [owns, List.any_map, Function.comp_def]

/-- A statement that is being read, under new numbers. -/
def Progress.renumber (p : Progress) : Progress :=
  ⟨p.first.renumber f, p.last.renumber f, p.depth⟩

/-- Where a statement ends does not depend on the numbers. -/
theorem Progress.renumber_endsBefore (p : Progress) (t : Lexeme) :
    (p.renumber f).endsBefore (t.renumber f) = p.endsBefore t := rfl

end Statement

namespace SameCode

variable {f} {ts us : List Lexeme}

/-- The rest of a statement and the statements after it have new numbers. -/
theorem segmentFrom_eq (h : SameCode f ts us) (p : Statement.Progress) (broken : Bool) :
    Statement.segmentFrom (p.renumber f) broken us =
      ((Statement.segmentFrom p broken ts).1.map (·.renumber f),
        (Statement.segmentFrom p broken ts).2.map (·.renumber f)) := by
  induction h generalizing p broken with
  | nil => rfl
  | @code t ts us ht _ ih =>
      rw [Statement.segmentFrom, Statement.segmentFrom, Lexeme.renumber_toToken, if_pos ht,
        if_pos ht, Statement.Progress.renumber_endsBefore]
      split
      · have hstart : Statement.Progress.start (t.renumber f) =
            (Statement.Progress.start t).renumber f := rfl
        simp only [hstart, ih]
        rfl
      · have hpush : (p.renumber f).push (t.renumber f) = (p.push t).renumber f := rfl
        simp only [hpush, ih]
        rfl
  | silent ht hkind _ _ ih =>
      rw [Statement.segmentFrom, Statement.segmentFrom,
        if_neg (by simp [Token.isCode_of_kind_eq hkind, ht]), if_neg (by simp [ht]), hkind, ih]
  | comment hu _ _ ih =>
      rw [Statement.segmentFrom, if_neg (by simp [Token.isCode_comment hu]), hu]
      simpa using ih p broken

theorem segment_eq (h : SameCode f ts us) :
    Statement.segment us = (Statement.segment ts).map (·.renumber f) := by
  induction h with
  | nil => rfl
  | @code t ts us ht h ih =>
      have hstart : Statement.Progress.start (t.renumber f) =
          (Statement.Progress.start t).renumber f := rfl
      rw [Statement.segment, Statement.segment, Lexeme.renumber_toToken, if_pos ht, if_pos ht,
        hstart, h.segmentFrom_eq]
      rfl
  | silent ht hkind _ _ ih =>
      rw [Statement.segment, Statement.segment,
        if_neg (by simp [Token.isCode_of_kind_eq hkind, ht]), if_neg (by simp [ht]), ih]
  | comment hu _ _ ih =>
      rw [Statement.segment, if_neg (by simp [Token.isCode_comment hu]), ih]

end SameCode

/-! ## Assignments -/

namespace Assignment

/-- An assignment under new numbers. -/
def renumber (a : Assignment) : Assignment :=
  { a with targets := a.targets.map (·.renumber f), value := a.value.map (·.renumber f) }

@[simp] theorem renumber_operator (a : Assignment) : (a.renumber f).operator = a.operator := rfl

@[simp] theorem renumber_front (a : Assignment) : (a.renumber f).front = a.front := rfl

@[simp] theorem renumber_targets (a : Assignment) :
    (a.renumber f).targets = a.targets.map (·.renumber f) := rfl

@[simp] theorem renumber_value (a : Assignment) :
    (a.renumber f).value = a.value.map (·.renumber f) := rfl

@[simp] theorem renumber_declares (a : Assignment) : (a.renumber f).declares = a.declares := rfl

theorem splitAtOperator_map (depth : Nat) (ts : List Lexeme) :
    splitAtOperator depth (ts.map (·.renumber f)) =
      (splitAtOperator depth ts).map fun (front, op, value) =>
        (front.map (·.renumber f), op.renumber f, value.map (·.renumber f)) := by
  induction ts generalizing depth with
  | nil => rfl
  | cons t ts ih =>
      simp only [List.map_cons, splitAtOperator, Lexeme.renumber_toToken, ih]
      split
      · rfl
      · split
        · rfl
        · simp [Option.map_map, Function.comp_def]

theorem tupleInside?_map (front : List Lexeme) :
    tupleInside? (front.map (·.renumber f)) =
      (tupleInside? front).map fun inside => inside.map (·.renumber f) := by
  cases front with
  | nil => rfl
  | cons first rest =>
      have hlast : (rest.map (·.renumber f)).getLastD (first.renumber f) =
          (rest.getLastD first).renumber f := by
        simp [List.getLastD_eq_getLast?, List.getLast?_map, Option.getD_map]
      simp only [List.map_cons, tupleInside?, hlast, Lexeme.renumber_toToken,
        ← List.map_dropLast]
      split <;> rfl

theorem tupleTargets?_map (inside : List Lexeme) :
    tupleTargets? (inside.map (·.renumber f)) =
      (tupleTargets? inside).map fun names => names.map (·.renumber f) := by
  simp only [tupleTargets?, List.filter_map, List.all_map, Function.comp_def,
    Lexeme.renumber_toToken, List.isEmpty_map]
  split <;> rfl

theorem endsWithMember_map (front : List Lexeme) :
    endsWithMember (front.map (·.renumber f)) = endsWithMember front := by
  rw [endsWithMember, endsWithMember, ← List.map_reverse]
  rcases front.reverse with _ | ⟨last, _ | ⟨point, _ | ⟨head, rest⟩⟩⟩ <;> rfl

theorem targets?_map (front : List Lexeme) :
    targets? (front.map (·.renumber f)) =
      (targets? front).map fun (targets, form) => (targets.map (·.renumber f), form) := by
  rw [targets?, targets?, tupleInside?_map]
  cases tupleInside? front with
  | some inside =>
      simp [tupleTargets?_map, Option.map_map, Function.comp_def]
  | none =>
      simp only [Option.map_none, List.head?_map, List.getLast?_map, endsWithMember_map,
        ← List.map_dropLast, List.all_map, List.any_map, Function.comp_def, Lexeme.renumber_toToken]
      cases front.head? with
      | none => rfl
      | some head =>
          cases front.getLast? with
          | none => rfl
          | some target =>
              simp only [Option.map_some, Lexeme.renumber_toToken]
              by_cases htarget : target.isIdentifier = true
              · simp only [htarget, Bool.not_true, Bool.false_eq_true, if_false]
                by_cases hmember : endsWithMember front = true
                · simp only [hmember, if_true]
                  split <;> rfl
                · simp only [hmember, Bool.false_eq_true, if_false]
                  split <;> rfl
              · simp [htarget]

end Assignment

namespace Statement

@[simp] theorem renumber_assignment? (s : Statement) :
    (s.renumber f).assignment? = s.assignment?.map (·.renumber f) := by
  have hkeyword : (s.renumber f).startsWithBlockKeyword = s.startsWithBlockKeyword := rfl
  rw [assignment?, assignment?, hkeyword, renumber_tokens, Assignment.splitAtOperator_map]
  simp only [Option.bind_eq_bind, Option.map_bind, Option.bind_map, Function.comp_def,
    Assignment.targets?_map]
  rfl

@[simp] theorem renumber_constant? (s : Statement) :
    (s.renumber f).constant? = s.constant?.map fun (name, a) => (name.renumber f, a.renumber f) := by
  simp only [constant?, renumber_indent, renumber_assignment?, Option.bind_eq_bind, Option.map_bind,
    Option.bind_map, Function.comp_def, Assignment.renumber_operator, Assignment.renumber_front,
    Assignment.renumber_targets, List.head?_map]
  rfl

end Statement

/-! ## Calls -/

namespace Call

/-- A call under new numbers. -/
def renumber (c : Call) : Call :=
  { c with nameStart := f c.nameStart, opening := f c.opening, closing := f c.closing }

@[simp] theorem renumber_name (c : Call) : (c.renumber f).name = c.name := rfl

@[simp] theorem renumber_position (c : Call) : (c.renumber f).position = c.position := rfl

@[simp] theorem renumber_nameStart (c : Call) : (c.renumber f).nameStart = f c.nameStart := rfl

@[simp] theorem renumber_contains (c : Call) (i : Nat) :
    (c.renumber f).contains (f i) = c.contains i := by
  simp [contains, renumber]

theorem closingFrom_map (depth fallback : Nat) (ts : List Lexeme) :
    closingFrom depth (f fallback) (ts.map (·.renumber f)) = f (closingFrom depth fallback ts) := by
  induction ts generalizing depth with
  | nil => rfl
  | cons t ts ih =>
      simp only [List.map_cons, closingFrom, Lexeme.renumber_toToken, Lexeme.renumber_index, ih]
      split <;> rfl

theorem members_map (ts : List Lexeme) :
    members (ts.map (·.renumber f)) =
      ((members ts).1.map (·.renumber f), (members ts).2.map (·.renumber f)) := by
  fun_induction members ts with
  | case1 point name ts h more rest hrest ih =>
      rw [hrest] at ih
      simp only [List.map_cons, members, Lexeme.renumber_toToken, h, if_true, ih]
  | case2 point name ts h =>
      simp only [List.map_cons, members, Lexeme.renumber_toToken, h]
      rfl
  | case3 ts h =>
      rcases ts with _ | ⟨point, _ | ⟨name, ts⟩⟩
      · rfl
      · rfl
      · exact absurd rfl (h point name ts)

theorem ofChain?_map (head : Lexeme) (chain rest : List Lexeme) (fallback : Nat) :
    ofChain? (head.renumber f) (chain.map (·.renumber f)) (rest.map (·.renumber f)) (f fallback) =
      (ofChain? head chain rest fallback).map (·.renumber f) := by
  have hname : chainName (head.renumber f) (chain.map (·.renumber f)) = chainName head chain := by
    simp [chainName, List.map_map, Function.comp_def]
  cases rest with
  | nil => rfl
  | cons paren args =>
      simp only [List.map_cons, ofChain?, Lexeme.renumber_toToken, hname, closingFrom_map]
      split <;> rfl

theorem findFrom_map (fallback : Nat) (afterPoint : Bool) (ts : List Lexeme) :
    findFrom (f fallback) afterPoint (ts.map (·.renumber f)) =
      (findFrom fallback afterPoint ts).map (·.renumber f) := by
  fun_induction findFrom fallback afterPoint ts with
  | case1 => simp [findFrom]
  | case2 afterPoint t ts h ih =>
      rw [List.map_cons, findFrom, Lexeme.renumber_toToken, if_pos h, members_map, ofChain?_map, ih,
        List.map_append]
      cases ofChain? t (members ts).1 (members ts).2 fallback <;> rfl
  | case3 afterPoint t ts h ih =>
      rw [List.map_cons, findFrom, Lexeme.renumber_toToken, if_neg h, ih]

end Call

/-- The calls have new numbers, if the end of the script has. -/
theorem SameCode.find_eq {f : Renumbering} {ts us : List Lexeme} (h : SameCode f ts us)
    (hend : us.length - 1 = f (ts.length - 1)) :
    Call.find us = (Call.find ts).map (·.renumber f) := by
  rw [Call.find, Call.find, h.filter_isCode, hend, Call.findFrom_map]

/-! ## Outlines -/

/-- Two outlines that differ in the numbers of their tokens and in comments. -/
structure Outline.Matches (o o' : Outline) : Prop where
  /-- The tokens have the same code. -/
  tokens : SameCode f o.tokens o'.tokens
  /-- The statements have new numbers. -/
  statements : o'.statements = o.statements.map (·.renumber f)
  /-- The calls have new numbers. -/
  calls : o'.calls = o.calls.map (·.renumber f)

namespace Outline

variable {f} {o o' : Outline}

theorem matches_ofTokens {ts us : List Lexeme} (h : SameCode f ts us)
    (hend : us.length - 1 = f (ts.length - 1)) : Matches f (ofTokens ts) (ofTokens us) :=
  ⟨h, h.segment_eq, h.find_eq hend⟩

namespace Matches

/-- A token and the one of its new number stand in the same statement. -/
theorem statementOf?_eq (h : Matches f o o') (i : Nat) :
    o'.statementOf? (f i) = o.statementOf? i := by
  rw [statementOf?, statementOf?, h.statements, List.findIdx?_map]
  simp [Function.comp_def]

theorem callStatement?_eq (h : Matches f o o') (c : Call) :
    o'.callStatement? (c.renumber f) = o.callStatement? c :=
  h.statementOf?_eq c.nameStart

theorem constantValues_eq (h : Matches f o o') : o'.constantValues = o.constantValues.map f := by
  rw [constantValues, constantValues, h.statements, List.flatMap_map, List.map_flatMap]
  refine List.flatMap_congr fun s _ => ?_
  rw [Statement.renumber_constant?]
  cases s.constant? with
  | none => rfl
  | some constant => simp [Function.comp_def]

/-- The same statements form the block under a statement. -/
theorem block_eq (h : Matches f o o') (n : Nat) : o'.block n = o.block n := by
  rw [block, block, h.statements, ← List.map_drop]
  cases o.statements.drop n with
  | nil => rfl
  | cons s rest =>
      simp only [List.map_cons, List.takeWhile_map, List.length_map]
      rfl

end Matches

end Outline

end ChartLint
