import ChartLint.Index
import ChartLint.Proofs.Renumbering

/-!
# Renumbering the index

Functions and references hold tokens, and declarations do not.  So under new numbers the index has
the same declarations, and its functions and references have new numbers (`ofOutline_eq`).
-/

namespace ChartLint

variable (f : Renumbering)

/-! ## Functions -/

namespace ParameterList

/-- A parameter list under new numbers. -/
def renumber (p : ParameterList) : ParameterList :=
  { p with defaults := p.defaults.map (·.renumber f), rest := p.rest.map (·.renumber f) }

theorem endsParameter_map (ts : List Lexeme) :
    endsParameter (ts.map (·.renumber f)) = endsParameter ts := by
  cases ts <;> rfl

theorem read?_map (depth : Nat) (inDefault : Bool) (ts : List Lexeme) :
    read? depth inDefault (ts.map (·.renumber f)) =
      (read? depth inDefault ts).map (·.renumber f) := by
  induction ts generalizing depth inDefault with
  | nil => rfl
  | cons t ts ih =>
      simp only [List.map_cons, read?, Lexeme.renumber_toToken, endsParameter_map, ih,
        Option.map_map, Function.comp_def]
      repeat' split
      all_goals simp only [Option.map_map, Function.comp_def, Option.map_some]
      all_goals rfl

end ParameterList

namespace FunctionHeader

/-- A function header under new numbers. -/
def renumber (h : FunctionHeader) : FunctionHeader :=
  { h with
    name := h.name.renumber f
    defaults := h.defaults.map (·.renumber f)
    body := h.body.map (·.renumber f) }

theorem ofTokens?_map (ts : List Lexeme) :
    ofTokens? (ts.map (·.renumber f)) = (ofTokens? ts).map (·.renumber f) := by
  have hdrop : (ts.map (·.renumber f)).dropWhile
        (fun t => Vocabulary.functionPrefixes.contains t.text) =
      (ts.dropWhile fun t => Vocabulary.functionPrefixes.contains t.text).map (·.renumber f) := by
    rw [List.dropWhile_map]
    rfl
  rw [ofTokens?, ofTokens?, hdrop]
  generalize ts.dropWhile (fun t => Vocabulary.functionPrefixes.contains t.text) = front
  rcases front with _ | ⟨name, _ | ⟨paren, rest⟩⟩
  · rfl
  · rfl
  · simp only [List.map_cons, Lexeme.renumber_toToken, ParameterList.read?_map]
    split
    · cases ParameterList.read? 1 false rest with
      | none => rfl
      | some p =>
          obtain ⟨names, defaults, rest⟩ := p
          cases rest with
          | nil => rfl
          | cons arrow body =>
              by_cases harrow : arrow.isOperator "=>" = true
              · simp [ParameterList.renumber, renumber, harrow]
              · simp [ParameterList.renumber, harrow]
    · rfl

end FunctionHeader

@[simp] theorem Statement.renumber_functionHeader? (s : Statement) :
    (s.renumber f).functionHeader? = s.functionHeader?.map (·.renumber f) := by
  rw [functionHeader?, functionHeader?, renumber_indent, renumber_tokens,
    FunctionHeader.ofTokens?_map]
  split <;> rfl

@[simp] theorem Statement.renumber_declaredNames (s : Statement) :
    (s.renumber f).declaredNames = s.declaredNames := by
  rw [declaredNames, declaredNames, renumber_assignment?]
  cases s.assignment? with
  | none => rfl
  | some a => simp [List.map_map, Function.comp_def]

namespace FunctionDef

/-- A function under new numbers. -/
def renumber (d : FunctionDef) : FunctionDef :=
  { d with header := d.header.renumber f }

theorem inlineLocals_map (depth : Nat) (ts : List Lexeme) :
    inlineLocals depth (ts.map (·.renumber f)) = inlineLocals depth ts := by
  induction ts generalizing depth with
  | nil => rfl
  | cons t ts ih =>
      simp only [List.map_cons, inlineLocals, Lexeme.renumber_toToken, ih, List.head?_map,
        Option.any_map]

end FunctionDef

namespace Outline.Matches

variable {f} {o o' : Outline}

theorem function?_eq (h : Matches f o o') (s : Statement) (n : Nat) :
    o'.function? (s.renumber f) n = (o.function? s n).map (·.renumber f) := by
  have hnames (span : Span) : (o'.statementsIn span).flatMap (·.declaredNames) =
      (o.statementsIn span).flatMap (·.declaredNames) := by
    rw [statementsIn, statementsIn, h.statements, ← List.map_drop, ← List.map_take,
      List.flatMap_map]
    exact List.flatMap_congr fun s _ => s.renumber_declaredNames f
  rw [function?, function?, Statement.renumber_functionHeader?, Option.map_map, Option.map_map]
  cases s.functionHeader? with
  | none => rfl
  | some header =>
      simp only [Option.map_some, Function.comp_def, FunctionHeader.renumber, List.isEmpty_map,
        h.block_eq, hnames, FunctionDef.inlineLocals_map]
      rfl

theorem functions_eq (h : Matches f o o') : o'.functions = o.functions.map (·.renumber f) := by
  rw [functions, functions, h.statements, List.zipIdx_map, List.filterMap_map, List.map_filterMap]
  refine List.filterMap_congr fun ⟨s, n⟩ _ => ?_
  exact h.function?_eq s n

end Outline.Matches

/-! ## References -/

/-- A reference under new numbers. -/
def Reference.renumber (r : Reference) : Reference :=
  { r with token := f r.token }

theorem usesFrom_map (hidden : NameSet) (depth : Nat) (afterPoint : Bool) (ts : List Lexeme) :
    usesFrom hidden depth afterPoint (ts.map (·.renumber f)) =
      (usesFrom hidden depth afterPoint ts).map (·.renumber f) := by
  induction ts generalizing depth afterPoint with
  | nil => rfl
  | cons t ts ih =>
      simp only [List.map_cons, usesFrom, Lexeme.renumber_toToken, ih, List.head?_map,
        Option.any_map]
      split <;> rfl

@[simp] theorem uses_map (hidden : NameSet) (ts : List Lexeme) :
    uses hidden (ts.map (·.renumber f)) = (uses hidden ts).map (·.renumber f) :=
  usesFrom_map f hidden 0 false ts

theorem Statement.renumber_uses (s : Statement) (parameters : NameSet) :
    (s.renumber f).uses parameters = (s.uses parameters).map (·.renumber f) := by
  rw [Statement.uses, Statement.uses, renumber_functionHeader?, renumber_assignment?]
  cases s.functionHeader? with
  | some header => simp [FunctionHeader.renumber]
  | none =>
      cases s.assignment? with
      | none => simp
      | some a =>
          simp only [Option.map_none, Option.map_some, Assignment.renumber_declares,
            Assignment.renumber_targets, Assignment.renumber_value, uses_map, List.map_append]
          split <;> rfl

/-- The declarations of a statement do not depend on the numbers. -/
theorem Statement.renumber_declarations (s : Statement) (n : Nat) :
    (s.renumber f).declarations n = s.declarations n := by
  rw [declarations, declarations, renumber_functionHeader?, renumber_assignment?]
  cases s.functionHeader? with
  | some header => rfl
  | none =>
      cases s.assignment? with
      | none => rfl
      | some a =>
          simp only [Option.map_none, Option.map_some, Assignment.renumber_declares,
            Assignment.renumber_targets, List.map_map, Function.comp_def]
          rfl

/-! ## The index -/

/-- An index under new numbers. -/
def Index.renumber (x : Index) : Index where
  declarations := x.declarations
  references := x.references.map (·.renumber f)
  functions := x.functions.map (·.renumber f)

theorem Index.parametersAt_map (functions : List FunctionDef) (n : Nat) :
    parametersAt (functions.map (·.renumber f)) n = parametersAt functions n := by
  have hfind : (functions.map (·.renumber f)).find? (·.hasInBlock n) =
      (functions.find? (·.hasInBlock n)).map (·.renumber f) := by
    rw [List.find?_map]
    rfl
  rw [parametersAt, parametersAt, hfind]
  cases functions.find? (·.hasInBlock n) <;> rfl

/-- The index has new numbers. -/
theorem Outline.Matches.ofOutline_eq {f : Renumbering} {o o' : Outline} (h : o.Matches f o') :
    Index.ofOutline o' = (Index.ofOutline o).renumber f := by
  have hdeclarations : (o'.statements.zipIdx.flatMap fun x => x.1.declarations x.2) =
      o.statements.zipIdx.flatMap fun x => x.1.declarations x.2 := by
    rw [h.statements, List.zipIdx_map, List.flatMap_map]
    exact List.flatMap_congr fun x _ => x.1.renumber_declarations f x.2
  have hreferences : (o'.statements.zipIdx.flatMap fun x =>
        (x.1.uses (Index.parametersAt o'.functions x.2)).map (Reference.ofToken x.2)) =
      (o.statements.zipIdx.flatMap fun x =>
        (x.1.uses (Index.parametersAt o.functions x.2)).map (Reference.ofToken x.2)).map
          (·.renumber f) := by
    rw [h.statements, h.functions_eq, List.zipIdx_map, List.flatMap_map, List.map_flatMap]
    refine List.flatMap_congr fun x _ => ?_
    simp only [Prod.map, Index.parametersAt_map, Statement.renumber_uses, List.map_map]
    rfl
  rw [Index.ofOutline, Index.ofOutline, hdeclarations, hreferences, h.functions_eq]
  rfl

end ChartLint
