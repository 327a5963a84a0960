import ChartLint.Proofs.FindingPlaces
import Mathlib.Data.List.Forall2

/-!
# Blank lines and comment lines are inert

A line of spaces and tabs, with or without a comment behind them, may be put anywhere between the
lines of a script.  The layout of the script is judged as before, and the findings below the new line
move down with their lines.

*Moving down.*  The findings speak of two lines at most: the line that is read and the line that the
walk holds.  When both have moved down, a step of the walk decides what it decided before, and its
findings have moved down (`forall₂_checkFrom_cons`).  Above the new line nothing moves, so the same
step serves there.

*The new line.*  It has no code (`isExempt_of_isInert`), so the walk holds behind it what it held in
front, whatever that is: an open bracket, an operator that asks for more, or a block that was opened.
-/

namespace ChartLint

/-- A line without code: spaces and tabs, and a comment behind them if there is one. -/
def IsInert (line : List Char) : Prop :=
  ∃ margin, (∀ c ∈ margin, c = ' ' ∨ c = '\t') ∧
    (line = margin ∨ ∃ text, line = margin ++ '/' :: '/' :: text)

theorem isExempt_of_isInert {line : List Char} (h : IsInert line) (depth : Nat) :
    (LineShape.ofLine depth line).isExempt = true := by
  obtain ⟨margin, hmargin, hline⟩ := h
  have hall : ∀ c ∈ margin, isMarginChar c = true := by
    intro c hc
    rcases hmargin c hc with rfl | rfl
    · rfl
    · rfl
  rcases hline with rfl | ⟨text, rfl⟩
  · have hdrop := List.dropWhile_eq_nil_iff.2 hall
    rw [LineShape.isExempt, code_ofLine, hdrop]
    rfl
  · have hdrop : (margin ++ '/' :: '/' :: text).dropWhile isMarginChar = '/' :: '/' :: text := by
      rw [List.dropWhile_append_of_pos hall]
      rfl
    rw [LineShape.isExempt, code_ofLine, hdrop, readCode_comment ⟨rfl, rfl⟩]
    rfl

namespace Layout

/-! ## Moving down -/

/-- The number of a line when a line is put in behind line `n`. -/
def lineBelow (n number : Nat) : Nat :=
  if number ≤ n then number else number + 1

/-- A finding after a line was put in behind line `n`: its line has moved down if it is below, and so
has the line that it names if it is about an operator.  Everything else is as before. -/
structure PushedDown (n : Nat) (d d' : Diagnostic) : Prop where
  /-- It is about the same. -/
  category : d'.category = d.category
  /-- It is as bad. -/
  severity : d'.severity = d.severity
  /-- It is on the line that has moved down. -/
  line : d'.position.line = lineBelow n d.position.line
  /-- It is in the same column. -/
  column : d'.position.column = d.position.column
  /-- It names the same operator, and its own line. -/
  operator : d.category = .operatorPlacement → ∃ op ∈ placementOperators,
    d.message = placementMessage op d.position.line ∧
      d'.message = placementMessage op d'.position.line
  /-- If it is about no operator, it says the same. -/
  text : d.category ≠ .operatorPlacement → d'.message = d.message

theorem forall₂_indentationFinding (n : Nat) (s : Settings) (number : Nat) (l : LineShape)
    (base : Nat) :
    List.Forall₂ (PushedDown n) (indentationFinding s number l base)
      (indentationFinding s (lineBelow n number) l base) := by
  rw [indentationFinding, indentationFinding]
  split
  · refine .cons ⟨rfl, rfl, rfl, rfl, ?_, fun _ => rfl⟩ .nil
    intro hcategory
    cases hcategory
  · exact .nil

/-- The line held by the walk, moved down if it is below line `n`. -/
def Previous.pushDown (n : Nat) (p : Previous) : Previous :=
  { p with number := lineBelow n p.number }

theorem forall₂_placementFinding (n : Nat) (s : Settings) (p : Previous) :
    List.Forall₂ (PushedDown n) (placementFinding s p) (placementFinding s (p.pushDown n)) := by
  rw [placementFinding, placementFinding]
  cases htrailing : p.shape.trailing? with
  | none => simp [Previous.pushDown, htrailing]
  | some op =>
      simp only [Previous.pushDown, htrailing]
      split
      case isTrue hlisted =>
        refine .cons ⟨rfl, rfl, rfl, rfl, ?_, ?_⟩ .nil
        · intro _
          exact ⟨op, List.contains_iff_mem.1 hlisted, rfl, rfl⟩
        · intro hcategory
          exact absurd rfl hcategory
      case isFalse => exact .nil

namespace Reading

/-- What is known in front of a line, with the line held moved down if it is below line `n`. -/
def pushDown (n : Nat) (r : Reading) : Reading :=
  { r with previous := r.previous.map (·.pushDown n) }

theorem continuesAt_pushDown (n : Nat) (r : Reading) (line : List Char) :
    (r.pushDown n).continuesAt line = r.continuesAt line := by
  cases r with
  | mk depth previous => cases previous <;> rfl

theorem read_pushDown (n : Nat) (r : Reading) (number : Nat) (line : List Char) :
    (r.pushDown n).read (lineBelow n number) line = (r.read number line).pushDown n := by
  have hshape : (r.pushDown n).shape line = r.shape line := rfl
  rw [read, read, hshape]
  split
  · rfl
  · rfl

theorem baseBehind_pushDown (n : Nat) (r : Reading) (tab base : Nat) (line : List Char) :
    (r.pushDown n).baseBehind tab base line = r.baseBehind tab base line := by
  rw [baseBehind, baseBehind, continuesAt_pushDown]
  rfl

/-- One step of the walk further down: its findings have moved down, if those about the lines behind
have. -/
theorem forall₂_checkFrom_cons {n : Nat} {s : Settings} {r : Reading} {base number number' : Nat}
    {line : List Char} {rest rest' : List (List Char)} (hnumber : number' = lineBelow n number)
    (hrest : List.Forall₂ (PushedDown n)
      (checkFrom s (r.read number line).depth (r.read number line).previous
        (r.baseBehind s.tabWidth base line) (number + 1) rest)
      (checkFrom s ((r.read number line).pushDown n).depth ((r.read number line).pushDown n).previous
        (r.baseBehind s.tabWidth base line) (number' + 1) rest')) :
    List.Forall₂ (PushedDown n) (checkFrom s r.depth r.previous base number (line :: rest))
      (checkFrom s (r.pushDown n).depth (r.pushDown n).previous base number' (line :: rest')) := by
  subst hnumber
  rw [checkFrom_cons, checkFrom_cons, continuesAt_pushDown, read_pushDown, baseBehind_pushDown]
  refine List.rel_append ?_ hrest
  split
  case isTrue =>
    refine List.rel_append (forall₂_indentationFinding n s number (r.shape line) base) ?_
    cases hprevious : r.previous with
    | none => simp [pushDown, hprevious]
    | some p => simpa [pushDown, hprevious] using forall₂_placementFinding n s p
  case isFalse => exact .nil

/-- Lines below line `n` have the findings of before, moved down. -/
theorem forall₂_checkFrom_below {n number : Nat} (hnumber : n < number) (s : Settings) (r : Reading)
    (base : Nat) (ls : List (List Char)) :
    List.Forall₂ (PushedDown n) (checkFrom s r.depth r.previous base number ls)
      (checkFrom s (r.pushDown n).depth (r.pushDown n).previous base (number + 1) ls) := by
  induction ls generalizing r base number with
  | nil => exact .nil
  | cons line rest ih =>
      have hbelow : number + 1 = lineBelow n number := by
        rw [lineBelow, if_neg (by omega)]
      exact forall₂_checkFrom_cons hbelow (ih (by omega) _ _)

/-- A line without code behind the first lines moves the findings about the others down. -/
theorem forall₂_checkFrom_insert {line : List Char} (hline : IsInert line) {n number : Nat}
    {before : List (List Char)} (hn : number + before.length = n + 1) (after : List (List Char))
    (s : Settings) (r : Reading) (base : Nat) :
    List.Forall₂ (PushedDown n) (checkFrom s r.depth r.previous base number (before ++ after))
      (checkFrom s (r.pushDown n).depth (r.pushDown n).previous base number
        (before ++ line :: after)) := by
  induction before generalizing r base number with
  | nil =>
      have hskip : checkFrom s (r.pushDown n).depth (r.pushDown n).previous base number
          (line :: after) =
            checkFrom s (r.pushDown n).depth (r.pushDown n).previous base (number + 1) after := by
        rw [checkFrom]
        simp only [isExempt_of_isInert hline (r.pushDown n).depth, if_true]
      rw [List.length_nil, Nat.add_zero] at hn
      rw [List.nil_append, List.nil_append, hskip]
      exact forall₂_checkFrom_below (by omega) s r base after
  | cons first before ih =>
      rw [List.length_cons] at hn
      have habove : number = lineBelow n number := by
        rw [lineBelow, if_pos (by omega)]
      exact forall₂_checkFrom_cons habove (ih (by omega) _ _)

end Reading

/-- Blank lines and comment lines are inert.  Put anywhere between some lines, such a line leaves the
findings as they are, moved down if they are below it. -/
theorem check_insert_inert_line (s : Settings) (before after : List String) {line : String}
    (h : IsInert line.toList) :
    List.Forall₂ (PushedDown before.length) (check s (before ++ after))
      (check s (before ++ line :: after)) := by
  rw [check, check, List.map_append, List.map_append, List.map_cons]
  refine Reading.forall₂_checkFrom_insert h ?_ _ s ⟨0, none⟩ 0
  rw [List.length_map, Nat.add_comm]

/-- A comment behind a tab, between an operator that asks for more and the line that goes on, inside a
bracket. -/
theorem check_insert_inert_line_inside :
    let before := ["x = f(a -"]
    let after := ["b +", ")"]
    check {} (before ++ after) =
        [.error .badIndentation ⟨2, 1⟩
            "continuation line must be indented by exactly 2 spaces, found 0 spaces",
          .warning .operatorPlacement ⟨1, 9⟩ (placementMessage "-" 1),
          .error .badIndentation ⟨3, 1⟩
            "closing bracket on its own line must be indented by exactly 2 spaces, found 0 spaces",
          .warning .operatorPlacement ⟨2, 3⟩ (placementMessage "+" 2)] ∧
      IsInert "\t// (".toList ∧
      List.Forall₂ (PushedDown 1) (check {} (before ++ after))
        (check {} (before ++ "\t// (" :: after)) := by
  intro before after
  have hinert : IsInert "\t// (".toList :=
    ⟨['\t'], by simp, .inr ⟨" (".toList, by decide⟩⟩
  exact ⟨by decide +kernel, hinert, check_insert_inert_line {} before after hinert⟩

end Layout

end ChartLint
