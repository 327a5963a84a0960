import ChartLint.Proofs.LocalNames
import ChartLint.Rule.Usage
import Mathlib.Data.Option.Basic

/-!
# Functions that are used above their definition

A use is reported if the first declaration of its name is a function behind it.  The first
declaration is looked for in the whole script, whatever it is and wherever it stands
(`get?_eq_some_iff`).  So a use above all functions of its name is missed if something else has the
name in front of them: a variable, or a local of some function (`get?_function_iff`).

A function is never defined in the block of a function (`isOutside_of_function`), and no place holds
a declaration and a use (`position_ne_of_mem_references`).  So a function that is the first
declaration of its name stands behind every use that no declaration outside blocks precedes.
-/

namespace ChartLint

theorem Position.lt_trichotomy (a b : Position) : a < b ∨ a = b ∨ b < a := by
  obtain ⟨line, column⟩ := a
  obtain ⟨line', column'⟩ := b
  simp only [lt_iff, mk.injEq]
  omega

/-- The function that a statement declares is the one of its header. -/
theorem Statement.exists_header_of_function {s : Statement} {n : Nat} {d : Declaration}
    (hd : d ∈ s.declarations n) (hkind : d.kind = .function) :
    ∃ header, s.functionHeader? = some header ∧ d.statement = n := by
  rw [declarations] at hd
  split at hd
  case h_1 header hheader =>
    obtain rfl := List.mem_singleton.1 hd
    exact ⟨header, hheader, rfl⟩
  case h_2 =>
    -- an assignment makes constants and variables
    exfalso
    split at hd
    case h_1 a _ =>
      split at hd
      case isTrue =>
        obtain ⟨t, -, rfl⟩ := List.mem_map.1 hd
        simp only [declarationKind] at hkind
        split at hkind <;> cases hkind
      case isFalse => cases hd
    case h_2 => cases hd

namespace Index

variable {source : String} {tab : Nat} {d : Declaration}

/-- The statement is not part of the block of a function. -/
def IsOutside (x : Index) (n : Nat) : Prop :=
  ∀ f ∈ x.functions, f.hasInBlock n = false

instance (x : Index) (n : Nat) : Decidable (x.IsOutside n) :=
  inferInstanceAs (Decidable (∀ f ∈ x.functions, f.hasInBlock n = false))

/-- A name is looked up to the declaration in front of all others of the name. -/
theorem get?_eq_some_iff {name : String} :
    (ofOutline (.ofSource source tab)).get? name = some d ↔
      d ∈ (ofOutline (.ofSource source tab)).declarations ∧ d.name = name ∧
        ∀ e ∈ (ofOutline (.ofSource source tab)).declarations, e.name = name →
          e = d ∨ d.position < e.position := by
  have hincreasing := pairwise_declarations source tab
  rw [get?, List.find?_eq_some_iff_append]
  generalize (ofOutline (.ofSource source tab)).declarations = ds at hincreasing
  constructor
  · rintro ⟨hname, before, after, rfl, hbefore⟩
    obtain ⟨-, hafter, -⟩ := List.pairwise_append.1 hincreasing
    refine ⟨by simp, eq_of_beq hname, fun e he hename => ?_⟩
    rcases List.mem_append.1 he with he | he
    · exact absurd (beq_iff_eq.2 hename) (by simpa using hbefore e he)
    · rcases List.mem_cons.1 he with rfl | he
      · exact Or.inl rfl
      · exact Or.inr ((List.pairwise_cons.1 hafter).1 e he)
  · rintro ⟨hd, hname, hfirst⟩
    obtain ⟨before, after, rfl⟩ := List.append_of_mem hd
    obtain ⟨-, -, hbefore⟩ := List.pairwise_append.1 hincreasing
    refine ⟨beq_iff_eq.2 hname, before, after, rfl, fun e he => ?_⟩
    have hlt := hbefore e he d List.mem_cons_self
    simp only [Bool.not_eq_true', beq_eq_false_iff_ne]
    intro hename
    rcases hfirst e (List.mem_append_left _ he) hename with rfl | hgt
    · exact Position.lt_irrefl _ hlt
    · exact Position.lt_irrefl _ (Position.lt_trans hlt hgt)

/-- A declared name is looked up to something. -/
theorem exists_get? {x : Index} (hd : d ∈ x.declarations) : ∃ e, x.get? d.name = some e := by
  rw [← Option.isSome_iff_exists, get?, List.find?_isSome]
  exact ⟨d, hd, beq_self_eq_true _⟩

/-- A name is looked up to a function if everything else of the name is declared behind one. -/
theorem get?_function_iff {name : String}
    (hdeclared : ∃ d ∈ (ofOutline (.ofSource source tab)).declarations, d.name = name) :
    (∃ first, (ofOutline (.ofSource source tab)).get? name = some first ∧ first.kind = .function) ↔
      ∀ d ∈ (ofOutline (.ofSource source tab)).declarations, d.name = name → d.kind ≠ .function →
        ∃ e ∈ (ofOutline (.ofSource source tab)).declarations,
          e.name = name ∧ e.kind = .function ∧ e.position < d.position := by
  constructor
  · rintro ⟨first, hget, hkind⟩ d hd hname hother
    obtain ⟨hfirst, hfirstName, hleast⟩ := get?_eq_some_iff.1 hget
    refine ⟨first, hfirst, hfirstName, hkind, ?_⟩
    rcases hleast d hd hname with rfl | hlt
    · exact absurd hkind hother
    · exact hlt
  · intro hothers
    obtain ⟨d, hd, rfl⟩ := hdeclared
    obtain ⟨first, hget⟩ := exists_get? hd
    obtain ⟨hfirst, hfirstName, hleast⟩ := get?_eq_some_iff.1 hget
    refine ⟨first, hget, ?_⟩
    by_contra hother
    obtain ⟨e, he, hename, hekind, hlt⟩ := hothers first hfirst hfirstName hother
    rcases hleast e he hename with rfl | hgt
    · exact hother hekind
    · exact Position.lt_irrefl _ (Position.lt_trans hlt hgt)

/-- Functions are defined outside the blocks of functions. -/
theorem isOutside_of_function {o : Outline} (hd : d ∈ (ofOutline o).declarations)
    (hkind : d.kind = .function) : (ofOutline o).IsOutside d.statement := by
  obtain ⟨n, s, hs, hmem⟩ := mem_declarations_iff.1 hd
  obtain ⟨header, hheader, hn⟩ := Statement.exists_header_of_function hmem hkind
  obtain ⟨g, hg, hstatement, -⟩ := exists_function_of_header hs hheader
  intro f hf
  rw [← Bool.not_eq_true]
  intro hblock
  have hown : g.covers d.statement = true :=
    Outline.covers_iff.2 (Or.inl (hn.trans hstatement.symm))
  obtain rfl : f = g := Outline.eq_of_covers hf hg (Outline.covers_iff.2 (Or.inr hblock)) hown
  obtain ⟨-, hstart, -⟩ := Outline.function_bounds hf
  have := (Span.contains_iff.1 hblock).1
  omega

/-- No place holds a declaration and a use. -/
theorem position_ne_of_mem_references {r : Reference}
    (hd : d ∈ (ofOutline (.ofSource source tab)).declarations)
    (hr : r ∈ (ofOutline (.ofSource source tab)).references) : d.position ≠ r.position := by
  intro hposition
  obtain ⟨n, s, hs, t, ht, rfl⟩ := mem_references_iff.1 hr
  have hdeclared : t ∉ s.declared := fun hmem => not_mem_uses_of_mem_declared hs _ hmem ht
  have hnone := no_declaration hs (Statement.mem_tokens_of_mem_uses ht) hdeclared
  exact List.filter_eq_nil_iff.1 hnone d hd (beq_iff_eq.2 hposition)

end Index

namespace Usage

variable {source : String} {tab : Nat} {r : Reference}

/-- A use is reported in its place. -/
def IsReported (x : Index) (r : Reference) : Prop :=
  ∃ e ∈ checkForward x, e.category = .forwardReference ∧ e.severity = .error ∧
    e.position = r.position

/-- A use is found if its name is looked up to a function behind it. -/
theorem exists_forwardFinding?_iff {x : Index} :
    (∃ e, forwardFinding? x r = some e) ↔
      ∃ d, x.get? r.name = some d ∧ d.kind = .function ∧ r.position < d.position := by
  rw [forwardFinding?]
  cases x.get? r.name with
  | none => simp
  | some d => simp [Option.bind_eq_some_iff, Option.guard_eq_some']

theorem of_forwardFinding? {x : Index} {e : Diagnostic} (h : forwardFinding? x r = some e) :
    e.category = .forwardReference ∧ e.severity = .error ∧ e.position = r.position := by
  obtain ⟨d, -, h⟩ := Option.bind_eq_some_iff.1 h
  obtain ⟨-, -, h⟩ := Option.bind_eq_some_iff.1 h
  cases h
  exact ⟨rfl, rfl, rfl⟩

/-- No other use is reported in the place of a use. -/
theorem isReported_iff (hr : r ∈ (Index.ofOutline (.ofSource source tab)).references) :
    IsReported (.ofOutline (.ofSource source tab)) r ↔
      ∃ d, (Index.ofOutline (.ofSource source tab)).get? r.name = some d ∧ d.kind = .function ∧
        r.position < d.position := by
  rw [← exists_forwardFinding?_iff, IsReported, checkForward]
  constructor
  · rintro ⟨e, he, -, -, hposition⟩
    obtain ⟨r', hr', hfinding⟩ := List.mem_filterMap.1 he
    obtain rfl : r' = r := eq_of_pairwise_key Position.lt_irrefl
      (Index.pairwise_references source tab) hr hr'
      ((of_forwardFinding? hfinding).2.2.symm.trans hposition)
    exact ⟨e, hfinding⟩
  · rintro ⟨e, hfinding⟩
    exact ⟨e, List.mem_filterMap.2 ⟨r, hr, hfinding⟩, of_forwardFinding? hfinding⟩

/-- Take a use with a function of its name behind it, and no declaration of the name in front of it
except in blocks of functions.  The use is reported if and only if everything else of the name is
declared behind a function of the name. -/
theorem forward_use_reported_iff (source : String) (tab : Nat) (r : Reference) :
    let x := Index.ofOutline (.ofSource source tab)
    r ∈ x.references →
      (∃ d ∈ x.declarations, d.name = r.name ∧ d.kind = .function ∧ r.position < d.position) →
      (∀ d ∈ x.declarations, d.name = r.name → x.IsOutside d.statement →
        ¬ d.position < r.position) →
      (IsReported x r ↔
        ∀ d ∈ x.declarations, d.name = r.name → d.kind ≠ .function →
          ∃ e ∈ x.declarations,
            e.name = r.name ∧ e.kind = .function ∧ e.position < d.position) := by
  intro x hr hfunction hbefore
  obtain ⟨d, hd, hname, -⟩ := hfunction
  rw [isReported_iff hr, ← Index.get?_function_iff ⟨d, hd, hname⟩]
  refine exists_congr fun first => and_congr_right fun hget => and_iff_left_of_imp fun hkind => ?_
  -- a function that is the first declaration of the name stands behind the use
  obtain ⟨hfirst, hfirstName, -⟩ := Index.get?_eq_some_iff.1 hget
  have houtside := Index.isOutside_of_function hfirst hkind
  rcases Position.lt_trichotomy r.position first.position with hlt | heq | hgt
  · exact hlt
  · exact absurd heq.symm (Index.position_ne_of_mem_references hfirst hr)
  · exact absurd hgt (hbefore first hfirst hfirstName houtside)

/-- The name of a function may be that of a local behind it. -/
theorem forward_use_reported_local :
    let x := Index.ofOutline (.ofSource "y = f(2)\nf(a) => a\ng() =>\n  f = 1\n  f" 1)
    ∃ r ∈ x.references, r.position = ⟨1, 5⟩ ∧
      (∃ d ∈ x.declarations, d.name = r.name ∧ d.kind = .variable) ∧ IsReported x r := by
  intro x
  have huse : ∃ r ∈ x.references, r.position = ⟨1, 5⟩ ∧
      (∃ d ∈ x.declarations, d.name = r.name ∧ d.kind = .function ∧ r.position < d.position) ∧
      (∀ d ∈ x.declarations, d.name = r.name → ¬ d.position < r.position) ∧
      (∃ d ∈ x.declarations, d.name = r.name ∧ d.kind = .variable) ∧
      ∀ d ∈ x.declarations, d.name = r.name → d.kind ≠ .function →
        ∃ e ∈ x.declarations, e.name = r.name ∧ e.kind = .function ∧ e.position < d.position := by
    decide +kernel
  obtain ⟨r, hr, hposition, hfunction, hbefore, hlocal, hothers⟩ := huse
  refine ⟨r, hr, hposition, hlocal, ?_⟩
  exact (forward_use_reported_iff "y = f(2)\nf(a) => a\ng() =>\n  f = 1\n  f" 1 r hr hfunction
    fun d hd hname _ => hbefore d hd hname).2 hothers

/-- A use outside functions is missed if a local of some function in front of it has the name. -/
theorem forward_use_missed_behind_local :
    let x := Index.ofOutline (.ofSource "g() =>\n  f = 1\n  f\ny = f(2)\nf(a) => a" 1)
    checkForward x = [] ∧
      ∃ r ∈ x.references, r.position = ⟨4, 5⟩ ∧ (∀ g ∈ x.functions, g.covers r.statement = false) ∧
        (∃ d ∈ x.declarations, d.name = r.name ∧ d.kind = .function ∧ r.position < d.position) ∧
        ∀ d ∈ x.declarations, d.name = r.name → x.IsOutside d.statement →
          ¬ d.position < r.position := by
  decide +kernel

end Usage

end ChartLint
