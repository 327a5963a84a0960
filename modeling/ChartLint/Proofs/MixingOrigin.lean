import ChartLint.Proofs.CouplingReport
import Mathlib.Logic.Relation

/-!
# Where labels were first combined

A name that carries several labels may have them all from one source, which may have them all from
one of its own sources, and so on.  `mixingOrigin?` follows such sources, the first one by name at
each step, and gives the name at which it stops.

*The walk.*  The names that are passed are distinct, and the walk stops at a name of which no source
carries all labels, or at a name that it has passed (`Flow.exists_walk`).  The walk takes the flows
into a name out when it leaves the name, so a name without such a source and a name met again look
the same to it (`Flow.sources_without`).

*Where it leads.*  A name of the first kind is where the labels were first combined.  A name of the
second kind lies on a cycle that the walk does not leave (`Walk.closed`).  So the walk finds a place
where the labels were first combined exactly if it meets one (`mixingOrigin_of_walk`), and whether it
meets one depends on the names: a variable that is read and reassigned under an early name hides the
place behind it (`mixingOrigin_hidden_by_reassignment`).
-/

namespace ChartLint

open Relation (ReflTransGen TransGen)

/-- From a name, steps lead over the names of a list to another name. -/
inductive Walk (R : String → String → Prop) : String → List String → String → Prop
  /-- No step. -/
  | stop (key : String) : Walk R key [] key
  /-- A step from a name that is passed. -/
  | pass {key next origin : String} {path : List String} :
    R key next → Walk R next path origin → Walk R key (key :: path) origin

namespace Walk

variable {R S : String → String → Prop} {key origin x y : String} {path : List String}

theorem mono (h : ∀ x y, R x y → S x y) (hwalk : Walk R key path origin) :
    Walk S key path origin := by
  induction hwalk with
  | stop key => exact .stop key
  | pass hstep _ ih => exact .pass (h _ _ hstep) ih

theorem reaches (hwalk : Walk R key path origin) : ReflTransGen R key origin := by
  induction hwalk with
  | stop key => exact .refl
  | pass hstep _ ih => exact .head hstep ih

/-- From a name that is passed, the walk goes on to its end. -/
theorem transGen_of_mem (hwalk : Walk R key path origin) (hx : x ∈ path) :
    TransGen R x origin := by
  induction hwalk with
  | stop key => cases hx
  | pass hstep hrest ih =>
      rcases List.mem_cons.1 hx with rfl | hx
      · exact .head' hstep hrest.reaches
      · exact ih hx

theorem head_mem (hwalk : Walk R key path origin) : key ∈ path ∨ key = origin := by
  cases hwalk with
  | stop => exact Or.inr rfl
  | pass => exact Or.inl List.mem_cons_self

/-- If there is only one way to go, a step from a name that is passed stays on the walk. -/
theorem closed (hunique : ∀ x y z, R x y → R x z → y = z) (hwalk : Walk R key path origin)
    (hx : x ∈ path) (hstep : R x y) : y ∈ path ∨ y = origin := by
  induction hwalk with
  | stop key => cases hx
  | pass hfirst hrest ih =>
      rcases List.mem_cons.1 hx with rfl | hx
      · obtain rfl := hunique _ _ _ hstep hfirst
        exact hrest.head_mem.imp_left (List.mem_cons_of_mem _)
      · exact (ih hx).imp_left (List.mem_cons_of_mem _)

/-- Then every name that is reached is passed or the end of the walk, if no step leads on from the end
or the walk has come back to it. -/
theorem mem_of_reaches (hunique : ∀ x y z, R x y → R x z → y = z) (hwalk : Walk R key path origin)
    (hend : (∀ y, ¬ R origin y) ∨ origin ∈ path) (hx : ReflTransGen R key x) :
    x ∈ path ∨ x = origin := by
  induction hx with
  | refl => exact hwalk.head_mem
  | tail _ hstep ih =>
      rcases ih with hpassed | rfl
      · exact hwalk.closed hunique hpassed hstep
      · rcases hend with hdead | hback
        · exact absurd hstep (hdead _)
        · exact hwalk.closed hunique hback hstep

end Walk

namespace NameSet

/-- What is found first in a set is the least name that is looked for. -/
theorem find?_names_eq_some_iff {s : NameSet} {p : String → Bool} {x : String} :
    s.names.find? p = some x ↔ x ∈ s ∧ p x = true ∧ ∀ y ∈ s, p y = true → ¬ y < x := by
  have hsorted := s.sorted
  rw [List.find?_eq_some_iff_append]
  constructor
  · rintro ⟨hx, before, after, hnames, hbefore⟩
    rw [hnames, List.pairwise_append, List.pairwise_cons] at hsorted
    refine ⟨?_, hx, ?_⟩
    · rw [mem_def, hnames]
      exact List.mem_append_right before List.mem_cons_self
    · intro y hy hpy hlt
      rw [mem_def, hnames, List.mem_append, List.mem_cons] at hy
      rcases hy with hy | rfl | hy
      · have := hbefore y hy
        simp [hpy] at this
      · exact String.lt_irrefl y hlt
      · exact String.lt_irrefl x (String.lt_trans (hsorted.2.1.1 y hy) hlt)
  · rintro ⟨hx, hpx, hleast⟩
    obtain ⟨before, after, hnames⟩ := List.append_of_mem (mem_def.1 hx)
    rw [hnames, List.pairwise_append] at hsorted
    refine ⟨hpx, before, after, hnames, ?_⟩
    intro y hy
    have hmem : y ∈ s := by
      rw [mem_def, hnames]
      exact List.mem_append_left _ hy
    cases hpy : p y with
    | false => rfl
    | true => exact absurd (hsorted.2.2 y hy x List.mem_cons_self) (hleast y hmem hpy)

end NameSet

namespace Flow

/-- The first source by name that satisfies `carries`. -/
def firstSource? (carries : String → Bool) (flows : List Flow) (key : String) : Option String :=
  (sources flows key).names.find? carries

/-- Without the flows into a name, that name has no sources and the others have theirs. -/
theorem sources_without (flows : List Flow) (key x : String) :
    sources (without flows key) x = if x = key then ∅ else sources flows x := by
  have hfilter : (without flows key).filter (·.target == x) =
      if x = key then [] else flows.filter (·.target == x) := by
    rw [without, List.filter_filter]
    split
    case isTrue h =>
      subst h
      refine List.filter_eq_nil_iff.2 fun f _ => ?_
      simp
    case isFalse h =>
      refine List.filter_congr fun f _ => ?_
      by_cases hf : f.target = x <;> simp [hf, h]
  rw [sources, readsOf, hfilter]
  split
  · rfl
  · rfl

theorem firstSource?_without {carries : String → Bool} {flows : List Flow} {key x y : String}
    (h : firstSource? carries (without flows key) x = some y) :
    x ≠ key ∧ firstSource? carries flows x = some y := by
  rw [firstSource?, sources_without] at h
  split at h
  case isTrue => cases h
  case isFalse hx => exact ⟨hx, h⟩

/-- The names passed while following first sources are distinct.  The walk ends at a name that has no
source to follow, or at one that it has passed. -/
theorem exists_walk (carries : String → Bool) (flows : List Flow) (key : String) :
    ∃ path, Walk (fun x y => firstSource? carries flows x = some y) key path
        (follow carries flows key) ∧ path.Nodup ∧
      (firstSource? carries flows (follow carries flows key) = none ∨
        follow carries flows key ∈ path) := by
  fun_induction follow carries flows key with
  | case1 flows key hnone => exact ⟨[], .stop key, .nil, Or.inl hnone⟩
  | case2 flows key next hnext ih =>
      obtain ⟨path, hwalk, hnodup, hend⟩ := ih
      generalize follow carries (without flows key) next = origin at hwalk hend ⊢
      refine ⟨key :: path, .pass hnext (hwalk.mono fun x y h => (firstSource?_without h).2),
        List.nodup_cons.2 ⟨?_, hnodup⟩, ?_⟩
      · -- from every name that is passed later a step leads on, and `key` has no source left
        intro hkey
        obtain ⟨y, hstep, -⟩ := TransGen.head'_iff.1 (hwalk.transGen_of_mem hkey)
        exact (firstSource?_without hstep).1 rfl
      · by_cases horigin : origin = key
        · exact Or.inr (horigin ▸ List.mem_cons_self)
        · refine hend.imp ?_ (List.mem_cons_of_mem key)
          rw [firstSource?, sources_without, if_neg horigin]
          exact id

end Flow

namespace FlowGraph

variable {g : FlowGraph} {labels : NameSet} {key source : String}

/-- The second name is a source of the first one and carries all of the labels. -/
def Inherits (g : FlowGraph) (labels : NameSet) (key source : String) : Prop :=
  source ∈ g.sources key ∧ ∀ c ∈ labels, c ∈ g.labels source

/-- It is the first one of them by name. -/
def InheritsFirst (g : FlowGraph) (labels : NameSet) (key source : String) : Prop :=
  g.Inherits labels key source ∧ ∀ other, g.Inherits labels key other → ¬ other < source

/-- No source of the name carries all of the labels: this is where they are combined. -/
def Combines (g : FlowGraph) (labels : NameSet) (key : String) : Prop :=
  ∀ source, ¬ g.Inherits labels key source

theorem firstSource?_eq_some_iff :
    Flow.firstSource? (fun source => labels.subset (g.labels source)) g.flows key = some source ↔
      g.InheritsFirst labels key source := by
  rw [Flow.firstSource?, NameSet.find?_names_eq_some_iff, InheritsFirst, Inherits, and_assoc]
  simp only [NameSet.subset_iff, Inherits, and_imp]
  rfl

theorem firstSource?_eq_none_iff :
    Flow.firstSource? (fun source => labels.subset (g.labels source)) g.flows key = none ↔
      g.Combines labels key := by
  rw [Flow.firstSource?, List.find?_eq_none]
  simp only [NameSet.subset_iff, Combines, Inherits, not_and]
  rfl

theorem inheritsFirst_unique {x y z : String} (hy : g.InheritsFirst labels x y)
    (hz : g.InheritsFirst labels x z) : y = z :=
  NameSet.string_trichotomy y z (hz.2 y hy.1) (hy.2 z hz.1)

/-- From a name that is no place of combination a step leads on. -/
theorem combines_iff_forall_not_inheritsFirst :
    g.Combines labels key ↔ ∀ source, ¬ g.InheritsFirst labels key source := by
  rw [← firstSource?_eq_none_iff, Option.eq_none_iff_forall_ne_some]
  simp only [ne_eq, firstSource?_eq_some_iff]

/-- From a name with two labels the walk along first sources leads to the origin.  It passes distinct
names, and it stops at a place of combination or at a name that it has passed. -/
theorem exists_walk_mixingOrigin (h : 2 ≤ (g.labels key).size) :
    ∃ path origin, g.mixingOrigin? key = some origin ∧
      Walk (g.InheritsFirst (g.labels key)) key path origin ∧ path.Nodup ∧
      (g.Combines (g.labels key) origin ∨ origin ∈ path) := by
  obtain ⟨path, hwalk, hnodup, hend⟩ :=
    Flow.exists_walk (fun source => (g.labels key).subset (g.labels source)) g.flows key
  refine ⟨path, _, ?_, hwalk.mono fun x y => firstSource?_eq_some_iff.1, hnodup,
    hend.imp_left firstSource?_eq_none_iff.1⟩
  rw [mixingOrigin?, if_neg (Nat.not_lt_of_le h)]

/-- The walk ends at a place of combination exactly if it meets one. -/
theorem combines_iff_exists_of_walk {origin : String} {path : List String}
    (hwalk : Walk (g.InheritsFirst labels) key path origin)
    (hend : g.Combines labels origin ∨ origin ∈ path) :
    g.Combines labels origin ↔
      ∃ place, ReflTransGen (g.InheritsFirst labels) key place ∧ g.Combines labels place := by
  constructor
  · exact fun h => ⟨origin, hwalk.reaches, h⟩
  · rintro ⟨place, hreach, hplace⟩
    have hunique : ∀ x y z, g.InheritsFirst labels x y → g.InheritsFirst labels x z → y = z :=
      fun x y z => inheritsFirst_unique
    have hend := hend.imp_left combines_iff_forall_not_inheritsFirst.1
    rcases hwalk.mem_of_reaches hunique hend hreach with hmem | rfl
    · -- from a name that is passed a step leads on
      obtain ⟨y, hstep, -⟩ := TransGen.head'_iff.1 (hwalk.transGen_of_mem hmem)
      exact absurd hstep.1 (hplace y)
    · exact hplace

/-- The origin of labels is found by a walk.  A name with fewer than two labels has none.  From any
other name a walk along first sources that carry all of its labels passes distinct names and ends at
the origin, which is a place of combination or a name that was passed.  So the origin is reached by a
chain of sources that carry all labels.  It is a place of combination exactly if the walk meets one;
and it always is if no chain of such sources leads from a name back to itself. -/
theorem mixingOrigin_of_walk (source : String) (s : Settings) (patterns : List (String → Bool))
    (key : String) :
    let script := Script.read source s
    let g := ofScript script.outline script.index s patterns
    let labels := g.labels key
    (labels.size < 2 → g.mixingOrigin? key = none) ∧
    (2 ≤ labels.size → ∃ path origin, g.mixingOrigin? key = some origin ∧
      Walk (g.InheritsFirst labels) key path origin ∧ path.Nodup ∧
      (g.Combines labels origin ∨ origin ∈ path) ∧
      ReflTransGen (g.Inherits labels) key origin ∧
      (g.Combines labels origin ↔
        ∃ place, ReflTransGen (g.InheritsFirst labels) key place ∧ g.Combines labels place) ∧
      ((∀ x, ReflTransGen (g.Inherits labels) key x → ¬ TransGen (g.Inherits labels) x x) →
        g.Combines labels origin)) := by
  intro script g labels
  constructor
  · intro h
    rw [mixingOrigin?, if_pos h]
  · intro h
    obtain ⟨path, origin, horigin, hwalk, hnodup, hend⟩ := exists_walk_mixingOrigin h
    have hreach : ReflTransGen (g.Inherits labels) key origin :=
      (hwalk.mono fun x y hstep => hstep.1).reaches
    refine ⟨path, origin, horigin, hwalk, hnodup, hend, hreach,
      combines_iff_exists_of_walk hwalk hend, ?_⟩
    intro hcycle
    refine hend.resolve_right fun hback => hcycle origin hreach ?_
    exact (hwalk.mono fun x y hstep => hstep.1).transGen_of_mem hback

/-- The labels of an alias were combined where it gets them from. -/
theorem mixingOrigin_of_walk_alias :
    let s : Settings := { controlInputs := ["t1", "t2"] }
    let script := Script.read "b = t1 + t2\na = b" s
    let g := ofScript script.outline script.index s []
    2 ≤ (g.labels "a").size ∧ g.mixingOrigin? "a" = some "b" ∧ g.Combines (g.labels "a") "b" ∧
      ReflTransGen (g.Inherits (g.labels "a")) "a" "b" := by
  intro s script g
  have hfacts : 2 ≤ (g.labels "a").size ∧ g.mixingOrigin? "a" = some "b" ∧
      ∀ source ∈ (g.sources "b").names, ¬ (g.labels "a").subset (g.labels source) = true := by
    decide +kernel
  obtain ⟨hsize, hfound, hcarriers⟩ := hfacts
  obtain ⟨path, origin, horigin, -, -, -, hreach, -, -⟩ :=
    (mixingOrigin_of_walk "b = t1 + t2\na = b" { controlInputs := ["t1", "t2"] } [] "a").2 hsize
  obtain rfl := Option.some.inj (hfound.symm.trans horigin)
  exact ⟨hsize, hfound, fun source h => hcarriers source h.1 (NameSet.subset_iff.2 h.2), hreach⟩

/-- The labels of `a` were combined in `b`, which is a source of `a`, but `a` also reads itself and
comes first. -/
theorem mixingOrigin_hidden_by_reassignment :
    let s : Settings := { controlInputs := ["t1", "t2"] }
    let script := Script.read "b = t1 + t2\na = b\na := a + 1" s
    let g := ofScript script.outline script.index s []
    2 ≤ (g.labels "a").size ∧ g.Inherits (g.labels "a") "a" "b" ∧ g.Combines (g.labels "a") "b" ∧
      g.mixingOrigin? "a" = some "a" ∧ ¬ g.Combines (g.labels "a") "a" := by
  intro s script g
  have hfacts : (2 ≤ (g.labels "a").size ∧ g.mixingOrigin? "a" = some "a") ∧
      ("a" ∈ g.sources "a" ∧ "b" ∈ g.sources "a") ∧
      (g.labels "a").subset (g.labels "b") = true ∧
      ∀ source ∈ (g.sources "b").names, ¬ (g.labels "a").subset (g.labels source) = true := by
    decide +kernel
  obtain ⟨⟨hsize, hfound⟩, hsources, hcarries, hcarriers⟩ := hfacts
  refine ⟨hsize, ⟨hsources.2, NameSet.subset_iff.1 hcarries⟩, ?_, hfound, ?_⟩
  · exact fun source h => hcarriers source h.1 (NameSet.subset_iff.2 h.2)
  · exact fun h => h "a" ⟨hsources.1, fun c hc => hc⟩

end FlowGraph

end ChartLint
