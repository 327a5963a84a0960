import ChartLint.Proofs.LabelReachability
import Mathlib.Data.Set.Basic
import Mathlib.Logic.Relation
import Mathlib.Tactic.Tauto

/-!
# What reaches an output

The names that can reach some roots are those to which sources lead from a root in any number of
steps.  `FlowGraph.backwardClosure` finds them, and so does a work list that marks the names it has
seen and leaves the graph as it is.

*Taking flows out.*  The closure takes the flows into a name out of the graph when it visits the
name.  No path is lost by that: a path that passes the name can be cut at the last place where it
does, and the rest starts at a source of the name, which is visited, too (`Flow.reaches_without`).

*The work list.*  A turn of the work list keeps that the roots and the sources of what was seen are
seen or still to be visited, and that all of these names are reached (`Search.Sound.turn`).  A name
may be put on the list many times, but its sources are put there once.  So a turn leaves fewer names
with sources unseen, or it leaves as many and the list is shorter (`Search.exists_end`).  When the
list is empty, the names that were seen are the closure.
-/

namespace ChartLint

open Relation (ReflTransGen)

namespace Flow

/-- The second name is a source of the first one. -/
def HasSource (flows : List Flow) (key source : String) : Prop :=
  source ∈ sources flows key

theorem hasSource_iff_mem_readsOf {flows : List Flow} {key source : String} :
    HasSource flows key source ↔ source ∈ readsOf flows key :=
  NameSet.mem_ofList

/-- Without the flows into a name, the other names have their sources. -/
theorem hasSource_without {flows : List Flow} {key x source : String} :
    HasSource (without flows key) x source ↔ x ≠ key ∧ HasSource flows x source := by
  simp only [hasSource_iff_mem_readsOf, readsOf, without, List.mem_flatMap, List.mem_filter,
    bne_iff_ne, beq_iff_eq]
  constructor
  · rintro ⟨f, ⟨⟨hf, hne⟩, rfl⟩, hsource⟩
    exact ⟨hne, f, ⟨hf, rfl⟩, hsource⟩
  · rintro ⟨hne, f, ⟨hf, rfl⟩, hsource⟩
    exact ⟨f, ⟨⟨hf, hne⟩, rfl⟩, hsource⟩

/-- A path that does not end at `key` and passes it goes on from a source of `key` without passing
it again. -/
theorem reaches_without {flows : List Flow} {start target : String} (key : String)
    (h : ReflTransGen (HasSource flows) start target) :
    ReflTransGen (HasSource (without flows key)) start target ∨ target = key ∨
      ∃ source, HasSource flows key source ∧
        ReflTransGen (HasSource (without flows key)) source target := by
  induction h with
  | refl => exact Or.inl .refl
  | @tail middle target _ hstep ih =>
      by_cases hmiddle : middle = key
      · subst hmiddle
        exact Or.inr (Or.inr ⟨target, hstep, .refl⟩)
      · have hstep' := hasSource_without.2 ⟨hmiddle, hstep⟩
        rcases ih with hpath | hkey | ⟨source, hsource, hpath⟩
        · exact Or.inl (hpath.tail hstep')
        · exact absurd hkey hmiddle
        · exact Or.inr (Or.inr ⟨source, hsource, hpath.tail hstep'⟩)

theorem reaches_of_without {flows : List Flow} {key start target : String}
    (h : ReflTransGen (HasSource (without flows key)) start target) :
    ReflTransGen (HasSource flows) start target :=
  ReflTransGen.mono (fun _ _ hstep => (hasSource_without.1 hstep).2) _ _ h

/-- What is reached from a list of names is what was seen before and what sources lead to. -/
theorem mem_reachFrom_iff {flows : List Flow} {work : List String} {seen : NameSet}
    {target : String} :
    target ∈ reachFrom flows work seen ↔
      target ∈ seen ∨ ∃ start ∈ work, ReflTransGen (HasSource flows) start target := by
  fun_induction reachFrom flows work seen with
  | case1 flows seen => simp
  | case2 flows seen key rest htarget ih =>
      rw [ih, NameSet.mem_insert]
      constructor
      · rintro ((rfl | hseen) | ⟨start, hstart, hpath⟩)
        · exact Or.inr ⟨target, List.mem_cons_self, .refl⟩
        · exact Or.inl hseen
        · rcases List.mem_append.1 hstart with hsource | hrest
          · exact Or.inr ⟨key, List.mem_cons_self,
              .head (hasSource_iff_mem_readsOf.2 hsource) (reaches_of_without hpath)⟩
          · exact Or.inr ⟨start, List.mem_cons_of_mem key hrest, reaches_of_without hpath⟩
      · rintro (hseen | ⟨start, hstart, hpath⟩)
        · exact Or.inl (Or.inr hseen)
        · rcases reaches_without key hpath with hpath | rfl | ⟨source, hsource, hpath⟩
          · rcases List.mem_cons.1 hstart with rfl | hrest
            · -- the name itself has no source left, so the path from it is empty
              have hleaf : ∀ next, ¬ HasSource (without flows start) start next :=
                fun next hstep => (hasSource_without.1 hstep).1 rfl
              exact Or.inl (Or.inl ((Relation.reflTransGen_iff_eq hleaf).1 hpath))
            · exact Or.inr ⟨start, List.mem_append_right _ hrest, hpath⟩
          · exact Or.inl (Or.inl rfl)
          · have hread := hasSource_iff_mem_readsOf.1 hsource
            exact Or.inr ⟨source, List.mem_append_left _ hread, hpath⟩
  | case3 flows seen key rest htarget ih =>
      have hleaf : ∀ source, ¬ HasSource flows key source :=
        fun source hsource => htarget (any_target_of_mem_sources hsource)
      simp only [ih, NameSet.mem_insert, List.mem_cons, or_and_right, exists_or, exists_eq_left,
        Relation.reflTransGen_iff_eq hleaf, or_assoc, or_left_comm]

end Flow

/-! ## The work list -/

/-- The names to visit, the next one first, and the names that were seen. -/
structure Search where
  /-- The names to visit. -/
  work : List String
  /-- The names that were seen. -/
  seen : NameSet

namespace Search

variable {g : FlowGraph} {roots : List String} {v : Search}

/-- All roots are to be visited, the last one first. -/
def start (roots : List String) : Search := ⟨roots.reverse, ∅⟩

/-- The next name is taken off the list.  If it was not seen before, it is marked, and its sources
are put on the list. -/
def turn (g : FlowGraph) (v : Search) : Search :=
  match v.work with
  | [] => v
  | key :: rest =>
    if key ∈ v.seen then ⟨rest, v.seen⟩
    else ⟨(g.sources key).names.reverse ++ rest, v.seen.insert key⟩

/-- A turn takes off a name that was seen, or it sees a name and puts its sources on the list. -/
theorem turn_cases {key : String} {rest : List String} (hwork : v.work = key :: rest) :
    (key ∈ v.seen ∧ v.turn g = ⟨rest, v.seen⟩) ∨
      (key ∉ v.seen ∧ v.turn g = ⟨(g.sources key).names.reverse ++ rest, v.seen.insert key⟩) := by
  rw [turn, hwork]
  by_cases hseen : key ∈ v.seen
  · exact Or.inl ⟨hseen, if_pos hseen⟩
  · exact Or.inr ⟨hseen, if_neg hseen⟩

/-- The name was seen or is still to be visited. -/
def Knows (v : Search) (key : String) : Prop :=
  key ∈ v.seen ∨ key ∈ v.work

/-- A turn has seen the name that it takes off the list. -/
theorem mem_seen_turn {key x : String} {rest : List String} (hwork : v.work = key :: rest) :
    x ∈ (v.turn g).seen ↔ x = key ∨ x ∈ v.seen := by
  rcases turn_cases (g := g) hwork with ⟨hseen, hturn⟩ | ⟨-, hturn⟩
  · rw [hturn, or_iff_right_of_imp]
    rintro rfl
    exact hseen
  · rw [hturn, NameSet.mem_insert]

/-- A turn forgets no name, and it learns the sources of a name that it sees for the first time. -/
theorem knows_turn {key x : String} {rest : List String} (hwork : v.work = key :: rest) :
    (v.turn g).Knows x ↔ v.Knows x ∨ (key ∉ v.seen ∧ x ∈ g.sources key) := by
  rw [Knows, Knows, mem_seen_turn hwork, hwork, List.mem_cons]
  rcases turn_cases (g := g) hwork with ⟨hseen, hturn⟩ | ⟨hseen, hturn⟩
  · simp [hturn, hseen, or_comm, or_left_comm, or_assoc]
  · simp [hturn, hseen, NameSet.mem_def, or_comm, or_left_comm, or_assoc]

/-- What holds between two turns of the search from some roots. -/
structure Sound (g : FlowGraph) (roots : List String) (v : Search) : Prop where
  /-- The roots are known. -/
  knowsRoots : ∀ root ∈ roots, v.Knows root
  /-- So are the sources of the names that were seen. -/
  knowsSources : ∀ key ∈ v.seen, ∀ source ∈ g.sources key, v.Knows source
  /-- Everything that is known is reached from a root. -/
  reached : ∀ key, v.Knows key →
    ∃ root ∈ roots, ReflTransGen (Flow.HasSource g.flows) root key

theorem sound_start (g : FlowGraph) (roots : List String) : Sound g roots (start roots) where
  knowsRoots root hroot := Or.inr (List.mem_reverse.2 hroot)
  knowsSources key hkey := absurd hkey (NameSet.not_mem_empty key)
  reached key hkey := by
    rcases hkey with hkey | hkey
    · exact absurd hkey (NameSet.not_mem_empty key)
    · exact ⟨key, List.mem_reverse.1 hkey, .refl⟩

theorem Sound.turn (h : Sound g roots v) : Sound g roots (v.turn g) := by
  cases hwork : v.work with
  | nil =>
      rw [Search.turn, hwork]
      exact h
  | cons key rest =>
      refine ⟨fun root hroot => (knows_turn hwork).2 (Or.inl (h.knowsRoots root hroot)), ?_, ?_⟩
      · intro x hx source hsource
        rw [knows_turn hwork]
        by_cases hold : x ∈ v.seen
        · exact Or.inl (h.knowsSources x hold source hsource)
        · obtain rfl := ((mem_seen_turn hwork).1 hx).resolve_right hold
          exact Or.inr ⟨hold, hsource⟩
      · intro x hx
        rcases (knows_turn hwork).1 hx with hx | ⟨-, hsource⟩
        · exact h.reached x hx
        · obtain ⟨root, hroot, hpath⟩ := h.reached key (Or.inr (hwork ▸ List.mem_cons_self))
          exact ⟨root, hroot, hpath.tail hsource⟩

/-- The search after a number of turns. -/
def afterTurns (g : FlowGraph) (n : Nat) (v : Search) : Search :=
  (turn g)^[n] v

theorem Sound.afterTurns (h : Sound g roots v) (n : Nat) : Sound g roots (v.afterTurns g n) := by
  induction n with
  | zero => exact h
  | succ n ih =>
      rw [Search.afterTurns, Function.iterate_succ_apply']
      exact ih.turn

/-- The flows into names that were not seen. -/
def unseen (g : FlowGraph) (v : Search) : List Flow :=
  g.flows.filter fun f => f.target ∉ v.seen

theorem unseen_turn {key : String} {rest : List String} (hwork : v.work = key :: rest) :
    (v.turn g).unseen g = Flow.without (v.unseen g) key := by
  rw [unseen, unseen, Flow.without, List.filter_filter]
  refine List.filter_congr fun f _ => ?_
  simp [mem_seen_turn hwork, bne, beq_eq_decide]

/-- A turn leaves fewer flows into unseen names, or as many and a shorter list. -/
theorem turn_decreases {key : String} {rest : List String} (hwork : v.work = key :: rest) :
    ((v.turn g).unseen g).length < (v.unseen g).length ∨
      ((v.turn g).unseen g).length = (v.unseen g).length ∧
        (v.turn g).work.length < v.work.length := by
  rw [unseen_turn hwork]
  by_cases htarget : (v.unseen g).any (·.target == key)
  · exact Or.inl (Flow.length_without_lt htarget)
  · have hother : ∀ f ∈ v.unseen g, f.target ≠ key := by simpa using htarget
    refine Or.inr ⟨?_, ?_⟩
    · rw [Flow.without, List.filter_eq_self.2 fun f hf => bne_iff_ne.2 (hother f hf)]
    · rcases turn_cases (g := g) hwork with ⟨-, hturn⟩ | ⟨hseen, hturn⟩
      · simp [hturn, hwork]
      · have hleaf : (g.sources key).names = [] := by
          refine List.eq_nil_iff_forall_not_mem.2 fun source hsource => ?_
          obtain ⟨f, hf, hkey⟩ := List.any_eq_true.1 (Flow.any_target_of_mem_sources hsource)
          have hkey : f.target = key := eq_of_beq hkey
          exact hother f (List.mem_filter.2 ⟨hf, by simpa [hkey] using hseen⟩) hkey
        simp [hturn, hwork, hleaf]

/-- The work list becomes empty. -/
theorem exists_end (g : FlowGraph) (v : Search) :
    ∃ n, (∀ m < n, (v.afterTurns g m).work ≠ []) ∧ (v.afterTurns g n).work = [] := by
  cases hwork : v.work with
  | nil => exact ⟨0, by simp, hwork⟩
  | cons key rest =>
      have hdecreases := turn_decreases (g := g) hwork
      obtain ⟨n, hbefore, hend⟩ := exists_end g (v.turn g)
      refine ⟨n + 1, fun m hm => ?_, hend⟩
      cases m with
      | zero => exact fun h => by simp [afterTurns, hwork] at h
      | succ m => exact hbefore m (Nat.lt_of_succ_lt_succ hm)
termination_by ((v.unseen g).length, v.work.length)
decreasing_by exact Prod.lex_def.2 hdecreases

/-- When the work list is empty, the names that were seen are those that are reached. -/
theorem Sound.mem_seen_iff (h : Sound g roots v) (hwork : v.work = []) {key : String} :
    key ∈ v.seen ↔ ∃ root ∈ roots, ReflTransGen (Flow.HasSource g.flows) root key := by
  have hknows : ∀ x, v.Knows x ↔ x ∈ v.seen := by
    intro x
    rw [Knows, hwork]
    simp
  constructor
  · exact fun hkey => h.reached key ((hknows key).2 hkey)
  · rintro ⟨root, hroot, hpath⟩
    induction hpath with
    | refl => exact (hknows root).1 (h.knowsRoots root hroot)
    | tail _ hstep ih => exact (hknows _).1 (h.knowsSources _ ih _ hstep)

end Search

/-! ## The closure -/

namespace FlowGraph

variable {g : FlowGraph} {roots : List String} {key : String}

theorem mem_backwardClosure_iff :
    key ∈ g.backwardClosure roots ↔
      ∃ root ∈ roots, ReflTransGen (Flow.HasSource g.flows) root key := by
  rw [backwardClosure, Flow.reach, Flow.mem_reachFrom_iff]
  exact or_iff_right (NameSet.not_mem_empty key)

/-- The search sees the names of the closure. -/
theorem exists_search_end (g : FlowGraph) (roots : List String) :
    ∃ n, (∀ m < n, ((Search.start roots).afterTurns g m).work ≠ []) ∧
      (Search.start roots).afterTurns g n = ⟨[], g.backwardClosure roots⟩ := by
  obtain ⟨n, hbefore, hend⟩ := Search.exists_end g (.start roots)
  have hsound := (Search.sound_start g roots).afterTurns n
  have hseen : ((Search.start roots).afterTurns g n).seen = g.backwardClosure roots :=
    NameSet.ext fun key => (hsound.mem_seen_iff hend).trans mem_backwardClosure_iff.symm
  exact ⟨n, hbefore, by rw [← hend, ← hseen]⟩

/-- The closure is the least set that holds the roots and the sources of its names. -/
theorem mem_of_mem_backwardClosure (hkey : key ∈ g.backwardClosure roots) {names : Set String}
    (hroots : ∀ root ∈ roots, root ∈ names)
    (hclosed : ∀ x ∈ names, ∀ source ∈ g.sources x, source ∈ names) : key ∈ names := by
  obtain ⟨root, hroot, hpath⟩ := mem_backwardClosure_iff.1 hkey
  induction hpath with
  | refl => exact hroots root hroot
  | tail hpath hstep ih =>
      exact hclosed _ (ih (mem_backwardClosure_iff.2 ⟨root, hroot, hpath⟩)) _ hstep

theorem backwardClosure_congr {others : List String} (h : ∀ root, root ∈ others ↔ root ∈ roots) :
    g.backwardClosure others = g.backwardClosure roots := by
  refine NameSet.ext fun key => ?_
  simp only [mem_backwardClosure_iff, h]

/-- Output reachability is exact.  In the flow graph of a script the work list that starts with some
roots becomes empty, and then the names that were seen are the closure of the roots.  It holds the
names that a root leads to in any number of steps to sources: the roots, even if they have no flows,
the sources of its own names, and nothing that some set with these two properties lacks.  The order
of the roots and repetitions among them do not matter. -/
theorem backwardClosure_exact (source : String) (s : Settings) (patterns : List (String → Bool))
    (roots : List String) :
    let script := Script.read source s
    let g := ofScript script.outline script.index s patterns
    (∃ n, (∀ m < n, ((Search.start roots).afterTurns g m).work ≠ []) ∧
        (Search.start roots).afterTurns g n = ⟨[], g.backwardClosure roots⟩) ∧
      (∀ key, key ∈ g.backwardClosure roots ↔
        ∃ root ∈ roots, ReflTransGen (fun x y => y ∈ g.sources x) root key) ∧
      (∀ root ∈ roots, root ∈ g.backwardClosure roots) ∧
      (∀ x ∈ g.backwardClosure roots, ∀ y ∈ g.sources x, y ∈ g.backwardClosure roots) ∧
      (∀ names : Set String, (∀ root ∈ roots, root ∈ names) →
        (∀ x ∈ names, ∀ y ∈ g.sources x, y ∈ names) →
          ∀ key ∈ g.backwardClosure roots, key ∈ names) ∧
      ∀ others : List String, (∀ root, root ∈ others ↔ root ∈ roots) →
        g.backwardClosure others = g.backwardClosure roots := by
  intro script g
  refine ⟨exists_search_end g roots, fun key => mem_backwardClosure_iff, ?_, ?_, ?_, ?_⟩
  · exact fun root hroot => mem_backwardClosure_iff.2 ⟨root, hroot, .refl⟩
  · intro x hx y hy
    obtain ⟨root, hroot, hpath⟩ := mem_backwardClosure_iff.1 hx
    exact mem_backwardClosure_iff.2 ⟨root, hroot, hpath.tail hy⟩
  · exact fun names hroots hclosed key hkey => mem_of_mem_backwardClosure hkey hroots hclosed
  · exact fun others h => backwardClosure_congr h

/-- From one of two names that depend on each other, both are reached and what the other one reads,
but not what depends on them.  A root that the script does not mention is reached, too. -/
theorem backwardClosure_exact_cycle :
    let script := Script.read "a = b\nb = a + c\nd = a" {}
    let g := ofScript script.outline script.index {} []
    let names := ["a", "b", "c", "x"]
    (∀ root, root ∈ ["x", "b", "x"] ↔ root ∈ ["b", "x"]) ∧
      (∀ root ∈ ["b", "x"], root ∈ names) ∧
      (∀ x ∈ names, ∀ y ∈ (g.sources x).names, y ∈ names) ∧
      "b" ∈ g.backwardClosure ["b", "x"] ∧ "x" ∈ g.backwardClosure ["b", "x"] ∧
      "a" ∈ g.sources "b" ∧ "a" ∈ g.backwardClosure ["b", "x"] ∧
      (∀ key ∈ g.backwardClosure ["b", "x"], key ∈ names) ∧
      g.backwardClosure ["x", "b", "x"] = g.backwardClosure ["b", "x"] := by
  intro script g names
  have hsame : ∀ root, root ∈ ["x", "b", "x"] ↔ root ∈ ["b", "x"] := by
    intro root
    simp only [List.mem_cons, List.not_mem_nil]
    tauto
  have hinside : ∀ root ∈ ["b", "x"], root ∈ names := by decide +kernel
  have hclosed : ∀ x ∈ names, ∀ y ∈ (g.sources x).names, y ∈ names := by decide +kernel
  have hsource : "a" ∈ g.sources "b" := by decide +kernel
  obtain ⟨-, -, hroots, hsources, hleast, hcongr⟩ :=
    backwardClosure_exact "a = b\nb = a + c\nd = a" {} [] ["b", "x"]
  have hb := hroots "b" List.mem_cons_self
  have hx := hroots "x" (List.mem_cons_of_mem "b" List.mem_cons_self)
  exact ⟨hsame, hinside, hclosed, hb, hx, hsource, hsources "b" hb "a" hsource,
    hleast {x | x ∈ names} hinside hclosed, hcongr _ hsame⟩

end FlowGraph

end ChartLint
