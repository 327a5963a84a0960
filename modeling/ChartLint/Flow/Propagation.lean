import ChartLint.NameSet
import Std.Data.TreeMap

/-!
# Propagation of labels

A node is a name with the names it depends on.  A control input carries itself as its only label, and
every other name carries what its sources carry.  The labels are found in rounds.  A round visits the
nodes one after the other and adds to each the labels that its sources carry at that moment, so what
one visit finds is seen by the visits after it.  A visit changes something when the number of labels
grows, and the rounds end with the first one in which no visit changed anything.

*Ending.*  Labels are control inputs, so a node can gain no more of them than there are control inputs
that it does not carry yet.  The sum of these numbers over all nodes is `missing`, and a round that
changes something lowers it (`missing_round_lt`).  A labelling carries the proof that its labels are
control inputs, which is what the sum rests on.
-/

namespace ChartLint

/-- A name and the names it depends on. -/
structure Node where
  /-- The name. -/
  name : String
  /-- The names it depends on directly. -/
  sources : NameSet

/-- The labels found so far. -/
structure Labelling (inputs : NameSet) where
  /-- Names with their labels. -/
  entries : Std.TreeMap String NameSet
  /-- Every label is a control input. -/
  isInput : ∀ name, ∀ c ∈ entries.getD name ∅, c ∈ inputs

namespace Labelling

variable {inputs : NameSet}

/-- The labels of a name. -/
def get (t : Labelling inputs) (name : String) : NameSet :=
  t.entries.getD name ∅

/-- The labels of a name are control inputs. -/
theorem mem_inputs {t : Labelling inputs} {name c : String} (h : c ∈ t.get name) : c ∈ inputs :=
  t.isInput name c h

theorem getD_insert (entries : Std.TreeMap String NameSet) (name : String) (labels : NameSet)
    (key : String) :
    (entries.insert name labels).getD key ∅ = if key = name then labels else entries.getD key ∅ := by
  rw [Std.TreeMap.getD_insert]
  by_cases h : key = name
  · rw [if_pos (Std.compare_eq_iff_eq.2 h.symm), if_pos h]
  · rw [if_neg fun hc => h (Std.compare_eq_iff_eq.1 hc).symm, if_neg h]

/-- No labels at all. -/
def none : Labelling inputs where
  entries := ∅
  isInput name c hc := by
    rw [Std.TreeMap.getD_emptyc] at hc
    exact absurd hc (NameSet.not_mem_empty c)

@[simp] theorem get_none (key : String) : (none : Labelling inputs).get key = ∅ :=
  Std.TreeMap.getD_emptyc

/-- Give a name new labels. -/
def set (t : Labelling inputs) (name : String) (labels : NameSet) (h : ∀ c ∈ labels, c ∈ inputs) :
    Labelling inputs where
  entries := t.entries.insert name labels
  isInput key c hc := by
    rw [getD_insert] at hc
    split at hc
    · exact h c hc
    · exact t.isInput key c hc

theorem get_set (t : Labelling inputs) (name : String) (labels : NameSet)
    (h : ∀ c ∈ labels, c ∈ inputs) (key : String) :
    (t.set name labels h).get key = if key = name then labels else t.get key :=
  getD_insert t.entries name labels key

/-! ## Visits and rounds -/

/-- Let each of some control inputs carry itself. -/
def seed (t : Labelling inputs) : (names : List String) → (∀ c ∈ names, c ∈ inputs) → Labelling inputs
  | [], _ => t
  | c :: names, h =>
    seed (t.set c (.ofList [c]) fun d hd => by
      rw [NameSet.mem_ofList, List.mem_singleton] at hd
      exact hd ▸ h c List.mem_cons_self) names fun d hd => h d (List.mem_cons_of_mem c hd)

theorem get_seed (t : Labelling inputs) (names : List String) (h : ∀ c ∈ names, c ∈ inputs)
    (key : String) :
    (seed t names h).get key = if key ∈ names then .ofList [key] else t.get key := by
  induction names generalizing t with
  | nil => simp [seed]
  | cons c names ih =>
      rw [seed, ih, get_set]
      by_cases hc : key = c
      · simp [hc]
      · simp [hc]

/-- At the start each control input carries itself. -/
def start (inputs : NameSet) : Labelling inputs :=
  seed none inputs.names fun _ hc => hc

/-- Only control inputs carry something at the start. -/
theorem get_start (inputs : NameSet) (key : String) :
    (start inputs).get key = if key ∈ inputs then .ofList [key] else ∅ := by
  rw [start, get_seed, get_none]
  rfl

/-- The labels of a node and of its sources. -/
def gather (t : Labelling inputs) (node : Node) : NameSet :=
  node.sources.names.foldl (fun labels source => labels.union (t.get source)) (t.get node.name)

theorem mem_gather {t : Labelling inputs} {node : Node} {c : String} :
    c ∈ t.gather node ↔ c ∈ t.get node.name ∨ ∃ source ∈ node.sources, c ∈ t.get source := by
  have h (names : List String) (labels : NameSet) :
      c ∈ names.foldl (fun labels source => labels.union (t.get source)) labels ↔
        c ∈ labels ∨ ∃ source ∈ names, c ∈ t.get source := by
    induction names generalizing labels with
    | nil => simp
    | cons source names ih => simp [ih, or_assoc]
  exact h node.sources.names (t.get node.name)

theorem gather_subset_inputs {t : Labelling inputs} {node : Node} :
    ∀ c ∈ t.gather node, c ∈ inputs := by
  intro c hc
  rcases mem_gather.1 hc with h | ⟨source, -, h⟩
  · exact mem_inputs h
  · exact mem_inputs h

/-- Visit a node, and tell whether that changed its labels.  A control input keeps its own label. -/
def visit (t : Labelling inputs) (node : Node) : Labelling inputs × Bool :=
  if inputs.contains node.name then (t, false)
  else if (t.gather node).size = (t.get node.name).size then (t, false)
  else (t.set node.name (t.gather node) gather_subset_inputs, true)

/-- Visit nodes one after the other, and tell whether a visit changed something. -/
def round : List Node → Labelling inputs → Labelling inputs × Bool
  | [], t => (t, false)
  | node :: nodes, t =>
    let (next, here) := t.visit node
    let (last, later) := round nodes next
    (last, here || later)

/-! ## Rounds end -/

/-- How many labels the nodes could still gain. -/
def missing (nodes : List Node) (t : Labelling inputs) : Nat :=
  nodes.foldr (fun node n => inputs.size - (t.get node.name).size + n) 0

/-- No name loses labels. -/
def Grows (t u : Labelling inputs) : Prop :=
  ∀ name, ∀ c ∈ t.get name, c ∈ u.get name

theorem Grows.refl (t : Labelling inputs) : Grows t t :=
  fun _ _ hc => hc

theorem Grows.trans {t u v : Labelling inputs} (h : Grows t u) (h' : Grows u v) : Grows t v :=
  fun name c hc => h' name c (h name c hc)

/-- What a visit does: nothing, or it gives a node that is no control input the labels that it and
its sources carry, which are more than it had. -/
theorem visit_cases (t : Labelling inputs) (node : Node) :
    (t.visit node = (t, false) ∧
      (node.name ∉ inputs → (t.gather node).size = (t.get node.name).size)) ∨
    (node.name ∉ inputs ∧ (t.get node.name).size < (t.gather node).size ∧
      t.visit node = (t.set node.name (t.gather node) gather_subset_inputs, true)) := by
  rw [visit]
  split
  case isTrue h =>
    exact Or.inl ⟨rfl, fun hn => absurd (NameSet.contains_iff.1 h) hn⟩
  case isFalse h =>
    rw [NameSet.contains_iff] at h
    split
    case isTrue hsize => exact Or.inl ⟨rfl, fun _ => hsize⟩
    case isFalse hsize =>
      have hle : (t.get node.name).size ≤ (t.gather node).size :=
        NameSet.size_le_of_subset fun c hc => mem_gather.2 (Or.inl hc)
      exact Or.inr ⟨h, by omega, rfl⟩

theorem grows_visit (t : Labelling inputs) (node : Node) : Grows t (t.visit node).1 := by
  rcases visit_cases t node with ⟨h, -⟩ | ⟨-, -, h⟩
  · rw [h]
    exact Grows.refl t
  · rw [h]
    intro name c hc
    rw [get_set]
    split
    case isTrue hname => exact mem_gather.2 (Or.inl (hname ▸ hc))
    case isFalse => exact hc

theorem grows_round (nodes : List Node) (t : Labelling inputs) : Grows t (round nodes t).1 := by
  induction nodes generalizing t with
  | nil => exact Grows.refl t
  | cons node nodes ih => exact (grows_visit t node).trans (ih (t.visit node).1)

/-- Labels that are gained are no longer missing. -/
theorem missing_le (nodes : List Node) {t u : Labelling inputs} (h : Grows t u) :
    missing nodes u ≤ missing nodes t := by
  induction nodes with
  | nil => exact Nat.le_refl 0
  | cons node nodes ih =>
      have := NameSet.size_le_of_subset (h node.name)
      simp only [missing, List.foldr_cons] at ih ⊢
      omega

/-- A node that gains a label makes fewer labels missing. -/
theorem missing_lt {nodes : List Node} {t u : Labelling inputs} (h : Grows t u) {node : Node}
    (hmem : node ∈ nodes) (hlt : (t.get node.name).size < (u.get node.name).size) :
    missing nodes u < missing nodes t := by
  induction nodes with
  | nil => cases hmem
  | cons other nodes ih =>
      have hother := NameSet.size_le_of_subset (h other.name)
      have hrest : missing nodes u ≤ missing nodes t := missing_le nodes h
      simp only [missing, List.foldr_cons] at ih hrest ⊢
      rcases List.mem_cons.1 hmem with rfl | hmem
      · have hbound : (u.get node.name).size ≤ inputs.size :=
          NameSet.size_le_of_subset fun _ hc => mem_inputs hc
        omega
      · have := ih hmem
        omega

/-- A round in which something changed makes fewer labels missing.  `all` are the nodes that are
counted, the visited ones among them. -/
theorem missing_round_lt {all nodes : List Node} (hsub : nodes ⊆ all) {t : Labelling inputs}
    (h : (round nodes t).2 = true) : missing all (round nodes t).1 < missing all t := by
  induction nodes generalizing t with
  | nil => cases h
  | cons node nodes ih =>
      obtain ⟨hmem, hsub⟩ := List.cons_subset.1 hsub
      rw [round] at h ⊢
      have hrest := missing_le all (grows_round nodes (t.visit node).1)
      rcases visit_cases t node with ⟨hv, -⟩ | ⟨-, hlt, hv⟩
      · rw [hv] at h ⊢
        exact ih hsub (by simpa using h)
      · refine Nat.lt_of_le_of_lt hrest (missing_lt (grows_visit t node) hmem ?_)
        rw [hv, get_set, if_pos rfl]
        exact hlt

/-- Rounds until one changes nothing. -/
def rounds (nodes : List Node) (t : Labelling inputs) : Labelling inputs :=
  if (round nodes t).2 then rounds nodes (round nodes t).1 else (round nodes t).1
termination_by missing nodes t
decreasing_by exact missing_round_lt (List.Subset.refl nodes) (by assumption)

/-- The labels that the control inputs give to the nodes. -/
def propagate (nodes : List Node) (inputs : NameSet) : Labelling inputs :=
  rounds nodes (start inputs)

end Labelling

end ChartLint
