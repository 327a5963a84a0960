import ChartLint.Script
import ChartLint.Flow
import Mathlib.Logic.Function.Iterate

/-!
# Labels are reachable control inputs

The labels of a name are the control inputs at the ends of the paths that lead from the name along
sources and pass through no control input on the way.  `Carries` is that relation, and
`FlowGraph.mem_labels` says that the rounds of the propagation compute it.

*Soundness.*  Every labelling on the way holds only labels that are carried (`Sound`).  A visit keeps
that, since it adds what the sources of a node have, and so do a round and all rounds.

*Completeness.*  The rounds end with a labelling that a further round does not change (`IsStable`).
What a round compares is only the number of labels.  That is enough, since the labels of a node are
among those that it and its sources carry, and a set within a set of the same size is all of it.

*Order.*  Neither side looks at the order of the nodes, so every order gives the same labels.
-/

namespace ChartLint

/-- A path of sources leads from the first name to the second, which is a control input, and no name
in front of the second is one. -/
inductive Carries (inputs : NameSet) (reads : String → String → Prop) : String → String → Prop
  /-- A control input carries itself. -/
  | input {c : String} : c ∈ inputs → Carries inputs reads c c
  /-- A name that is no control input carries what its sources carry. -/
  | source {key source c : String} : key ∉ inputs → reads key source →
    Carries inputs reads source c → Carries inputs reads key c

/-- What is carried is a control input. -/
theorem Carries.mem_inputs {inputs : NameSet} {reads : String → String → Prop} {key c : String}
    (h : Carries inputs reads key c) : c ∈ inputs := by
  induction h with
  | input hc => exact hc
  | source _ _ _ ih => exact ih

/-- A control input carries nothing but itself. -/
theorem Carries.eq_of_mem {inputs : NameSet} {reads : String → String → Prop} {key c : String}
    (h : Carries inputs reads key c) (hkey : key ∈ inputs) : c = key := by
  cases h with
  | input _ => rfl
  | source hnot _ _ => exact absurd hkey hnot

namespace Labelling

variable {inputs : NameSet}

/-- A node among `nodes` has the second name among its sources. -/
def Reads (nodes : List Node) (key source : String) : Prop :=
  ∃ node ∈ nodes, node.name = key ∧ source ∈ node.sources

/-! ## Soundness -/

/-- Every label is carried. -/
def Sound (nodes : List Node) (t : Labelling inputs) : Prop :=
  ∀ key, ∀ c ∈ t.get key, Carries inputs (Reads nodes) key c

theorem sound_start (nodes : List Node) : Sound nodes (start inputs) := by
  intro key c hc
  rw [get_start] at hc
  split at hc
  case isTrue hkey =>
    rw [NameSet.mem_ofList, List.mem_singleton] at hc
    subst hc
    exact .input hkey
  case isFalse => exact absurd hc (NameSet.not_mem_empty c)

theorem sound_visit {nodes : List Node} {t : Labelling inputs} (h : Sound nodes t) {node : Node}
    (hnode : node ∈ nodes) : Sound nodes (t.visit node).1 := by
  rcases visit_cases t node with ⟨hv, -⟩ | ⟨hinput, -, hv⟩
  · rw [hv]
    exact h
  · rw [hv]
    intro key c hc
    rw [get_set] at hc
    split at hc
    case isTrue hkey =>
      subst hkey
      rcases mem_gather.1 hc with hc | ⟨source, hsource, hc⟩
      · exact h node.name c hc
      · exact .source hinput ⟨node, hnode, rfl, hsource⟩ (h source c hc)
    case isFalse => exact h key c hc

theorem sound_round {all nodes : List Node} (hsub : nodes ⊆ all) {t : Labelling inputs}
    (h : Sound all t) : Sound all (round nodes t).1 := by
  induction nodes generalizing t with
  | nil => exact h
  | cons node nodes ih =>
      obtain ⟨hnode, hsub⟩ := List.cons_subset.1 hsub
      exact ih hsub (sound_visit h hnode)

theorem sound_rounds {nodes : List Node} {t : Labelling inputs} (h : Sound nodes t) :
    Sound nodes (rounds nodes t) := by
  fun_induction rounds nodes t with
  | case1 t hchanged ih => exact ih (sound_round (List.Subset.refl nodes) h)
  | case2 t hchanged => exact sound_round (List.Subset.refl nodes) h

/-! ## Completeness -/

/-- A further round changes nothing. -/
def IsStable (nodes : List Node) (t : Labelling inputs) : Prop :=
  (round nodes t).2 = false

theorem visit_unchanged {t : Labelling inputs} {node : Node} (h : (t.visit node).2 = false) :
    (t.visit node).1 = t := by
  rcases visit_cases t node with ⟨hv, -⟩ | ⟨-, -, hv⟩
  · rw [hv]
  · rw [hv] at h
    cases h

theorem round_unchanged {nodes : List Node} {t : Labelling inputs} (h : IsStable nodes t) :
    (round nodes t).1 = t := by
  induction nodes with
  | nil => rfl
  | cons node nodes ih =>
      rw [IsStable, round, Bool.or_eq_false_iff] at h
      have hv := visit_unchanged h.1
      rw [round]
      simp only [hv] at h ⊢
      exact ih h.2

theorem isStable_rounds (nodes : List Node) (t : Labelling inputs) :
    IsStable nodes (rounds nodes t) := by
  fun_induction rounds nodes t with
  | case1 t hchanged ih => exact ih
  | case2 t hchanged =>
      have hstable : IsStable nodes t := by simpa [IsStable] using hchanged
      rw [round_unchanged hstable]
      exact hstable

theorem grows_rounds (nodes : List Node) (t : Labelling inputs) : Grows t (rounds nodes t) := by
  fun_induction rounds nodes t with
  | case1 t hchanged ih => exact (grows_round nodes t).trans ih
  | case2 t hchanged => exact grows_round nodes t

/-- In a stable labelling every node that is no control input has the labels of its sources. -/
theorem mem_of_isStable {nodes : List Node} {t : Labelling inputs} (h : IsStable nodes t)
    {node : Node} (hnode : node ∈ nodes) (hinput : node.name ∉ inputs) {source c : String}
    (hsource : source ∈ node.sources) (hc : c ∈ t.get source) : c ∈ t.get node.name := by
  induction nodes with
  | nil => cases hnode
  | cons first nodes ih =>
      rw [IsStable, round, Bool.or_eq_false_iff] at h
      have hv := visit_unchanged h.1
      rcases List.mem_cons.1 hnode with rfl | hnode
      · rcases visit_cases t node with ⟨-, hsize⟩ | ⟨-, -, hv'⟩
        · -- the sizes agree, so the gathered labels are the ones the node has
          refine NameSet.mem_of_size_le (t := t.gather node) ?_ (Nat.le_of_eq (hsize hinput)) ?_
          · exact fun d hd => mem_gather.2 (Or.inl hd)
          · exact mem_gather.2 (Or.inr ⟨source, hsource, hc⟩)
        · rw [hv'] at h
          cases h.1
      · refine ih ?_ hnode
        simp only [hv] at h
        exact h.2

/-- A stable labelling that control inputs have entered holds every label that is carried. -/
theorem complete_of_isStable {nodes : List Node} {t : Labelling inputs} (h : IsStable nodes t)
    (hstart : Grows (start inputs) t) {key c : String} (hc : Carries inputs (Reads nodes) key c) :
    c ∈ t.get key := by
  induction hc with
  | @input c hc =>
      refine hstart c c ?_
      rw [get_start, if_pos hc, NameSet.mem_ofList, List.mem_singleton]
  | source hinput hreads _ ih =>
      obtain ⟨node, hnode, rfl, hsource⟩ := hreads
      exact mem_of_isStable h hnode hinput hsource ih

/-- Propagation gives a name exactly the labels that it carries. -/
theorem mem_propagate {nodes : List Node} {key c : String} :
    c ∈ (propagate nodes inputs).get key ↔ Carries inputs (Reads nodes) key c := by
  constructor
  · exact sound_rounds (sound_start nodes) key c
  · exact complete_of_isStable (isStable_rounds nodes _) (grows_rounds nodes _)

/-! ## Order and number of the rounds -/

/-- The order of the nodes, and how often each is listed, does not matter. -/
theorem get_propagate_congr {nodes order : List Node} (h : ∀ node, node ∈ order ↔ node ∈ nodes)
    (key : String) : (propagate order inputs).get key = (propagate nodes inputs).get key := by
  have hreads : Reads order = Reads nodes := by
    funext key source
    simp only [Reads, h]
  refine NameSet.ext fun c => ?_
  rw [mem_propagate, mem_propagate, hreads]

/-- The labelling after a number of rounds. -/
def afterRounds (nodes : List Node) (n : Nat) (t : Labelling inputs) : Labelling inputs :=
  (fun u => (round nodes u).1)^[n] t

/-- The rounds end: there is a first round that changes nothing, and what was found before it is the
result.  There are no more rounds before it than labels that the nodes could gain. -/
theorem exists_last_round (nodes : List Node) (t : Labelling inputs) :
    ∃ n ≤ missing nodes t, (∀ m < n, ¬ IsStable nodes (afterRounds nodes m t)) ∧
      IsStable nodes (afterRounds nodes n t) ∧ rounds nodes t = afterRounds nodes n t := by
  fun_induction rounds nodes t with
  | case1 t hchanged ih =>
      obtain ⟨n, hn, hbefore, hstable, hresult⟩ := ih
      have hlt := missing_round_lt (List.Subset.refl nodes) hchanged
      refine ⟨n + 1, by omega, ?_, hstable, hresult⟩
      intro m hm
      cases m with
      | zero => exact fun h => by rw [IsStable, afterRounds] at h; simp [hchanged] at h
      | succ m => exact hbefore m (by omega)
  | case2 t hchanged =>
      have hstable : IsStable nodes t := by simpa [IsStable] using hchanged
      exact ⟨0, Nat.zero_le _, by simp, hstable, round_unchanged hstable⟩

end Labelling

/-! ## Flow graphs -/

theorem Flow.reads_nodes {flows : List Flow} {key source : String} :
    Labelling.Reads (Flow.nodes flows) key source ↔ source ∈ Flow.sources flows key := by
  constructor
  · rintro ⟨node, hnode, rfl, hsource⟩
    obtain ⟨name, -, rfl⟩ := List.mem_map.1 hnode
    exact hsource
  · intro hsource
    obtain ⟨f, hf, hkey⟩ := List.any_eq_true.1 (Flow.any_target_of_mem_sources hsource)
    refine ⟨⟨key, Flow.sources flows key⟩, List.mem_map.2 ⟨key, ?_, rfl⟩, rfl, hsource⟩
    rw [← NameSet.mem_def, NameSet.mem_ofList]
    exact List.mem_map.2 ⟨f, hf, eq_of_beq hkey⟩

namespace FlowGraph

/-- The labels of a name are the control inputs that it carries. -/
theorem mem_labels {g : FlowGraph} {key c : String} :
    c ∈ g.labels key ↔ Carries g.inputs (fun name source => source ∈ g.sources name) key c := by
  have hreads : Labelling.Reads (Flow.nodes g.flows) = fun name source => source ∈ g.sources name := by
    funext name source
    exact propext Flow.reads_nodes
  rw [labels, g.labelling_eq, Labelling.mem_propagate, hreads]

theorem labels_of_mem_inputs {g : FlowGraph} {key : String} (h : key ∈ g.inputs) :
    g.labels key = .ofList [key] := by
  refine NameSet.ext fun c => ?_
  rw [mem_labels, NameSet.mem_ofList, List.mem_singleton]
  constructor
  · exact fun hc => hc.eq_of_mem h
  · rintro rfl
    exact .input h

/-- Labels are reachability.  In the flow graph of a script the rounds of the propagation end; a name
has as labels the control inputs that a path of sources leads to without passing through another
control input; a control input has its own label only; and the nodes may be visited in any order. -/
theorem labels_eq_reachable_inputs (source : String) (s : Settings)
    (patterns : List (String → Bool)) :
    let script := Script.read source s
    let g := ofScript script.outline script.index s patterns
    let nodes := Flow.nodes g.flows
    (∃ n, (∀ m < n, ¬ Labelling.IsStable nodes (Labelling.afterRounds nodes m (.start g.inputs))) ∧
        Labelling.IsStable nodes (Labelling.afterRounds nodes n (.start g.inputs)) ∧
        g.labelling = Labelling.afterRounds nodes n (.start g.inputs)) ∧
      (∀ key c, c ∈ g.labels key ↔
        Carries g.inputs (fun name source => source ∈ g.sources name) key c) ∧
      (∀ key ∈ g.inputs, g.labels key = .ofList [key]) ∧
      ∀ order : List Node, (∀ node, node ∈ order ↔ node ∈ nodes) →
        ∀ key, (Labelling.propagate order g.inputs).get key = g.labels key := by
  intro script g nodes
  refine ⟨?_, fun key c => mem_labels, fun key hkey => labels_of_mem_inputs hkey, ?_⟩
  · obtain ⟨n, -, hbefore, hstable, hresult⟩ :=
      Labelling.exists_last_round nodes (.start g.inputs)
    exact ⟨n, hbefore, hstable, g.labelling_eq.trans hresult⟩
  · intro order horder key
    rw [Labelling.get_propagate_congr horder, labels, g.labelling_eq]

/-- Two names that depend on each other carry the control input that one of them reads, also when
they are visited in the opposite order. -/
theorem labels_of_cyclic_script :
    let s : Settings := { controlInputs := ["c"] }
    let script := Script.read "a = b\nb = a + c" s
    let g := ofScript script.outline script.index s []
    "c" ∈ g.inputs ∧ g.labels "c" = .ofList ["c"] ∧ "c" ∈ g.labels "a" ∧
      ∀ key, (Labelling.propagate (Flow.nodes g.flows).reverse g.inputs).get key = g.labels key := by
  intro s script g
  have hinput : "c" ∈ g.inputs := by decide +kernel
  have hab : "a" ∉ g.inputs ∧ "b" ∈ g.sources "a" := by decide +kernel
  have hbc : "b" ∉ g.inputs ∧ "c" ∈ g.sources "b" := by decide +kernel
  obtain ⟨-, hlabels, hinputs, horder⟩ :=
    labels_eq_reachable_inputs "a = b\nb = a + c" { controlInputs := ["c"] } []
  refine ⟨hinput, hinputs "c" hinput, ?_, horder _ fun node => List.mem_reverse⟩
  exact (hlabels "a" "c").2 (.source hab.1 hab.2 (.source hbc.1 hbc.2 (.input hinput)))

end FlowGraph

end ChartLint
