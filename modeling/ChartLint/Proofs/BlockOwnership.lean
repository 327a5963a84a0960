import ChartLint.Proofs.LocalNames

/-!
# Blocks nest, and functions own them

The block under a statement is the run of statements behind it that are indented further.  So a
block inside a block ends no later than the outer one (`contains_block_trans`).  A function is
defined where nothing is indented, so its block ends in front of the next function at the latest,
and the blocks of functions are apart (`pairwise_apart`).

Two parts of the analysis rely on this without a check.

*Owners.*  Every function enters itself for its header and for each statement of its block.  No
entry meets an older one (`nodup_ownerEntries`), and the entry of a statement is the function that
covers it (`lookup_ownerEntries`).

*Scopes.*  The index can be built in one pass over the statements.  The pass keeps a list of scopes:
a function with a block adds one, and a scope is dropped at the first statement that it does not
reach.  The scopes at a statement are those of the functions whose blocks hold the statement
(`scopesAt_eq`), so there is one at most, and the pass builds the index (`index_before_length`).
-/

namespace ChartLint

/-! ## Blocks in blocks -/

/-- The elements up to number `j` are at the front of a list, and all of them satisfy `p`. -/
theorem lt_length_takeWhile_iff {α : Type} {p : α → Bool} {xs : List α} {j : Nat} :
    j < (xs.takeWhile p).length ↔ ∀ i ≤ j, ∃ x, xs[i]? = some x ∧ p x = true := by
  induction xs generalizing j with
  | nil =>
      refine iff_of_false (Nat.not_lt_zero j) fun h => ?_
      obtain ⟨x, hx, -⟩ := h 0 (Nat.zero_le j)
      cases hx
  | cons x xs ih =>
      by_cases hx : p x = true
      · rw [List.takeWhile_cons_of_pos hx, List.length_cons]
        cases j with
        | zero => simpa using hx
        | succ j =>
            rw [Nat.succ_lt_succ_iff, ih]
            constructor
            · intro h i hi
              cases i with
              | zero => exact ⟨x, rfl, hx⟩
              | succ i => exact h i (Nat.le_of_succ_le_succ hi)
            · intro h i hi
              exact h (i + 1) (Nat.succ_le_succ hi)
      · rw [List.takeWhile_cons_of_neg hx]
        refine iff_of_false (Nat.not_lt_zero j) fun h => hx ?_
        obtain ⟨y, hy, hpy⟩ := h 0 (Nat.zero_le j)
        obtain rfl : x = y := Option.some.inj hy
        exact hpy

namespace Outline

variable {o : Outline} {f g : FunctionDef}

/-- A statement is in the block under another one exactly if everything from there on is indented
further. -/
theorem contains_block_iff {n m : Nat} {s : Statement} (hs : o.statements[n]? = some s) :
    (o.block n).contains m = true ↔
      n < m ∧ ∀ i, n < i → i ≤ m → ∃ t, o.statements[i]? = some t ∧ s.indent < t.indent := by
  obtain ⟨hn, rfl⟩ := List.getElem?_eq_some_iff.1 hs
  rw [block, List.drop_eq_getElem_cons hn, Span.contains_iff]
  refine and_congr_right fun hlt => ?_
  obtain ⟨j, rfl⟩ : ∃ j, m = n + 1 + j := Nat.exists_eq_add_of_le hlt
  rw [Nat.add_lt_add_iff_left, lt_length_takeWhile_iff]
  simp only [List.getElem?_drop, decide_eq_true_eq]
  constructor
  · intro h i hi hj
    obtain ⟨k, rfl⟩ : ∃ k, i = n + 1 + k := Nat.exists_eq_add_of_le hi
    exact h k (by omega)
  · intro h k hk
    exact h (n + 1 + k) (by omega) (by omega)

/-- A block in a block is part of it. -/
theorem contains_block_trans {n m k : Nat} (hm : (o.block n).contains m = true)
    (hk : (o.block m).contains k = true) : (o.block n).contains k = true := by
  have hn : n < o.statements.length := by
    by_contra hn
    rw [block, List.drop_eq_nil_of_le (Nat.le_of_not_lt hn), Span.contains_iff] at hm
    exact absurd hm.2 (Nat.not_lt_of_le hm.1)
  have hs := List.getElem?_eq_getElem hn
  rw [contains_block_iff hs] at hm ⊢
  obtain ⟨hlt, houter⟩ := hm
  obtain ⟨t, ht, hdeeper⟩ := houter m hlt (Nat.le_refl m)
  rw [contains_block_iff ht] at hk
  obtain ⟨hlt', hinner⟩ := hk
  refine ⟨hlt.trans hlt', fun i hi hik => ?_⟩
  rcases Nat.lt_or_ge m i with hmi | him
  · obtain ⟨u, hu, hindent⟩ := hinner i hmi hik
    exact ⟨u, hu, hdeeper.trans hindent⟩
  · exact houter i hi him

/-- A block in a block starts no earlier and ends no later. -/
theorem block_within {n m : Nat} (hm : (o.block n).contains m = true) :
    (o.block n).start ≤ (o.block m).start ∧ (o.block m).stop ≤ (o.block n).stop := by
  have hspan := Span.contains_iff.1 hm
  have hstart : (o.block m).start = m + 1 := by
    rw [block]
    split <;> rfl
  refine ⟨by omega, ?_⟩
  rcases Nat.lt_or_ge (m + 1) (o.block m).stop with hlt | hge
  · have hlast : (o.block m).contains ((o.block m).stop - 1) = true :=
      Span.contains_iff.2 (by omega)
    have hwithin := Span.contains_iff.1 (contains_block_trans hm hlast)
    omega
  · omega

/-! ## Functions and their statements -/

theorem statement_of_function? {s : Statement} {n : Nat} (h : o.function? s n = some f) :
    f.statement = n := by
  obtain ⟨header, -, rfl⟩ := Option.map_eq_some_iff.1 h
  rfl

/-- Functions come in the order of their headers. -/
theorem pairwise_statement (o : Outline) : o.functions.Pairwise (·.statement < ·.statement) := by
  have hindex : o.statements.zipIdx.Pairwise (·.2 < ·.2) := by
    rw [← List.pairwise_map (R := (· < ·)), List.zipIdx_map_snd]
    exact List.pairwise_lt_range'
  refine hindex.filterMap _ fun p q hpq f hf g hg => ?_
  rw [statement_of_function? hf, statement_of_function? hg]
  exact hpq

/-- Two functions have no statement in common. -/
theorem pairwise_apart (o : Outline) :
    o.functions.Pairwise fun f g => ∀ n, ¬ (f.covers n = true ∧ g.covers n = true) := by
  refine (pairwise_statement o).imp_of_mem fun hf hg hlt n => ?_
  rintro ⟨hfn, hgn⟩
  exact not_lt_of_covers hf hg hfn hgn hlt

theorem covers_of_hasInBlock {n : Nat} (h : f.hasInBlock n = true) : f.covers n = true :=
  covers_iff.2 (.inr h)

/-- No header is in the block of a function. -/
theorem not_hasInBlock_statement (hf : f ∈ o.functions) (hg : g ∈ o.functions) :
    ¬ f.hasInBlock g.statement = true := by
  intro h
  have hcovers : g.covers g.statement = true := covers_iff.2 (.inl rfl)
  obtain rfl := eq_of_covers hf hg (covers_of_hasInBlock h) hcovers
  obtain ⟨-, hstart, -⟩ := function_bounds hf
  have hle := (Span.contains_iff.1 h).1
  omega

/-- The functions whose block holds a statement: one, or none. -/
theorem filter_hasInBlock (o : Outline) (n : Nat) :
    o.functions.filter (·.hasInBlock n) = (o.functions.find? (·.hasInBlock n)).toList := by
  rw [← List.head?_filter]
  have hapart := (pairwise_apart o).filter (·.hasInBlock n)
  cases hfound : o.functions.filter (·.hasInBlock n) with
  | nil => rfl
  | cons f more =>
      cases more with
      | nil => rfl
      | cons g more =>
          rw [hfound] at hapart
          have hmem : ∀ h ∈ f :: g :: more, h.covers n = true := by
            intro h hh
            rw [← hfound] at hh
            exact covers_of_hasInBlock (List.mem_filter.1 hh).2
          have hfg := (List.pairwise_cons.1 hapart).1 g List.mem_cons_self n
          exact absurd ⟨hmem f (by simp), hmem g (by simp)⟩ hfg

end Outline

/-! ## Owners -/

theorem Span.mem_toList {s : Span} {n : Nat} : n ∈ s.toList ↔ s.contains n = true := by
  rw [toList, List.mem_range'_1, contains_iff]
  omega

/-- The statements that a function enters itself for: its header, then its block. -/
def FunctionDef.owned (f : FunctionDef) : List Nat :=
  f.statement :: f.block.toList

theorem FunctionDef.mem_owned {f : FunctionDef} {n : Nat} : n ∈ f.owned ↔ f.covers n = true := by
  rw [owned, List.mem_cons, Span.mem_toList, Outline.covers_iff]

/-- The owners of statements as functions enter themselves, one function after the other. -/
def ownerEntries (functions : List FunctionDef) : List (Nat × FunctionDef) :=
  functions.flatMap fun f => f.owned.map (·, f)

theorem map_fst_ownerEntries (functions : List FunctionDef) :
    (ownerEntries functions).map (·.1) = functions.flatMap (·.owned) := by
  rw [ownerEntries, List.map_flatMap]
  exact List.flatMap_congr fun f _ => List.map_map.trans (List.map_id f.owned)

/-- The entry of a statement is the first function that covers it. -/
theorem lookup_ownerEntries (functions : List FunctionDef) (n : Nat) :
    (ownerEntries functions).lookup n = functions.find? (·.covers n) := by
  have hone (f : FunctionDef) (ns : List Nat) :
      (ns.map (·, f)).lookup n = if n ∈ ns then some f else none := by
    induction ns with
    | nil => rfl
    | cons m ns ih =>
        rw [List.map_cons, List.lookup_cons, ih]
        by_cases h : n = m
        · simp [h]
        · simp [h, beq_false_of_ne h]
  induction functions with
  | nil => rfl
  | cons f functions ih =>
      rw [ownerEntries, List.flatMap_cons, List.lookup_append, hone, List.find?_cons]
      show (if n ∈ f.owned then some f else none).or ((ownerEntries functions).lookup n) = _
      rw [ih]
      by_cases h : f.covers n = true
      · rw [if_pos (FunctionDef.mem_owned.2 h), h, Option.some_or]
      · rw [if_neg (mt FunctionDef.mem_owned.1 h), Option.none_or]
        rw [Bool.not_eq_true] at h
        rw [h]

/-- No statement is entered twice. -/
theorem nodup_ownerEntries (o : Outline) : ((ownerEntries o.functions).map (·.1)).Nodup := by
  rw [map_fst_ownerEntries, List.nodup_flatMap]
  constructor
  · intro f hf
    obtain ⟨-, hstart, -⟩ := Outline.function_bounds hf
    refine List.nodup_cons.2 ⟨fun hmem => ?_, List.nodup_range'⟩
    have hle := (Span.contains_iff.1 (Span.mem_toList.1 hmem)).1
    omega
  · refine (Outline.pairwise_apart o).imp fun h n hf hg => ?_
    exact h n ⟨FunctionDef.mem_owned.1 hf, FunctionDef.mem_owned.1 hg⟩

/-! ## Scopes -/

/-- What hides names while the statements are passed: the statements it reaches, and the names. -/
structure Scope where
  /-- The statements. -/
  block : Span
  /-- The names. -/
  parameters : NameSet

namespace Scope

/-- The scopes that reach a statement. -/
def reaching (scopes : List Scope) (n : Nat) : List Scope :=
  scopes.filter (·.block.contains n)

/-- The names that scopes hide. -/
def hidden (scopes : List Scope) : NameSet :=
  .ofList (scopes.flatMap (·.parameters.names))

end Scope

/-- The scope that a function opens for its block. -/
def FunctionDef.scope (f : FunctionDef) : Scope :=
  ⟨f.block, f.header.parameters⟩

/-- The scopes that a function adds to the list.  An empty block needs none. -/
def FunctionDef.opened (f : FunctionDef) : List Scope :=
  if f.block.isEmpty then [] else [f.scope]

/-- A pass over the statements that builds the index. -/
structure IndexPass where
  /-- The scopes that have been opened and not dropped. -/
  scopes : List Scope := []
  /-- What is known of the index. -/
  index : Index := ⟨[], [], []⟩

namespace IndexPass

/-- Pass one statement with its number.  Scopes that do not reach it are dropped first, and the
names of the others are hidden in it.  If it defines a function, the scope of its block is opened. -/
def step (o : Outline) (p : IndexPass) (numbered : Statement × Nat) : IndexPass :=
  let (s, n) := numbered
  let scopes := Scope.reaching p.scopes n
  let function := (o.function? s n).toList
  { scopes := scopes ++ function.flatMap (·.opened)
    index :=
      { declarations := p.index.declarations ++ s.declarations n
        references := p.index.references ++
          (s.uses (Scope.hidden scopes)).map (Reference.ofToken n)
        functions := p.index.functions ++ function } }

/-- The pass before statement number `n`. -/
def before (o : Outline) (n : Nat) : IndexPass :=
  (o.statements.zipIdx.take n).foldl (step o) {}

/-- The scopes while statement number `n` is passed. -/
def scopesAt (o : Outline) (n : Nat) : List Scope :=
  Scope.reaching (before o n).scopes n

variable {o : Outline} {n : Nat} {s : Statement}

theorem take_succ_zipIdx (hs : o.statements[n]? = some s) :
    o.statements.zipIdx.take (n + 1) = o.statements.zipIdx.take n ++ [(s, n)] := by
  rw [List.take_add_one, List.getElem?_zipIdx, hs]
  simp

theorem before_succ (hs : o.statements[n]? = some s) :
    before o (n + 1) = (before o n).step o (s, n) := by
  rw [before, take_succ_zipIdx hs, List.foldl_append]
  rfl

end IndexPass

namespace Outline

variable {o : Outline} {n : Nat} {s : Statement} {f : FunctionDef}

/-- The functions that are defined in front of statement number `n`. -/
def functionsBefore (o : Outline) (n : Nat) : List FunctionDef :=
  (o.statements.zipIdx.take n).filterMap fun (s, n) => o.function? s n

theorem functionsBefore_succ (hs : o.statements[n]? = some s) :
    o.functionsBefore (n + 1) = o.functionsBefore n ++ (o.function? s n).toList := by
  rw [functionsBefore, IndexPass.take_succ_zipIdx hs, List.filterMap_append, functionsBefore]
  simp only [List.filterMap_cons, List.filterMap_nil]
  cases o.function? s n <;> rfl

theorem functionsBefore_length (o : Outline) :
    o.functionsBefore o.statements.length = o.functions := by
  rw [functionsBefore, List.take_of_length_le (by simp), functions]

theorem of_mem_functionsBefore (h : f ∈ o.functionsBefore n) : f ∈ o.functions ∧ f.statement < n := by
  obtain ⟨⟨s, k⟩, hmem, hf⟩ := List.mem_filterMap.1 h
  refine ⟨List.mem_filterMap.2 ⟨(s, k), List.mem_of_mem_take hmem, hf⟩, ?_⟩
  obtain ⟨i, hi, heq⟩ := List.mem_take_iff_getElem.1 hmem
  rw [List.getElem_zipIdx, Prod.mk.injEq] at heq
  rw [statement_of_function? hf]
  omega

/-- What is defined from a statement on does not have this statement in its block. -/
theorem filter_functionsBefore (o : Outline) (n : Nat) :
    (o.functionsBefore n).filter (·.hasInBlock n) = o.functions.filter (·.hasInBlock n) := by
  let behind := (o.statements.zipIdx.drop n).filterMap fun (s, n) => o.function? s n
  have hsplit : o.functions = o.functionsBefore n ++ behind := by
    rw [functionsBefore, ← List.filterMap_append, List.take_append_drop, functions]
  have hbehind : behind.filter (·.hasInBlock n) = [] := by
    refine List.filter_eq_nil_iff.2 fun f hf h => ?_
    have hfunctions : f ∈ o.functions := hsplit ▸ List.mem_append_right _ hf
    obtain ⟨⟨s, k⟩, hmem, hfunction⟩ := List.mem_filterMap.1 hf
    obtain ⟨i, hi, heq⟩ := List.mem_drop_iff_getElem.1 hmem
    rw [List.getElem_zipIdx, Prod.mk.injEq] at heq
    obtain ⟨-, hstart, -⟩ := function_bounds hfunctions
    have hk := statement_of_function? hfunction
    have hle := (Span.contains_iff.1 h).1
    omega
  rw [hsplit, List.filter_append, hbehind, List.append_nil]

end Outline

namespace IndexPass

variable {o : Outline} {n : Nat}

/-- The scopes that a function adds reach what is in its block. -/
theorem reaching_opened (f : FunctionDef) (n : Nat) :
    Scope.reaching f.opened n = ([f].filter (·.hasInBlock n)).map (·.scope) := by
  rw [FunctionDef.opened]
  split
  next hempty =>
    have hnot : f.hasInBlock n = false := by
      rw [← Bool.not_eq_true]
      intro h
      have hspan := Span.contains_iff.1 h
      rw [Span.isEmpty, decide_eq_true_eq] at hempty
      omega
    rw [List.filter_cons_of_neg (by simp [hnot])]
    rfl
  next =>
    rw [Scope.reaching, List.filter_cons, List.filter_cons]
    show (if f.hasInBlock n = true then _ else _) = List.map _ (if f.hasInBlock n = true then _ else _)
    split <;> rfl

/-- A scope that reaches behind a statement reaches this statement, unless it is opened there. -/
theorem reaching_succ (o : Outline) (n : Nat) :
    Scope.reaching (((o.functionsBefore n).filter (·.hasInBlock n)).map (·.scope)) (n + 1) =
      ((o.functionsBefore n).filter (·.hasInBlock (n + 1))).map (·.scope) := by
  rw [Scope.reaching, List.filter_map, List.filter_filter]
  refine congrArg _ (List.filter_congr fun f hf => ?_)
  show (f.hasInBlock (n + 1) && f.hasInBlock n) = f.hasInBlock (n + 1)
  rw [Bool.and_eq_left_iff_imp]
  intro h
  obtain ⟨hf, hlt⟩ := Outline.of_mem_functionsBefore hf
  obtain ⟨-, hstart, -⟩ := Outline.function_bounds hf
  have hspan := Span.contains_iff.1 h
  exact Span.contains_iff.2 (by omega)

/-- The scopes at a statement are those of the functions whose block holds it. -/
theorem scopesAt_eq (hn : n ≤ o.statements.length) :
    scopesAt o n = (o.functions.filter (·.hasInBlock n)).map (·.scope) := by
  rw [← Outline.filter_functionsBefore]
  induction n with
  | zero => rfl
  | succ n ih =>
      have hs := List.getElem?_eq_getElem hn
      rw [scopesAt, before_succ hs, Outline.functionsBefore_succ hs, step]
      show Scope.reaching (scopesAt o n ++ _) (n + 1) = _
      rw [ih (Nat.le_of_succ_le hn), Scope.reaching, List.filter_append, List.filter_append,
        List.map_append]
      congr 1
      · exact reaching_succ o n
      · cases o.function? o.statements[n] n with
        | none => rfl
        | some f =>
            rw [Option.toList_some, List.flatMap_singleton]
            exact reaching_opened f (n + 1)

theorem length_scopesAt_le_one (hn : n ≤ o.statements.length) : (scopesAt o n).length ≤ 1 := by
  rw [scopesAt_eq hn, Outline.filter_hasInBlock, List.length_map]
  exact Option.length_toList_le

/-- The names hidden in a statement are the parameters of the function whose block holds it. -/
theorem hidden_scopesAt (hn : n ≤ o.statements.length) :
    Scope.hidden (scopesAt o n) = Index.parametersAt o.functions n := by
  rw [scopesAt_eq hn, Outline.filter_hasInBlock, Index.parametersAt]
  cases o.functions.find? (·.hasInBlock n) with
  | none => rfl
  | some f =>
      refine NameSet.ext fun x => ?_
      rw [Scope.hidden, NameSet.mem_ofList, Option.toList_some, List.map_singleton,
        List.flatMap_singleton]
      exact Iff.rfl

/-- The pass builds the index. -/
theorem index_before (hn : n ≤ o.statements.length) :
    (before o n).index =
      { declarations := (o.statements.zipIdx.take n).flatMap fun (s, n) => s.declarations n
        references := (o.statements.zipIdx.take n).flatMap fun (s, n) =>
          (s.uses (Index.parametersAt o.functions n)).map (Reference.ofToken n)
        functions := o.functionsBefore n } := by
  induction n with
  | zero => rfl
  | succ n ih =>
      have hs := List.getElem?_eq_getElem hn
      rw [before_succ hs, Outline.functionsBefore_succ hs, step, ih (Nat.le_of_succ_le hn),
        take_succ_zipIdx hs, List.flatMap_append, List.flatMap_append, List.flatMap_singleton,
        List.flatMap_singleton]
      show Index.mk _ (_ ++ ((o.statements[n].uses (Scope.hidden (scopesAt o n))).map _)) _ = _
      rw [hidden_scopesAt (Nat.le_of_succ_le hn)]

theorem index_before_length (o : Outline) :
    (before o o.statements.length).index = Index.ofOutline o := by
  rw [index_before (Nat.le_refl _), Outline.functionsBefore_length,
    List.take_of_length_le (by simp)]
  rfl

end IndexPass

/-! ## The main result -/

namespace Outline

/-- Blocks nest, and each statement belongs to one function at most. -/
structure BlocksOwned (o : Outline) : Prop where
  /-- The block under a statement in a block is within the outer block. -/
  nested : ∀ n m, (o.block n).contains m = true →
    (o.block n).start ≤ (o.block m).start ∧ (o.block m).stop ≤ (o.block n).stop
  /-- The blocks of functions have no statement in common. -/
  apart : (Index.ofOutline o).functions.Pairwise fun f g =>
    ∀ n, ¬ (f.block.contains n = true ∧ g.block.contains n = true)
  /-- They have no header in them. -/
  headers : ∀ f ∈ (Index.ofOutline o).functions, ∀ g ∈ (Index.ofOutline o).functions,
    f.block.contains g.statement = false
  /-- No function enters itself for a statement that has an owner. -/
  entries : ((ownerEntries (Index.ofOutline o).functions).map (·.1)).Nodup
  /-- The owner of a statement is what is entered for it. -/
  owner : ∀ n, (ownerEntries (Index.ofOutline o).functions).lookup n = (Index.ofOutline o).owner? n
  /-- While a statement is passed there is one scope at most. -/
  scopes : ∀ n < o.statements.length, (IndexPass.scopesAt o n).length ≤ 1
  /-- In the block of a function the names of its parameters are hidden, and no others. -/
  hidden : ∀ n < o.statements.length, ∀ f ∈ (Index.ofOutline o).functions,
    f.block.contains n = true → Scope.hidden (IndexPass.scopesAt o n) = f.header.parameters
  /-- Outside the blocks of functions nothing is hidden. -/
  unhidden : ∀ n < o.statements.length,
    (∀ f ∈ (Index.ofOutline o).functions, f.block.contains n = false) →
      Scope.hidden (IndexPass.scopesAt o n) = ∅
  /-- The pass with these scopes builds the index. -/
  index : (IndexPass.before o o.statements.length).index = Index.ofOutline o

/-- However the lines of a script are indented, its blocks nest, no statement has two functions, and
the names that are hidden in a statement are the parameters of its function. -/
theorem blocks_owned (source : String) (tab : Nat) : (read source tab).BlocksOwned where
  nested _ _ hm := block_within hm
  apart := by
    refine (pairwise_apart _).imp fun hfg n => ?_
    rintro ⟨hf, hg⟩
    exact hfg n ⟨covers_of_hasInBlock hf, covers_of_hasInBlock hg⟩
  headers f hf g hg := Bool.eq_false_iff.2 (not_hasInBlock_statement hf hg)
  entries := nodup_ownerEntries _
  owner n := lookup_ownerEntries _ n
  scopes n hn := IndexPass.length_scopesAt_le_one (Nat.le_of_lt hn)
  hidden n hn f hf hblock := by
    have hfound : f ∈ ((read source tab).functions.find? (·.hasInBlock n)).toList := by
      rw [← filter_hasInBlock]
      exact List.mem_filter.2 ⟨hf, hblock⟩
    rw [IndexPass.hidden_scopesAt (Nat.le_of_lt hn), Index.parametersAt,
      Option.mem_toList.1 hfound]
  unhidden n hn hnone := by
    have hfound : (read source tab).functions.find? (·.hasInBlock n) = none :=
      List.find?_eq_none.2 fun f hf => Bool.eq_false_iff.1 (hnone f hf)
    rw [IndexPass.hidden_scopesAt (Nat.le_of_lt hn), Index.parametersAt, hfound]
  index := IndexPass.index_before_length _

/-- A condition in the block of a function, and another function behind it. -/
theorem blocks_owned_condition :
    let o := read "f(a) =>\n  if a\n    b = a\n  b\ng(c) => c" 1
    (o.block 0).contains 1 = true ∧ (o.block 1).stop ≤ (o.block 0).stop ∧
      2 < o.statements.length ∧
      ∃ f ∈ o.functions, f.block.contains 2 = true ∧
        Scope.hidden (IndexPass.scopesAt o 2) = f.header.parameters ∧
        f.header.parameters = .ofList ["a"] := by
  intro o
  have howned := blocks_owned "f(a) =>\n  if a\n    b = a\n  b\ng(c) => c" 1
  have hcontains : (o.block 0).contains 1 = true := by decide +kernel
  have hlength : 2 < o.statements.length := by decide +kernel
  have hfunction : ∃ f ∈ o.functions, f.block.contains 2 = true ∧
      f.header.parameters.names = ["a"] := by decide +kernel
  obtain ⟨f, hf, hblock, hnames⟩ := hfunction
  refine ⟨hcontains, (howned.nested 0 1 hcontains).2, hlength, f, hf, hblock,
    howned.hidden 2 hlength f hf hblock, NameSet.ext fun x => ?_⟩
  rw [NameSet.mem_def, hnames, NameSet.mem_ofList]

end Outline

end ChartLint
