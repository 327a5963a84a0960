import ChartLint.Proofs.StatementPartition
import ChartLint.Proofs.StatementParts
import Mathlib.Data.List.Flatten

/-!
# The roles of identifiers

Every identifier of a script declares a name, uses one, or does neither, and in the last case one of
a few reasons applies (`Overlooked`).

*Statements.*  A statement declares some of its tokens (`Statement.declared`) and looks for uses in
some runs of its tokens (`Statement.scans`).  Both together are a part of the statement without
repetition (`sublist_tokens`), so no token is declared and used.  An identifier that is neither
declared nor looked through stands in a function header or in front of an assignment operator.

*Scans.*  What keeps an identifier of a scan from being a use is told by the tokens around it in the
scan (`overlooked_of_not_mem_uses`).

*Scripts.*  The statements partition the code, so what holds in each statement holds in the script.
Positions and numbers increase along the code, which makes the declarations and the references
increase too.
-/

namespace ChartLint

/-! ## Scans -/

/-- Tokens that are looked through for uses of names, and the names that are hidden there. -/
structure Scan where
  /-- The names that are no uses. -/
  hidden : NameSet
  /-- The tokens. -/
  tokens : List Lexeme

theorem usesFrom_sublist (hidden : NameSet) (depth : Nat) (afterPoint : Bool) (ts : List Lexeme) :
    (usesFrom hidden depth afterPoint ts).Sublist ts := by
  induction ts generalizing depth afterPoint with
  | nil => exact List.Sublist.refl []
  | cons t ts ih =>
      rw [usesFrom]
      split
      · exact (ih _ _).cons_cons t
      · exact (ih _ _).cons t

theorem isIdentifier_of_mem_usesFrom {hidden : NameSet} {depth : Nat} {afterPoint : Bool}
    {ts : List Lexeme} {t : Lexeme} (h : t ∈ usesFrom hidden depth afterPoint ts) :
    t.isIdentifier = true := by
  induction ts generalizing depth afterPoint with
  | nil => cases h
  | cons u ts ih =>
      rw [usesFrom] at h
      split at h
      case isTrue huse =>
        rcases List.mem_cons.1 h with rfl | h
        · simp only [Bool.and_eq_true] at huse
          exact huse.1.1.1.1.1
        · exact ih h
      case isFalse => exact ih h

/-- The uses behind some tokens are found at the depth behind them and knowing whether a point is
the last of them. -/
theorem exists_usesFrom_append (hidden : NameSet) (depth : Nat) (afterPoint : Bool)
    (front back : List Lexeme) :
    ∃ found, usesFrom hidden depth afterPoint (front ++ back) =
      found ++ usesFrom hidden (depthBehind (front.map (·.toToken)) depth)
        (front.foldl (fun _ t => t.isPunctuation ".") afterPoint) back := by
  induction front generalizing depth afterPoint with
  | nil => exact ⟨[], rfl⟩
  | cons t front ih =>
      obtain ⟨found, hfound⟩ := ih (t.depthAfter depth) (t.isPunctuation ".")
      rw [List.cons_append, usesFrom, hfound]
      split
      · exact ⟨t :: found, rfl⟩
      · exact ⟨found, rfl⟩

theorem foldl_isPunctuation (front : List Lexeme) (text : String) :
    front.foldl (fun _ t => t.isPunctuation text) false =
      front.getLast?.any (·.isPunctuation text) := by
  rcases List.eq_nil_or_concat front with rfl | ⟨front, t, rfl⟩
  · rfl
  · simp

/-- An identifier that is no use is a member, a builtin namespace, the name of an argument, a
keyword or hidden. -/
theorem overlooked_of_not_mem_uses {hidden : NameSet} {front back : List Lexeme} {t : Lexeme}
    (ht : t.isIdentifier = true) (h : t ∉ uses hidden (front ++ t :: back)) :
    front.getLast?.any (·.isPunctuation ".") = true ∨
      (back.head?.any (·.isPunctuation ".") = true ∧ t.text ∈ Vocabulary.builtinNamespaces) ∨
      (0 < depthBehind (front.map (·.toToken)) 0 ∧ back.head?.any (·.isOperator "=") = true) ∨
      t.text ∈ Vocabulary.keywords ∨ t.text ∈ hidden := by
  obtain ⟨found, hfound⟩ := exists_usesFrom_append hidden 0 false front (t :: back)
  rw [uses, hfound, usesFrom, foldl_isPunctuation] at h
  split at h
  case isTrue => simp at h
  case isFalse hno =>
    simp only [ht, Bool.and_eq_true, Bool.not_eq_true', Bool.true_and, ← Bool.not_eq_true,
      not_and_or, not_or, not_not, bne_iff_ne, ne_eq, List.contains_iff_mem,
      NameSet.contains_iff] at hno
    rcases hno with (((hpoint | hbuiltin) | hargument) | hkeyword) | hhidden
    · exact Or.inl hpoint
    · exact Or.inr (Or.inl hbuiltin)
    · exact Or.inr (Or.inr (Or.inl ⟨Nat.pos_of_ne_zero hargument.1, hargument.2⟩))
    · exact Or.inr (Or.inr (Or.inr (Or.inl hkeyword)))
    · exact Or.inr (Or.inr (Or.inr (Or.inr hhidden)))

/-! ## Statements -/

namespace Statement

/-- The tokens that a statement declares. -/
def declared (s : Statement) : List Lexeme :=
  match s.functionHeader? with
  | some header => [header.name]
  | none =>
    match s.assignment? with
    | some a => if a.declares then a.targets else []
    | none => []

/-- The runs of tokens in which a statement uses names.  `parameters` are those of the function
whose block the statement is in. -/
def scans (s : Statement) (parameters : NameSet) : List Scan :=
  match s.functionHeader? with
  | some header =>
    [⟨parameters, header.defaults⟩, ⟨parameters.union header.parameters, header.body⟩]
  | none =>
    match s.assignment? with
    | some a =>
      (if a.declares then [] else [⟨parameters, a.targets⟩]) ++ [⟨parameters, a.value⟩]
    | none => [⟨parameters, s.tokens⟩]

/-- The token is the name in a function header or a target of a declaring assignment. -/
def Declares (s : Statement) (t : Lexeme) : Prop :=
  (∃ header, s.functionHeader? = some header ∧ t = header.name) ∨
    (s.functionHeader? = none ∧ ∃ a, s.assignment? = some a ∧ a.declares = true ∧ t ∈ a.targets)

/-- The token stands in a function header, in front of the arrow and outside default values. -/
def InHeader (s : Statement) (t : Lexeme) : Prop :=
  ∃ header front arrow, s.functionHeader? = some header ∧
    s.tokens = front ++ arrow :: header.body ∧ arrow.isOperator "=>" = true ∧
    t ∈ front ∧ t ∉ header.defaults

/-- The token stands in front of an assignment operator and is no target. -/
def InFront (s : Statement) (t : Lexeme) : Prop :=
  ∃ a front op, s.functionHeader? = none ∧ s.assignment? = some a ∧
    s.tokens = front ++ op :: a.value ∧ op.isOperator a.operator = true ∧ t ∈ front ∧
    t ∉ a.targets

theorem declarations_eq (s : Statement) (n : Nat) :
    ∃ kind : Lexeme → DeclarationKind,
      s.declarations n = s.declared.map fun t => ⟨t.text, t.position, kind t, n⟩ := by
  rw [declarations, declared]
  cases s.functionHeader? with
  | some header => exact ⟨fun _ => .function, rfl⟩
  | none =>
      cases s.assignment? with
      | none => exact ⟨fun _ => .variable, rfl⟩
      | some a =>
          refine ⟨fun t => s.declarationKind a t.text, ?_⟩
          cases h : a.declares <;> simp [h]

theorem uses_eq (s : Statement) (parameters : NameSet) :
    s.uses parameters =
      (s.scans parameters).flatMap fun c => ChartLint.uses c.hidden c.tokens := by
  rw [uses, scans]
  cases s.functionHeader? with
  | some header => simp
  | none =>
      cases s.assignment? with
      | none => simp
      | some a => cases h : a.declares <;> simp [h]

theorem mem_declared_iff {s : Statement} {t : Lexeme} : t ∈ s.declared ↔ s.Declares t := by
  rw [declared, Declares]
  cases s.functionHeader? with
  | some header => simp
  | none =>
      cases s.assignment? with
      | none => simp
      | some a => cases h : a.declares <;> simp [h]

theorem isIdentifier_of_mem_declared {s : Statement} {t : Lexeme} (h : t ∈ s.declared) :
    t.isIdentifier = true := by
  rcases mem_declared_iff.1 h with ⟨header, hheader, rfl⟩ | ⟨-, a, ha, hdeclares, ht⟩
  · obtain ⟨-, -, -, -, hname, -⟩ := exists_parts_of_functionHeader? hheader
    exact hname
  · obtain ⟨front, op, -, -, -, htargets⟩ := exists_front_of_assignment? ha
    exact Assignment.isIdentifier_of_targets? htargets
      (Assignment.ne_member_of_declares hdeclares) t ht

/-- What a statement declares and what it looks through are parts of it, without repetition. -/
theorem sublist_tokens (s : Statement) (parameters : NameSet) :
    (s.declared ++ (s.scans parameters).flatMap (·.tokens)).Sublist s.tokens := by
  rw [declared, scans]
  cases hheader : s.functionHeader? with
  | some header =>
      obtain ⟨before, inside, arrow, htokens, -, -, hdefaults⟩ :=
        exists_parts_of_functionHeader? hheader
      rw [htokens]
      simp only [List.flatMap_cons, List.flatMap_nil, List.append_nil, List.singleton_append]
      exact (((hdefaults.append (List.sublist_cons_self arrow header.body)).cons_cons
        header.name).trans (List.sublist_append_right before _))
  | none =>
      cases ha : s.assignment? with
      | none => simp
      | some a =>
          obtain ⟨front, op, htokens, -, -, htargets⟩ := exists_front_of_assignment? ha
          have hsub : (a.targets ++ a.value).Sublist s.tokens := by
            rw [htokens]
            exact (Assignment.sublist_of_targets? htargets).append
              (List.sublist_cons_self op a.value)
          cases hdeclares : a.declares <;> simpa [hdeclares] using hsub

/-- A token of a statement is declared, or is looked through, or stands in a function header or in
front of an assignment operator, or is that operator or the arrow of the header. -/
theorem cases_of_mem_tokens {s : Statement} {t : Lexeme} (ht : t ∈ s.tokens)
    (hoperator : t.kind ≠ .operator) (parameters : NameSet) :
    t ∈ s.declared ∨ (∃ c ∈ s.scans parameters, t ∈ c.tokens) ∨ s.InHeader t ∨ s.InFront t := by
  rw [declared, scans]
  cases hheader : s.functionHeader? with
  | some header =>
      obtain ⟨before, inside, arrow, htokens, -, harrow, -⟩ :=
        exists_parts_of_functionHeader? hheader
      by_cases hdefaults : t ∈ header.defaults
      · exact Or.inr (Or.inl ⟨_, List.mem_cons_self, hdefaults⟩)
      · rw [htokens, ← List.cons_append, ← List.append_assoc, List.mem_append, List.mem_cons] at ht
        rcases ht with ht | rfl | ht
        · refine Or.inr (Or.inr (Or.inl ⟨header, before ++ header.name :: inside, arrow, hheader,
            ?_, harrow, ht, hdefaults⟩))
          rw [htokens, List.append_assoc, List.cons_append]
        · exact absurd (Token.isOperator_iff.1 harrow).1 hoperator
        · exact Or.inr (Or.inl ⟨_, List.mem_cons_of_mem _ List.mem_cons_self, ht⟩)
  | none =>
      cases ha : s.assignment? with
      | none => exact Or.inr (Or.inl ⟨_, List.mem_cons_self, ht⟩)
      | some a =>
          obtain ⟨front, op, htokens, hop, htext, -⟩ := exists_front_of_assignment? ha
          simp only
          by_cases htarget : t ∈ a.targets
          · cases hdeclares : a.declares with
            | true => exact Or.inl (by simpa [hdeclares] using htarget)
            | false => exact Or.inr (Or.inl ⟨⟨parameters, a.targets⟩, by simp, htarget⟩)
          · rw [htokens, List.mem_append, List.mem_cons] at ht
            rcases ht with ht | rfl | ht
            · exact Or.inr (Or.inr (Or.inr ⟨a, front, op, hheader, ha, htokens,
                Token.isOperator_iff.2 ⟨hop, htext⟩, ht, htarget⟩))
            · exact absurd hop hoperator
            · exact Or.inr (Or.inl ⟨⟨parameters, a.value⟩, by simp, ht⟩)

theorem sublist_uses (s : Statement) (parameters : NameSet) :
    (s.declared ++ s.uses parameters).Sublist s.tokens := by
  rw [uses_eq]
  refine List.Sublist.trans ?_ (s.sublist_tokens parameters)
  exact (List.Sublist.refl _).append
    (List.Sublist.flatMap_right _ fun c _ => usesFrom_sublist c.hidden 0 false c.tokens)

theorem isIdentifier_of_mem_uses {s : Statement} {parameters : NameSet} {t : Lexeme}
    (h : t ∈ s.uses parameters) : t.isIdentifier = true := by
  rw [uses_eq] at h
  obtain ⟨c, -, ht⟩ := List.mem_flatMap.1 h
  exact isIdentifier_of_mem_usesFrom ht

theorem mem_tokens_of_mem_declared {s : Statement} {t : Lexeme} (h : t ∈ s.declared) :
    t ∈ s.tokens :=
  (s.sublist_uses ∅).subset (List.mem_append_left _ h)

theorem mem_tokens_of_mem_uses {s : Statement} {parameters : NameSet} {t : Lexeme}
    (h : t ∈ s.uses parameters) : t ∈ s.tokens :=
  (s.sublist_uses parameters).subset (List.mem_append_right _ h)

/-- What is hidden in a scan are the parameters around the statement, and in the body behind an
arrow those of the header too. -/
theorem mem_hidden_cases {s : Statement} {parameters : NameSet} {c : Scan} {name : String}
    (hc : c ∈ s.scans parameters) (h : name ∈ c.hidden) :
    name ∈ parameters ∨
      ∃ header, s.functionHeader? = some header ∧ c.tokens = header.body ∧
        name ∈ header.parameters := by
  rw [scans] at hc
  cases hheader : s.functionHeader? with
  | some header =>
      simp only [hheader, List.mem_cons, List.not_mem_nil, or_false] at hc
      rcases hc with rfl | rfl
      · exact Or.inl h
      · rcases NameSet.mem_union.1 h with h | h
        · exact Or.inl h
        · exact Or.inr ⟨header, rfl, rfl, h⟩
  | none =>
      left
      cases ha : s.assignment? with
      | none =>
          simp only [hheader, ha, List.mem_singleton] at hc
          subst hc
          exact h
      | some a =>
          simp only [hheader, ha, List.mem_append, List.mem_singleton] at hc
          rcases hc with hc | rfl
          · split at hc
            · cases hc
            · rw [List.mem_singleton.1 hc] at h
              exact h
          · exact h

end Statement

/-! ## Scripts -/

section Increasing

variable {α κ : Type} [LT κ] [BEq κ] [LawfulBEq κ] {f : α → κ} {xs : List α}

/-- In a strictly increasing list an element is the only one of its key. -/
theorem filter_eq_singleton (hirrefl : ∀ k : κ, ¬ k < k) (h : xs.Pairwise (f · < f ·)) {x : α}
    (hx : x ∈ xs) : xs.filter (f · == f x) = [x] := by
  obtain ⟨front, back, rfl⟩ := List.append_of_mem hx
  obtain ⟨-, hback, hfront⟩ := List.pairwise_append.1 h
  have hfront' : front.filter (f · == f x) = [] := by
    refine List.filter_eq_nil_iff.2 fun y hy heq => ?_
    exact hirrefl _ (eq_of_beq heq ▸ hfront y hy x List.mem_cons_self)
  have hback' : back.filter (f · == f x) = [] := by
    refine List.filter_eq_nil_iff.2 fun y hy heq => ?_
    exact hirrefl _ (eq_of_beq heq ▸ (List.pairwise_cons.1 hback).1 y hy)
  rw [List.filter_append, List.filter_cons_of_pos (by simp), hfront', hback']
  rfl

theorem eq_of_pairwise_key (hirrefl : ∀ k : κ, ¬ k < k) (h : xs.Pairwise (f · < f ·)) {x y : α}
    (hx : x ∈ xs) (hy : y ∈ xs) (heq : f y = f x) : y = x := by
  have hmem : y ∈ xs.filter (f · == f x) := List.mem_filter.2 ⟨hy, beq_iff_eq.2 heq⟩
  rw [filter_eq_singleton hirrefl h hx] at hmem
  exact List.mem_singleton.1 hmem

omit [BEq κ] [LawfulBEq κ] in
theorem nodup_of_pairwise_key (hirrefl : ∀ k : κ, ¬ k < k) (h : xs.Pairwise (f · < f ·)) :
    xs.Nodup := by
  refine h.imp ?_
  rintro x y hlt rfl
  exact hirrefl _ hlt

end Increasing

theorem Position.lt_irrefl (p : Position) : ¬ p < p := by
  rw [lt_iff]
  omega

namespace Outline

theorem pairwise_position (source : String) (tab : Nat) :
    (ofSource source tab).tokens.Pairwise (·.position < ·.position) := by
  have h := Lexer.scan_increasing tab .origin source.toList
  rw [← tokenize, ← map_toToken_numberFrom 0 (tokenize source tab), List.pairwise_map] at h
  exact h

variable {ts : List Token}

theorem mem_tokens {n : Nat} {s : Statement} {t : Lexeme}
    (hs : (ofTokens (numberTokens ts)).statements[n]? = some s) (ht : t ∈ s.tokens) :
    t ∈ (ofTokens (numberTokens ts)).tokens := by
  have hmem : t ∈ (ofTokens (numberTokens ts)).statements.flatMap (·.tokens) :=
    List.mem_flatMap.2 ⟨s, List.mem_of_getElem? hs, ht⟩
  rw [flatMap_tokens_statements] at hmem
  exact (List.mem_filter.1 hmem).1

theorem exists_statement_of_isCode {t : Lexeme} (ht : t ∈ (ofTokens (numberTokens ts)).tokens)
    (hcode : t.isCode = true) :
    ∃ (n : Nat) (s : Statement),
      (ofTokens (numberTokens ts)).statements[n]? = some s ∧ t ∈ s.tokens := by
  have hmem : t ∈ (ofTokens (numberTokens ts)).tokens.filter (·.isCode) :=
    List.mem_filter.2 ⟨ht, hcode⟩
  rw [← flatMap_tokens_statements] at hmem
  obtain ⟨s, hs, hts⟩ := List.mem_flatMap.1 hmem
  obtain ⟨n, hn⟩ := List.getElem?_of_mem hs
  exact ⟨n, s, hn, hts⟩

/-- What the statements contribute in the order of their tokens stands in the order of the script.
-/
theorem pairwise_flatMap_statements {β κ : Type} [LT κ] {f : Statement × Nat → List β}
    {place : β → κ} {key : Lexeme → κ}
    (hkey : (ofTokens (numberTokens ts)).tokens.Pairwise (key · < key ·))
    (h : ∀ s n, ((f (s, n)).map place).Sublist (s.tokens.map key)) :
    ((ofTokens (numberTokens ts)).statements.zipIdx.flatMap f).Pairwise (place · < place ·) := by
  have hsub : (((ofTokens (numberTokens ts)).statements.zipIdx.flatMap f).map place).Sublist
      ((ofTokens (numberTokens ts)).tokens.map key) := by
    rw [List.map_flatMap]
    refine (List.Sublist.flatMap_right _ fun x _ => h x.1 x.2).trans ?_
    rw [← List.flatMap_map Prod.fst fun s : Statement => s.tokens.map key, List.zipIdx_map_fst,
      ← List.map_flatMap, flatMap_tokens_statements]
    exact List.filter_sublist.map key
  exact List.pairwise_map.1 ((List.pairwise_map.2 hkey).sublist hsub)

end Outline

namespace Index

variable {source : String} {tab : Nat}

theorem mem_declarations_iff {o : Outline} {d : Declaration} :
    d ∈ (ofOutline o).declarations ↔
      ∃ (n : Nat) (s : Statement), o.statements[n]? = some s ∧ d ∈ s.declarations n := by
  simp only [ofOutline, List.mem_flatMap, Prod.exists, List.mem_zipIdx_iff_getElem?]
  exact exists_comm

theorem mem_references_iff {o : Outline} {r : Reference} :
    r ∈ (ofOutline o).references ↔
      ∃ (n : Nat) (s : Statement), o.statements[n]? = some s ∧
        ∃ t ∈ s.uses (parametersAt o.functions n), Reference.ofToken n t = r := by
  simp only [ofOutline, List.mem_flatMap, Prod.exists, List.mem_zipIdx_iff_getElem?, List.mem_map]
  exact exists_comm

theorem pairwise_declarations (source : String) (tab : Nat) :
    (ofOutline (.ofSource source tab)).declarations.Pairwise (·.position < ·.position) := by
  refine Outline.pairwise_flatMap_statements (Outline.pairwise_position source tab) fun s n => ?_
  obtain ⟨kind, hkind⟩ := s.declarations_eq n
  simp only [hkind, List.map_map]
  exact ((List.sublist_append_left _ _).trans (s.sublist_uses ∅)).map (·.position)

theorem uses_map_sublist {κ : Type} (s : Statement) (parameters : NameSet) (key : Lexeme → κ) :
    ((s.uses parameters).map key).Sublist (s.tokens.map key) :=
  ((List.sublist_append_right _ _).trans (s.sublist_uses parameters)).map key

theorem pairwise_references (source : String) (tab : Nat) :
    (ofOutline (.ofSource source tab)).references.Pairwise (·.position < ·.position) := by
  refine Outline.pairwise_flatMap_statements (Outline.pairwise_position source tab) fun s n => ?_
  simp only [List.map_map]
  exact uses_map_sublist s _ (·.position)

theorem pairwise_token_references (source : String) (tab : Nat) :
    (ofOutline (.ofSource source tab)).references.Pairwise (·.token < ·.token) := by
  refine Outline.pairwise_flatMap_statements (pairwise_index_numberFrom 0 _) fun s n => ?_
  simp only [List.map_map]
  exact uses_map_sublist s _ (·.index)

variable {n : Nat} {s : Statement} {t : Lexeme}

/-- A declared token has one declaration. -/
theorem exists_declaration (hs : (Outline.ofSource source tab).statements[n]? = some s)
    (ht : t ∈ s.declared) :
    ∃ d, (ofOutline (.ofSource source tab)).declarations.filter (·.position == t.position) = [d] ∧
      d.name = t.text ∧ d.statement = n := by
  obtain ⟨kind, hkind⟩ := s.declarations_eq n
  have hmem : (⟨t.text, t.position, kind t, n⟩ : Declaration) ∈ s.declarations n := by
    rw [hkind]
    exact List.mem_map.2 ⟨t, ht, rfl⟩
  exact ⟨_, filter_eq_singleton Position.lt_irrefl (pairwise_declarations source tab)
    (mem_declarations_iff.2 ⟨n, s, hs, hmem⟩), rfl, rfl⟩

/-- A declaration stands at a declared token. -/
theorem exists_declared {o : Outline} {d : Declaration} (hd : d ∈ (ofOutline o).declarations) :
    ∃ (m : Nat) (s' : Statement), o.statements[m]? = some s' ∧
      ∃ u ∈ s'.declared, u.position = d.position ∧ u.text = d.name := by
  obtain ⟨m, s', hs', hd⟩ := mem_declarations_iff.1 hd
  obtain ⟨kind, hkind⟩ := s'.declarations_eq m
  rw [hkind] at hd
  obtain ⟨u, hu, rfl⟩ := List.mem_map.1 hd
  exact ⟨m, s', hs', u, hu, rfl, rfl⟩

/-- A token that is not declared has no declaration. -/
theorem no_declaration (hs : (Outline.ofSource source tab).statements[n]? = some s)
    (ht : t ∈ s.tokens) (hnot : t ∉ s.declared) :
    (ofOutline (.ofSource source tab)).declarations.filter (·.position == t.position) = [] := by
  refine List.filter_eq_nil_iff.2 fun d hd heq => ?_
  obtain ⟨m, s', hs', u, hu, hposition, -⟩ := exists_declared hd
  have hu' := Statement.mem_tokens_of_mem_declared hu
  obtain rfl : u = t := eq_of_pairwise_key Position.lt_irrefl (Outline.pairwise_position source tab)
    (Outline.mem_tokens hs ht) (Outline.mem_tokens hs' hu') (hposition.trans (eq_of_beq heq))
  obtain rfl := Outline.statement_unique hs hs' ht hu' rfl
  obtain rfl : s = s' := Option.some.inj (hs.symm.trans hs')
  exact hnot hu

/-- A used token has one reference. -/
theorem exists_reference (hs : (Outline.ofSource source tab).statements[n]? = some s)
    (ht : t ∈ s.uses (parametersAt (Outline.ofSource source tab).functions n)) :
    ∃ r, (ofOutline (.ofSource source tab)).references.filter (·.token == t.index) = [r] ∧
      r.name = t.text ∧ r.position = t.position ∧ r.statement = n :=
  ⟨_, filter_eq_singleton Nat.lt_irrefl (pairwise_token_references source tab)
    (mem_references_iff.2 ⟨n, s, hs, t, ht, rfl⟩), rfl, rfl, rfl⟩

/-- A token that is not used has no reference. -/
theorem no_reference (hs : (Outline.ofSource source tab).statements[n]? = some s)
    (ht : t ∈ s.tokens)
    (hnot : t ∉ s.uses (parametersAt (Outline.ofSource source tab).functions n)) :
    (ofOutline (.ofSource source tab)).references.filter (·.token == t.index) = [] := by
  refine List.filter_eq_nil_iff.2 fun r hr heq => ?_
  obtain ⟨m, s', hs', u, hu, rfl⟩ := mem_references_iff.1 hr
  have hu' := Statement.mem_tokens_of_mem_uses hu
  have hindex : u.index = t.index := eq_of_beq heq
  obtain rfl : u = t := eq_of_pairwise_key Nat.lt_irrefl (pairwise_index_numberFrom 0 _)
    (Outline.mem_tokens hs ht) (Outline.mem_tokens hs' hu') hindex
  obtain rfl := Outline.statement_unique hs hs' ht hu' rfl
  obtain rfl : s = s' := Option.some.inj (hs.symm.trans hs')
  exact hnot hu

/-- No token is declared and used. -/
theorem not_mem_uses_of_mem_declared (hs : (Outline.ofSource source tab).statements[n]? = some s)
    (parameters : NameSet) (ht : t ∈ s.declared) : t ∉ s.uses parameters := by
  intro huse
  have hnodup := (Outline.nodup_tokens hs).sublist (s.sublist_uses parameters)
  exact (List.nodup_append.1 hnodup).2.2 t ht t huse rfl

/-! ## Why an identifier has no role -/

/-- Why an identifier of statement `s`, of number `n`, neither declares nor uses a name. -/
inductive Overlooked (x : Index) (s : Statement) (n : Nat) (t : Lexeme) : Prop
  /-- It is a keyword. -/
  | keyword (h : t.text ∈ Vocabulary.keywords)
  /-- A point precedes it where uses are looked for. -/
  | member {c : Scan} {front back : List Lexeme} (hc : c ∈ s.scans (parametersAt x.functions n))
      (hcut : c.tokens = front ++ t :: back)
      (hpoint : front.getLast?.any (·.isPunctuation ".") = true)
  /-- It is a builtin namespace, and a point follows it where uses are looked for. -/
  | builtin {c : Scan} {front back : List Lexeme} (hc : c ∈ s.scans (parametersAt x.functions n))
      (hcut : c.tokens = front ++ t :: back) (h : t.text ∈ Vocabulary.builtinNamespaces)
      (hpoint : back.head?.any (·.isPunctuation ".") = true)
  /-- It names an argument: inside brackets `=` follows it where uses are looked for. -/
  | argumentName {c : Scan} {front back : List Lexeme}
      (hc : c ∈ s.scans (parametersAt x.functions n)) (hcut : c.tokens = front ++ t :: back)
      (hdepth : 0 < depthBehind (front.map (·.toToken)) 0)
      (hequals : back.head?.any (·.isOperator "=") = true)
  /-- It is a parameter of the function whose body it is in. -/
  | parameter {f : FunctionDef} (hf : f ∈ x.functions)
      (hbody : f.hasInBlock n = true ∨ (f.statement = n ∧ t ∈ f.header.body))
      (h : t.text ∈ f.header.parameters)
  /-- It is part of a function header. -/
  | header (h : s.InHeader t)
  /-- It is part of what stands in front of an assignment operator. -/
  | front (h : s.InFront t)

theorem exists_function_of_mem_parametersAt {functions : List FunctionDef} {name : String}
    (h : name ∈ parametersAt functions n) :
    ∃ f ∈ functions, f.hasInBlock n = true ∧ name ∈ f.header.parameters := by
  rw [parametersAt] at h
  split at h
  case h_1 f hf =>
    have hblock := List.find?_some hf
    exact ⟨f, List.mem_of_find?_eq_some hf, hblock, h⟩
  case h_2 => exact absurd h (NameSet.not_mem_empty name)

theorem exists_function_of_header {o : Outline} {header : FunctionHeader}
    (hs : o.statements[n]? = some s) (h : s.functionHeader? = some header) :
    ∃ f ∈ o.functions, f.statement = n ∧ f.header = header := by
  have hfunction : o.function? s n = some _ := congrArg (Option.map _) h
  exact ⟨_, List.mem_filterMap.2 ⟨(s, n), List.mem_zipIdx_iff_getElem?.2 hs, hfunction⟩, rfl, rfl⟩

/-- An identifier that is looked through and hidden is a parameter of the function around it. -/
theorem overlooked_of_mem_hidden {o : Outline} (hs : o.statements[n]? = some s) {c : Scan}
    (hc : c ∈ s.scans (parametersAt o.functions n)) (ht : t ∈ c.tokens) (h : t.text ∈ c.hidden) :
    Overlooked (ofOutline o) s n t := by
  rcases Statement.mem_hidden_cases hc h with hname | ⟨header, hheader, htokens, hname⟩
  · obtain ⟨f, hf, hblock, hname⟩ := exists_function_of_mem_parametersAt hname
    exact .parameter hf (Or.inl hblock) hname
  · obtain ⟨f, hf, hstatement, rfl⟩ := exists_function_of_header hs hheader
    exact .parameter hf (Or.inr ⟨hstatement, htokens ▸ ht⟩) hname

/-- An identifier of a statement is declared, used or overlooked. -/
theorem overlooked_of_no_role {o : Outline} (hs : o.statements[n]? = some s) (ht : t ∈ s.tokens)
    (hname : t.isIdentifier = true) (hdeclared : t ∉ s.declared)
    (huse : t ∉ s.uses (parametersAt o.functions n)) : Overlooked (ofOutline o) s n t := by
  have hoperator : t.kind ≠ .operator := by
    rw [Token.isIdentifier_iff.1 hname]
    decide
  rcases Statement.cases_of_mem_tokens ht hoperator (parametersAt o.functions n) with
    h | ⟨c, hc, htc⟩ | h | h
  · exact absurd h hdeclared
  · obtain ⟨front, back, hcut⟩ := List.append_of_mem htc
    have hnot : t ∉ uses c.hidden (front ++ t :: back) := by
      intro hmem
      rw [← hcut] at hmem
      refine huse ?_
      rw [Statement.uses_eq]
      exact List.mem_flatMap.2 ⟨c, hc, hmem⟩
    rcases overlooked_of_not_mem_uses hname hnot with h | ⟨hpoint, h⟩ | ⟨hdepth, h⟩ | h | h
    · exact .member hc hcut h
    · exact .builtin hc hcut h hpoint
    · exact .argumentName hc hcut hdepth h
    · exact .keyword h
    · exact overlooked_of_mem_hidden hs hc htc h
  · exact .header h
  · exact .front h

/-! ## Roles -/

/-- What an identifier of statement `s`, of number `n`, does. -/
inductive Role (x : Index) (s : Statement) (n : Nat) (t : Lexeme) : Prop
  /-- It has one declaration and no reference. -/
  | declares {d : Declaration} (hd : x.declarations.filter (·.position == t.position) = [d])
      (hname : d.name = t.text) (hstatement : d.statement = n)
      (hnone : x.references.filter (·.token == t.index) = []) (h : s.Declares t)
  /-- It has one reference and no declaration. -/
  | uses {r : Reference} (hr : x.references.filter (·.token == t.index) = [r])
      (hname : r.name = t.text) (hposition : r.position = t.position) (hstatement : r.statement = n)
      (hnone : x.declarations.filter (·.position == t.position) = [])
  /-- It has neither. -/
  | none (hdeclaration : x.declarations.filter (·.position == t.position) = [])
      (hreference : x.references.filter (·.token == t.index) = []) (h : Overlooked x s n t)

theorem role_of_mem_tokens (hs : (Outline.ofSource source tab).statements[n]? = some s)
    (ht : t ∈ s.tokens) (hname : t.isIdentifier = true) :
    Role (ofOutline (.ofSource source tab)) s n t := by
  by_cases hdeclared : t ∈ s.declared
  · obtain ⟨d, hd, hname, hstatement⟩ := exists_declaration hs hdeclared
    have hnone := no_reference hs ht (not_mem_uses_of_mem_declared hs _ hdeclared)
    exact .declares hd hname hstatement hnone (Statement.mem_declared_iff.1 hdeclared)
  · have hnone := no_declaration hs ht hdeclared
    by_cases huse : t ∈ s.uses (parametersAt (Outline.ofSource source tab).functions n)
    · obtain ⟨r, hr, hname, hposition, hstatement⟩ := exists_reference hs huse
      exact .uses hr hname hposition hstatement hnone
    · exact .none hnone (no_reference hs ht huse) (overlooked_of_no_role hs ht hname hdeclared huse)

/-- Every identifier of an outline is accounted for in an index. -/
structure Accounted (o : Outline) (x : Index) : Prop where
  /-- An identifier stands in a statement and has one of the roles. -/
  identifiers : ∀ t ∈ o.tokens, t.kind = .identifier →
    ∃ (n : Nat) (s : Statement), o.statements[n]? = some s ∧ t ∈ s.tokens ∧ Role x s n t
  /-- A declaration stands at an identifier. -/
  declarations : ∀ d ∈ x.declarations,
    ∃ t ∈ o.tokens, t.kind = .identifier ∧ t.position = d.position ∧ t.text = d.name
  /-- A reference stands at an identifier. -/
  references : ∀ r ∈ x.references, ∃ t ∈ o.tokens, t.kind = .identifier ∧ t.index = r.token ∧
    t.position = r.position ∧ t.text = r.name
  /-- Declarations stand in strictly increasing order. -/
  declarations_increase : x.declarations.Pairwise (·.position < ·.position)
  /-- References stand in strictly increasing order. -/
  references_increase : x.references.Pairwise (·.position < ·.position)

/-- Whatever a script looks like, every identifier is accounted for exactly once. -/
theorem identifiers_accounted (source : String) (tab : Nat) :
    Accounted (.ofSource source tab) (ofOutline (.ofSource source tab)) where
  identifiers t ht hkind := by
    obtain ⟨n, s, hs, hts⟩ := Outline.exists_statement_of_isCode ht (by simp [Token.isCode, hkind])
    exact ⟨n, s, hs, hts, role_of_mem_tokens hs hts (Token.isIdentifier_iff.2 hkind)⟩
  declarations d hd := by
    obtain ⟨n, s, hs, t, ht, hposition, htext⟩ := exists_declared hd
    exact ⟨t, Outline.mem_tokens hs (Statement.mem_tokens_of_mem_declared ht),
      Token.isIdentifier_iff.1 (Statement.isIdentifier_of_mem_declared ht), hposition, htext⟩
  references r hr := by
    obtain ⟨n, s, hs, t, ht, rfl⟩ := mem_references_iff.1 hr
    exact ⟨t, Outline.mem_tokens hs (Statement.mem_tokens_of_mem_uses ht),
      Token.isIdentifier_iff.1 (Statement.isIdentifier_of_mem_uses ht), rfl, rfl, rfl⟩
  declarations_increase := pairwise_declarations source tab
  references_increase := pairwise_references source tab

/-- A parameter in the body of its function has no role; a default value in the header has one. -/
theorem identifiers_accounted_parameter :
    let o := Outline.ofSource "f(x, y = k) => x.z" 1
    let x := ofOutline o
    let parameter : Lexeme := ⟨⟨.identifier, "x", ⟨1, 16⟩⟩, 9⟩
    let value : Lexeme := ⟨⟨.identifier, "k", ⟨1, 10⟩⟩, 6⟩
    parameter ∈ o.tokens ∧ value ∈ o.tokens ∧
      (∃ (n : Nat) (s : Statement), o.statements[n]? = some s ∧ Overlooked x s n parameter) ∧
      ∃ r, x.references.filter (·.token == 6) = [r] ∧ r.name = "k" := by
  intro o x parameter value
  have hparameter : parameter ∈ o.tokens := by decide +kernel
  have hvalue : value ∈ o.tokens := by decide +kernel
  have hnone : x.declarations.filter (·.position == parameter.position) = [] ∧
      x.references.filter (·.token == parameter.index) = [] := by decide +kernel
  have hone : x.references.filter (·.token == value.index) ≠ [] := by decide +kernel
  have haccounted := identifiers_accounted "f(x, y = k) => x.z" 1
  refine ⟨hparameter, hvalue, ?_, ?_⟩
  · obtain ⟨n, s, hs, -, hrole⟩ := haccounted.identifiers parameter hparameter rfl
    cases hrole with
    | declares hd => exact absurd (hnone.1.symm.trans hd) (by simp)
    | uses hr => exact absurd (hnone.2.symm.trans hr) (by simp)
    | none _ _ h => exact ⟨n, s, hs, h⟩
  · obtain ⟨n, s, -, -, hrole⟩ := haccounted.identifiers value hvalue rfl
    cases hrole with
    | declares _ _ _ h => exact absurd h hone
    | uses hr hname => exact ⟨_, hr, hname⟩
    | none _ h => exact absurd h hone

end Index

end ChartLint
