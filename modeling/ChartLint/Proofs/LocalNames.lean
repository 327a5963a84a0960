import ChartLint.Proofs.InBounds
import ChartLint.Proofs.LabelReachability
import Mathlib.Logic.Relation

/-!
# Locals of functions stay apart

A local of a function is written `function::name` in flows.  A word holds no colon, so what is
written tells the two names apart (`localKey_injective`), and it is the name of nothing outside
functions.  So locals of functions of different names are different nodes of the flow graph, and so
are a local and a name outside functions.  The name is all that a function gives to its locals:
functions of one name share them.

*Owners.*  A header is not indented and everything in its block is, so a statement stands in the
header or the block of one function at most (`eq_of_covers`).

*Labels.*  The labels of a name depend on the flows into the names that it reads, directly or
through others, and stop at control inputs.  So whatever is assigned to a local changes the labels
of those names only that read the local (`labels_reassign`).
-/

namespace ChartLint

/-! ## Words -/

namespace Lexer

/-- A word is made of word characters. -/
theorem isWordChar_of_identifier {c : Char} {cs : List Char} (h : (shape c cs).kind = .identifier) :
    ∀ d ∈ c :: cs.take (shape c cs).extent, Text.isWordChar d = true := by
  revert h
  apply shape_elim (P := fun s => s.kind = .identifier →
    ∀ d ∈ c :: cs.take s.extent, Text.isWordChar d = true)
  case word =>
    intro hc _ d hd
    rcases List.mem_cons.1 hd with rfl | hd
    · rcases hc with hc | rfl
      · simp [Text.isWordChar, hc]
      · rfl
    · exact of_mem_take_runLength hd
  case color => rintro kind (rfl | rfl) - - h <;> cases h
  all_goals
    intros
    contradiction

end Lexer

namespace Outline

variable {source : String} {tab : Nat}

/-- The name is a word of the script. -/
def HasWord (o : Outline) (name : String) : Prop :=
  ∃ t ∈ o.tokens, t.isIdentifier = true ∧ t.text = name

theorem HasWord.colon_not_mem {name : String} (h : (read source tab).HasWord name) :
    ':' ∉ name.toList := by
  obtain ⟨t, ht, hword, rfl⟩ := h
  have hkind := Token.isIdentifier_iff.1 hword
  rw [read_eq] at ht
  obtain ⟨u, hscan, hwrap⟩ := exists_of_mem_readTokens (toToken_mem ht)
  rw [← hwrap] at hkind ⊢
  rw [tokenize, Lexer.scan_eq_content, List.mem_append, List.mem_singleton] at hscan
  rcases hscan with hscan | hend
  · obtain ⟨c, cs, -, hshape, htext⟩ := Lexer.exists_shape_of_mem_content hscan
    intro hcolon
    have hmem : ':' ∈ u.text.toList := hcolon
    rw [htext] at hmem
    have := Lexer.isWordChar_of_identifier (hshape.symm.trans hkind) ':' hmem
    exact absurd this (by decide)
  · rw [hend] at hkind
    cases hkind

theorem hasWord_of_mem_tokens {n : Nat} {s : Statement} {t : Lexeme}
    (hs : (read source tab).statements[n]? = some s) (ht : t ∈ s.tokens)
    (hword : t.isIdentifier = true) : (read source tab).HasWord t.text := by
  rw [read_eq] at hs ⊢
  exact ⟨t, mem_tokens hs ht, hword, rfl⟩

end Outline

/-! ## Functions and their blocks -/

theorem Span.contains_iff {s : Span} {n : Nat} :
    s.contains n = true ↔ s.start ≤ n ∧ n < s.stop := by
  rw [contains, Bool.and_eq_true, decide_eq_true_eq, decide_eq_true_eq]

namespace Outline

variable {o : Outline} {f g : FunctionDef}

/-- What is in a block is indented further than the statement above it. -/
theorem exists_indented_of_block {n m : Nat} {s : Statement} (hs : o.statements[n]? = some s)
    (h : (o.block n).contains m = true) :
    ∃ s', o.statements[m]? = some s' ∧ s.indent < s'.indent := by
  obtain ⟨hn, rfl⟩ := List.getElem?_eq_some_iff.1 hs
  rw [block, List.drop_eq_getElem_cons hn, Span.contains_iff] at h
  obtain ⟨hstart, hstop⟩ := h
  obtain ⟨i, rfl⟩ : ∃ i, m = n + 1 + i := Nat.exists_eq_add_of_le hstart
  have hi := Nat.lt_of_add_lt_add_left hstop
  have hindent := List.mem_takeWhile_imp (List.getElem_mem hi)
  refine ⟨_, ?_, of_decide_eq_true hindent⟩
  rw [← List.getElem?_drop]
  conv_lhs =>
    rw [← List.takeWhile_append_dropWhile (p := fun st => o.statements[n].indent < st.indent)
      (l := o.statements.drop (n + 1))]
  rw [List.getElem?_append_left hi, List.getElem?_eq_getElem hi]

/-- A function is read off the statement of its number, which is not indented. -/
theorem exists_of_mem_functions (hf : f ∈ o.functions) :
    ∃ s, o.statements[f.statement]? = some s ∧ s.functionHeader? = some f.header ∧
      s.indent = 0 ∧ o.function? s f.statement = some f := by
  obtain ⟨⟨s, n⟩, hmem, hfunction⟩ := List.mem_filterMap.1 hf
  obtain ⟨header, hheader, rfl⟩ := Option.map_eq_some_iff.1 hfunction
  obtain ⟨hindent, -⟩ := Statement.exists_of_functionHeader? hheader
  exact ⟨s, List.mem_zipIdx_iff_getElem?.1 hmem, hheader, hindent, hfunction⟩

/-- The block of a function is the one under its header, or it is empty. -/
theorem block_of_mem_functions (hf : f ∈ o.functions) :
    f.block = o.block f.statement ∨ f.block = ⟨f.statement + 1, f.statement + 1⟩ := by
  obtain ⟨s, -, -, -, hfunction⟩ := exists_of_mem_functions hf
  obtain ⟨header, -, heq⟩ := Option.map_eq_some_iff.1 hfunction
  rw [← heq]
  dsimp only
  split
  · exact Or.inl rfl
  · exact Or.inr rfl

theorem covers_iff {n : Nat} :
    f.covers n = true ↔ n = f.statement ∨ f.block.contains n = true := by
  rw [FunctionDef.covers, Bool.or_eq_true, beq_iff_eq]

/-- A function starts at its header, and what it covers behind the header is indented. -/
theorem exists_indented_of_covers (hf : f ∈ o.functions) {n m : Nat} (hn : f.covers n = true)
    (hlt : f.statement < m) (hle : m ≤ n) : ∃ s, o.statements[m]? = some s ∧ 0 < s.indent := by
  obtain ⟨s, hs, -, hindent, -⟩ := exists_of_mem_functions hf
  obtain ⟨-, hstart, -⟩ := function_bounds hf
  rcases covers_iff.1 hn with rfl | hn
  · exact absurd hlt (Nat.not_lt_of_le hle)
  · rw [Span.contains_iff] at hn
    have hm : f.block.contains m = true :=
      Span.contains_iff.2 ⟨hstart ▸ hlt, Nat.lt_of_le_of_lt hle hn.2⟩
    rcases block_of_mem_functions hf with hblock | hblock
    · rw [hblock] at hm
      obtain ⟨s', hs', hdeeper⟩ := exists_indented_of_block hs hm
      exact ⟨s', hs', hindent ▸ hdeeper⟩
    · rw [hblock, Span.contains_iff] at hm
      exact absurd hm.2 (Nat.not_lt_of_le hm.1)

theorem statement_le_of_covers (hf : f ∈ o.functions) {n : Nat} (hn : f.covers n = true) :
    f.statement ≤ n := by
  obtain ⟨-, hstart, -⟩ := function_bounds hf
  rcases covers_iff.1 hn with rfl | hn
  · exact Nat.le_refl _
  · rw [Span.contains_iff, hstart] at hn
    exact Nat.le_of_succ_le hn.1

theorem not_lt_of_covers (hf : f ∈ o.functions) (hg : g ∈ o.functions) {n : Nat}
    (hfn : f.covers n = true) (hgn : g.covers n = true) : ¬ f.statement < g.statement := by
  intro hlt
  obtain ⟨s, hs, -, hindent, -⟩ := exists_of_mem_functions hg
  obtain ⟨s', hs', hpos⟩ := exists_indented_of_covers hf hfn hlt (statement_le_of_covers hg hgn)
  obtain rfl : s = s' := Option.some.inj (hs.symm.trans hs')
  exact Nat.ne_of_gt hpos hindent

/-- A statement belongs to one function at most. -/
theorem eq_of_covers (hf : f ∈ o.functions) (hg : g ∈ o.functions) {n : Nat}
    (hfn : f.covers n = true) (hgn : g.covers n = true) : f = g := by
  have heq : f.statement = g.statement := Nat.le_antisymm
    (Nat.le_of_not_lt (not_lt_of_covers hg hf hgn hfn))
    (Nat.le_of_not_lt (not_lt_of_covers hf hg hfn hgn))
  obtain ⟨s, hs, -, -, hfunction⟩ := exists_of_mem_functions hf
  obtain ⟨s', hs', -, -, hfunction'⟩ := exists_of_mem_functions hg
  rw [← heq] at hs' hfunction'
  obtain rfl : s = s' := Option.some.inj (hs.symm.trans hs')
  exact Option.some.inj (hfunction.symm.trans hfunction')

/-- The name of a function is a word of the script. -/
theorem hasWord_name {source : String} {tab : Nat} (hf : f ∈ (read source tab).functions) :
    (read source tab).HasWord f.name := by
  obtain ⟨s, hs, hheader, -⟩ := exists_of_mem_functions hf
  obtain ⟨before, inside, arrow, htokens, hname, -⟩ :=
    Statement.exists_parts_of_functionHeader? hheader
  refine hasWord_of_mem_tokens hs ?_ hname
  rw [htokens]
  exact List.mem_append_right before List.mem_cons_self

end Outline

/-! ## How locals are written -/

namespace FunctionDef

variable {f g : FunctionDef}

/-- How a local of a function is written in flows. -/
def localKey (f : FunctionDef) (name : String) : String :=
  f.name ++ "::" ++ name

theorem toList_localKey (f : FunctionDef) (name : String) :
    (f.localKey name).toList = f.name.toList ++ ':' :: ':' :: name.toList := by
  rw [localKey, String.toList_append, String.toList_append, List.append_assoc]
  rfl

/-- Two words with a colon between them are told apart. -/
theorem localKey_injective (hf : ':' ∉ f.name.toList) (hg : ':' ∉ g.name.toList) {a b : String}
    (h : f.localKey a = g.localKey b) : f.name = g.name ∧ a = b := by
  have hlist := congrArg String.toList h
  rw [toList_localKey, toList_localKey] at hlist
  -- the name of the function is what stands in front of the first colon
  have hfront (cs ds : List Char) (hcs : ':' ∉ cs) :
      (cs ++ ':' :: ds).takeWhile (· != ':') = cs := by
    have hall : ∀ c ∈ cs, (c != ':') = true :=
      fun c hc => bne_iff_ne.2 fun heq => hcs (heq ▸ hc)
    rw [List.takeWhile_append_of_pos hall]
    simp
  have hname : f.name.toList = g.name.toList := by
    rw [← hfront _ _ hf, hlist, hfront _ _ hg]
  rw [hname, List.append_cancel_left_eq] at hlist
  simp only [List.cons.injEq, true_and] at hlist
  exact ⟨String.toList_inj.1 hname, String.toList_inj.1 hlist⟩

theorem localKey_ne {name : String} (h : ':' ∉ name.toList) (f : FunctionDef) (a : String) :
    f.localKey a ≠ name := by
  rintro rfl
  rw [toList_localKey] at h
  simp at h

end FunctionDef

namespace Index

variable {f : FunctionDef}

/-- In the header and the block of a function its locals are written with its name. -/
theorem key_of_mem_locals {o : Outline} (hf : f ∈ o.functions) {n : Nat} (hn : f.covers n = true)
    {name : String} (h : name ∈ f.locals) : (ofOutline o).key n name = f.localKey name := by
  have howner : (ofOutline o).owner? n = some f := by
    have hsome : ((ofOutline o).owner? n).isSome = true := List.find?_isSome.2 ⟨f, hf, hn⟩
    obtain ⟨g, hg⟩ := Option.isSome_iff_exists.1 hsome
    have hcovers := List.find?_some hg
    rw [Outline.eq_of_covers hf (List.mem_of_find?_eq_some hg) hn hcovers]
    exact hg
  rw [key, howner]
  simp only
  rw [if_pos (NameSet.contains_iff.2 h), FunctionDef.localKey]

/-- Outside functions a name is written as it is. -/
theorem key_of_not_covers {x : Index} {n : Nat} (h : ∀ f ∈ x.functions, f.covers n = false)
    (name : String) : x.key n name = name := by
  have howner : x.owner? n = none := by
    rw [owner?, List.find?_eq_none]
    simpa using h
  rw [key, howner]

end Index

/-! ## Labels of names that do not read a local -/

/-- What a name carries it carries with other reads too, if all names on the way keep theirs. -/
theorem Carries.mono {inputs : NameSet} {reads reads' : String → String → Prop}
    (among : String → Prop)
    (hclosed : ∀ key source, among key → key ∉ inputs → reads key source → among source)
    (hkeeps : ∀ key source, among key → reads key source → reads' key source) {key c : String}
    (hkey : among key) (h : Carries inputs reads key c) : Carries inputs reads' key c := by
  induction h with
  | input hc => exact .input hc
  | source hinput hread _ ih =>
      exact .source hinput (hkeeps _ _ hkey hread) (ih (hclosed _ _ hkey hinput hread))

/-- A name carries the same if all names on the way read the same. -/
theorem Carries.congr {inputs : NameSet} {reads reads' : String → String → Prop}
    (among : String → Prop)
    (hclosed : ∀ key source, among key → key ∉ inputs → reads key source → among source)
    (hagree : ∀ key source, among key → (reads key source ↔ reads' key source)) {key c : String}
    (hkey : among key) : Carries inputs reads key c ↔ Carries inputs reads' key c := by
  constructor
  · exact mono among hclosed (fun key source hkey => (hagree key source hkey).1) hkey
  · refine mono among ?_ (fun key source hkey => (hagree key source hkey).2) hkey
    intro key source hkey hinput hread
    exact hclosed key source hkey hinput ((hagree key source hkey).2 hread)

namespace FlowGraph

/-- The first name reads the second, directly or through names that are no control inputs. -/
def Reads (g : FlowGraph) : String → String → Prop :=
  Relation.TransGen fun key source => key ∉ g.inputs ∧ source ∈ g.sources key

/-- The graph with other flows into a name. -/
def reassign (g : FlowGraph) (key : String) (reads : List (List String)) : FlowGraph :=
  ofFlows (Flow.without g.flows key ++ reads.map fun names => ⟨key, names, none⟩) g.inputs

theorem sources_reassign {g : FlowGraph} {key other : String} (h : other ≠ key)
    (reads : List (List String)) : (g.reassign key reads).sources other = g.sources other := by
  have hnew : (reads.map fun names => (⟨key, names, none⟩ : Flow)).filter (·.target == other) =
      [] := by
    simp [List.filter_map, Function.comp_def, Ne.symm h]
  have hold : (Flow.without g.flows key).filter (·.target == other) =
      g.flows.filter (·.target == other) := by
    rw [Flow.without, List.filter_filter]
    refine List.filter_congr fun f _ => ?_
    by_cases hf : f.target = other <;> simp [hf, h]
  rw [sources, Flow.sources, Flow.readsOf, reassign, ofFlows, List.filter_append, hnew, hold,
    List.append_nil, sources, Flow.sources, Flow.readsOf]

/-- Whatever is assigned to a name, another one that does not read it keeps its labels. -/
theorem labels_reassign {g : FlowGraph} {key other : String} (hne : other ≠ key)
    (h : ¬ g.Reads other key) (reads : List (List String)) :
    (g.reassign key reads).labels other = g.labels other := by
  refine NameSet.ext fun c => ?_
  rw [mem_labels, mem_labels]
  refine (Carries.congr (fun name => name ≠ key ∧ ¬ g.Reads name key) ?_ ?_ ⟨hne, h⟩).symm
  · rintro name source ⟨-, hnot⟩ hinput hsource
    refine ⟨?_, fun hreads => hnot (.head ⟨hinput, hsource⟩ hreads)⟩
    rintro rfl
    exact hnot (.single ⟨hinput, hsource⟩)
  · rintro name source ⟨hne, -⟩
    rw [sources_reassign hne]

/-- The names are different nodes, and what is assigned to the first one changes the labels of the
second one only if the second one reads the first one. -/
def Apart (g : FlowGraph) (key other : String) : Prop :=
  key ≠ other ∧
    (¬ g.Reads other key → ∀ reads, (g.reassign key reads).labels other = g.labels other)

theorem apart_of_ne {g : FlowGraph} {key other : String} (h : key ≠ other) : g.Apart key other :=
  ⟨h, fun hreads reads => labels_reassign (Ne.symm h) hreads reads⟩

/-- Locals of functions stay apart.  A local is the same node as a local of a function if both
functions have the same name and both locals do; so locals of functions of different names are
apart.  A local is apart from every name in a statement outside functions, and from every
function. -/
theorem locals_stay_apart (source : String) (s : Settings) (patterns : List (String → Bool)) :
    let script := Script.read source s
    let o := script.outline
    let x := script.index
    let g := ofScript o x s patterns
    ∀ f ∈ x.functions, ∀ n, f.covers n = true → ∀ a ∈ f.locals,
      (∀ h ∈ x.functions, ∀ m, h.covers m = true → ∀ b ∈ h.locals,
        (x.key n a = x.key m b ↔ f.name = h.name ∧ a = b) ∧
        (f.name ≠ h.name → g.Apart (x.key n a) (x.key m b))) ∧
      (∀ m st t, o.statements[m]? = some st → (∀ h ∈ x.functions, h.covers m = false) →
        t ∈ st.tokens → t.isIdentifier = true → g.Apart (x.key n a) (x.key m t.text)) ∧
      ∀ h ∈ x.functions, g.Apart (x.key n a) h.name := by
  intro script o x g f hf n hn a ha
  have hkey : x.key n a = f.localKey a := Index.key_of_mem_locals hf hn ha
  have hname := (Outline.hasWord_name hf).colon_not_mem
  refine ⟨?_, ?_, ?_⟩
  · intro h hh m hm b hb
    have hkey' : x.key m b = h.localKey b := Index.key_of_mem_locals hh hm hb
    have hsame : x.key n a = x.key m b ↔ f.name = h.name ∧ a = b := by
      rw [hkey, hkey']
      constructor
      · exact FunctionDef.localKey_injective hname (Outline.hasWord_name hh).colon_not_mem
      · rintro ⟨hfh, rfl⟩
        rw [FunctionDef.localKey, FunctionDef.localKey, hfh]
    exact ⟨hsame, fun hne => apart_of_ne fun heq => hne (hsame.1 heq).1⟩
  · intro m st t hst houtside ht hword
    refine apart_of_ne ?_
    rw [hkey, Index.key_of_not_covers houtside]
    exact FunctionDef.localKey_ne (Outline.hasWord_of_mem_tokens hst ht hword).colon_not_mem f a
  · intro h hh
    refine apart_of_ne ?_
    rw [hkey]
    exact FunctionDef.localKey_ne (Outline.hasWord_name hh).colon_not_mem f a

/-- Two functions and the script around them each have an `x` of their own. -/
theorem locals_stay_apart_functions :
    let s : Settings := { controlInputs := ["a", "b"] }
    let script := Script.read "f() =>\n  x = a\n  x\ng() =>\n  x = b\n  x\nx = 1" s
    let x := script.index
    let g := ofScript script.outline x s []
    (∃ f ∈ x.functions, ∃ h ∈ x.functions, f.covers 1 = true ∧ h.covers 4 = true ∧
      "x" ∈ f.locals ∧ "x" ∈ h.locals ∧ f.name ≠ h.name) ∧
      (∀ f ∈ x.functions, f.covers 6 = false) ∧
      g.Apart (x.key 1 "x") (x.key 4 "x") ∧ g.Apart (x.key 1 "x") (x.key 6 "x") := by
  intro s script x g
  have hfunctions : ∃ f ∈ x.functions, ∃ h ∈ x.functions, f.covers 1 = true ∧ h.covers 4 = true ∧
      "x" ∈ f.locals ∧ "x" ∈ h.locals ∧ f.name ≠ h.name := by decide +kernel
  have houtside : ∀ f ∈ x.functions, f.covers 6 = false := by decide +kernel
  have hstatement : ∃ st ∈ script.outline.statements[6]?, ∃ t ∈ st.tokens,
      t.isIdentifier = true ∧ t.text = "x" := by decide +kernel
  refine ⟨hfunctions, houtside, ?_⟩
  obtain ⟨f, hf, h, hh, hf1, hh4, hfx, hhx, hne⟩ := hfunctions
  obtain ⟨hlocals, hnames, -⟩ := locals_stay_apart
    "f() =>\n  x = a\n  x\ng() =>\n  x = b\n  x\nx = 1" { controlInputs := ["a", "b"] } []
    f hf 1 hf1 "x" hfx
  obtain ⟨st, hst, t, ht, hword, htext⟩ := hstatement
  refine ⟨(hlocals h hh 4 hh4 "x" hhx).2 hne, ?_⟩
  exact htext ▸ hnames 6 st t hst houtside ht hword

/-- Two functions of one name share a local, and with it the labels. -/
theorem locals_shared_by_name :
    let s : Settings := { controlInputs := ["a", "b"] }
    let script := Script.read "f(p) =>\n  x = a\n  x\nf(p, q) =>\n  x = b\n  plot(x)" s
    let x := script.index
    let g := ofScript script.outline x s []
    (∃ f ∈ x.functions, ∃ h ∈ x.functions, f.statement ≠ h.statement ∧ f.covers 1 = true ∧
      h.covers 4 = true ∧ "x" ∈ f.locals ∧ "x" ∈ h.locals) ∧
      x.key 1 "x" = x.key 4 "x" ∧ "a" ∈ g.labels (x.key 4 "x") ∧ "b" ∈ g.labels (x.key 1 "x") := by
  intro s script x g
  have hfunctions : ∃ f ∈ x.functions, ∃ h ∈ x.functions, f.statement ≠ h.statement ∧
      f.covers 1 = true ∧ h.covers 4 = true ∧ "x" ∈ f.locals ∧ "x" ∈ h.locals := by decide +kernel
  have hkeys : x.key 1 "x" = "f::x" ∧ x.key 4 "x" = "f::x" := by decide +kernel
  have hinputs : "a" ∈ g.inputs ∧ "b" ∈ g.inputs ∧ "f::x" ∉ g.inputs := by decide +kernel
  have hsources : "a" ∈ g.sources "f::x" ∧ "b" ∈ g.sources "f::x" := by decide +kernel
  refine ⟨hfunctions, hkeys.1.trans hkeys.2.symm, ?_, ?_⟩
  · rw [hkeys.2, mem_labels]
    exact .source hinputs.2.2 hsources.1 (.input hinputs.1)
  · rw [hkeys.1, mem_labels]
    exact .source hinputs.2.2 hsources.2 (.input hinputs.2.1)

end FlowGraph

end ChartLint
