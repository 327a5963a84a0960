import ChartLint.Proofs.IdentifierRoles
import ChartLint.Proofs.LineTokens
import ChartLint.Flow.Coupling
import ChartLint.Script

/-!
# All numbers stay in range

The passes over a script hand numbers of tokens and statements to each other, cut runs out of lists
by their ends and count brackets and columns down.  `InBounds` collects what makes all of that safe,
whatever the script looks like: a number refers to a token or statement that is there, a run ends
inside the list it is cut out of, and no bracket is counted below zero.

*Guards.*  Where a number is counted down along a run of tokens, the run is told once more with a
guard that gives up instead of going below zero.  The guarded reader of parameter lists never gives
up and reads the same (`ParameterList.readGuarded?_eq`): a list is left with the bracket that closes
it.

*Words.*  Columns and indentations are sums of widths, and the settings do not bound the widths.  A
difference of them is no less than zero where the sums fit a word.  Elsewhere it may be
(`Script.not_inBounds_of_overflow`).

*Characters.*  Texts are cut between characters.  The quote in front of a string is one byte long,
so cutting it off takes the same in bytes as in characters.
-/

namespace ChartLint

/-! ## Brackets of a parameter list -/

namespace ParameterList

/-- Behind a token that does not close the list a bracket is still open. -/
theorem depthAfter_pos {depth : Nat} (h : 0 < depth) {t : Token}
    (ht : ¬ (t.isClosing && t.depthAfter depth == 0) = true) : 0 < t.depthAfter depth := by
  rw [Bool.and_eq_true, beq_iff_eq, not_and] at ht
  cases hclosing : t.isClosing with
  | true => exact Nat.pos_of_ne_zero (ht hclosing)
  | false =>
      rw [Token.depthAfter, hclosing]
      split
      · exact Nat.succ_pos depth
      · exact h

end ParameterList

theorem index_getElem {tokens : List Token} {i : Nat} (h : i < (numberTokens tokens).length) :
    (numberTokens tokens)[i].index = i := by
  simp [numberTokens]

/-- The tokens with numbers from `start` up to `stop` are a run of the tokens. -/
theorem filter_index_between (tokens : List Token) (start stop : Nat) :
    (numberTokens tokens).filter (fun t => start ≤ t.index && t.index < stop) =
      ((numberTokens tokens).drop start).take (stop - start) := by
  have hbefore : ∀ t ∈ (numberTokens tokens).take start, t.index < start := by
    intro t ht
    obtain ⟨i, hi, rfl⟩ := List.mem_take_iff_getElem.1 ht
    rw [index_getElem]
    omega
  have hinside : ∀ t ∈ ((numberTokens tokens).drop start).take (stop - start),
      start ≤ t.index ∧ t.index < stop := by
    intro t ht
    obtain ⟨i, hi, rfl⟩ := List.mem_take_iff_getElem.1 ht
    rw [List.getElem_drop, index_getElem]
    omega
  have hafter : ∀ t ∈ ((numberTokens tokens).drop start).drop (stop - start),
      start ≤ t.index → stop ≤ t.index := by
    intro t ht
    obtain ⟨i, hi, rfl⟩ := List.mem_drop_iff_getElem.1 ht
    rw [List.getElem_drop, index_getElem]
    omega
  calc (numberTokens tokens).filter (fun t => start ≤ t.index && t.index < stop)
      = ((numberTokens tokens).take start ++ (((numberTokens tokens).drop start).take (stop - start)
          ++ ((numberTokens tokens).drop start).drop (stop - start))).filter
          (fun t => start ≤ t.index && t.index < stop) := by
        rw [List.take_append_drop, List.take_append_drop]
    _ = _ := by
        rw [List.filter_append, List.filter_append, List.filter_eq_nil_iff.2, List.filter_eq_self.2,
          List.filter_eq_nil_iff.2, List.nil_append, List.append_nil]
        · intro t ht h
          simp only [Bool.and_eq_true, decide_eq_true_eq] at h
          exact absurd (hafter t ht h.1) (Nat.not_le_of_lt h.2)
        · intro t ht
          simpa using hinside t ht
        · intro t ht h
          simp only [Bool.and_eq_true, decide_eq_true_eq] at h
          exact absurd (hbefore t ht) (Nat.not_lt_of_le h.1)

namespace Call

/-- The numbers of a call increase, and none is above `fallback`. -/
def Ordered (fallback : Nat) (c : Call) : Prop :=
  c.nameStart < c.opening ∧ c.opening < c.closing ∧ c.closing ≤ fallback

theorem members_suffix (ts : List Lexeme) : (members ts).2 <:+ ts := by
  fun_induction members ts with
  | case1 point name ts h more rest hrest ih =>
      rw [hrest] at ih
      exact (ih.trans (List.suffix_cons name ts)).trans (List.suffix_cons point _)
  | case2 point name ts h => exact List.suffix_rfl
  | case3 ts h => exact List.suffix_rfl

theorem closingFrom_bounds {depth fallback low : Nat} {ts : List Lexeme} (hlow : low < fallback)
    (h : ∀ t ∈ ts, low < t.index ∧ t.index < fallback) :
    low < closingFrom depth fallback ts ∧ closingFrom depth fallback ts ≤ fallback := by
  induction ts generalizing depth with
  | nil => exact ⟨hlow, Nat.le_refl _⟩
  | cons t ts ih =>
      obtain ⟨ht, hts⟩ := List.forall_mem_cons.1 h
      rw [closingFrom]
      split
      · exact ⟨ht.1, Nat.le_of_lt ht.2⟩
      · exact ih hts

theorem ordered_of_ofChain? {head : Lexeme} {chain rest : List Lexeme} {fallback : Nat} {c : Call}
    (h : ofChain? head chain rest fallback = some c)
    (hindex : (head :: rest).Pairwise (·.index < ·.index)) (hend : ∀ t ∈ rest, t.index < fallback) :
    c.Ordered fallback ∧ c.nameStart = head.index := by
  cases rest with
  | nil => cases h
  | cons paren args =>
      rw [ofChain?] at h
      split at h
      case isFalse => cases h
      case isTrue =>
        obtain rfl := Option.some.inj h
        obtain ⟨hhead, hindex⟩ := List.pairwise_cons.1 hindex
        obtain ⟨hparen, hargs⟩ := List.forall_mem_cons.1 hend
        refine ⟨⟨hhead paren List.mem_cons_self, closingFrom_bounds hparen fun t ht => ?_⟩, rfl⟩
        exact ⟨(List.pairwise_cons.1 hindex).1 t ht, hargs t ht⟩

/-- The calls among tokens of increasing numbers start at one of the tokens. -/
theorem ordered_of_mem_findFrom {fallback : Nat} {afterPoint : Bool} {ts : List Lexeme}
    (hindex : ts.Pairwise (·.index < ·.index)) (hend : ∀ t ∈ ts, t.index < fallback) {c : Call}
    (hc : c ∈ findFrom fallback afterPoint ts) :
    c.Ordered fallback ∧ ∃ head ∈ ts, c.nameStart = head.index := by
  fun_induction findFrom fallback afterPoint ts with
  | case1 => cases hc
  | case2 afterPoint t ts h ih =>
      have hsuffix := members_suffix ts
      obtain ⟨ht, hts⟩ := List.forall_mem_cons.1 hend
      rcases List.mem_append.1 hc with hc | hc
      · obtain ⟨hordered, hstart⟩ := ordered_of_ofChain? (Option.mem_toList.1 hc)
          (hindex.sublist (hsuffix.sublist.cons_cons t)) fun u hu => hts u (hsuffix.subset hu)
        exact ⟨hordered, t, List.mem_cons_self, hstart⟩
      · obtain ⟨hordered, head, hhead, hstart⟩ := ih ((List.pairwise_cons.1 hindex).2.sublist
          hsuffix.sublist) (fun u hu => hts u (hsuffix.subset hu)) hc
        exact ⟨hordered, head, List.mem_cons_of_mem t (hsuffix.subset hhead), hstart⟩
  | case3 afterPoint t ts h ih =>
      obtain ⟨hordered, head, hhead, hstart⟩ := ih (List.pairwise_cons.1 hindex).2
        (List.forall_mem_cons.1 hend).2 hc
      exact ⟨hordered, head, List.mem_cons_of_mem t hhead, hstart⟩

end Call

namespace Coupling

/-- The first argument starts the tokens, and each argument is a run of them. -/
theorem exists_splitArguments (depth : Nat) (ts : List Lexeme) :
    ∃ first others, splitArguments depth ts = first :: others ∧ first <+: ts ∧
      ∀ arg ∈ others, arg <:+: ts := by
  induction ts generalizing depth with
  | nil => exact ⟨[], [], rfl, List.prefix_rfl, by simp⟩
  | cons t ts ih =>
      rw [splitArguments]
      split
      case isTrue =>
        obtain ⟨first, others, hsplit, hfirst, hothers⟩ := ih depth
        refine ⟨[], first :: others, by rw [hsplit], List.nil_prefix, ?_⟩
        intro arg harg
        rcases List.mem_cons.1 harg with rfl | harg
        · exact hfirst.isInfix.trans (List.suffix_cons t ts).isInfix
        · exact (hothers arg harg).trans (List.suffix_cons t ts).isInfix
      case isFalse =>
        obtain ⟨first, others, hsplit, hfirst, hothers⟩ := ih (t.depthAfter depth)
        refine ⟨t :: first, others, by rw [hsplit], List.cons_prefix_cons.2 ⟨rfl, hfirst⟩, ?_⟩
        exact fun arg harg => (hothers arg harg).trans (List.suffix_cons t ts).isInfix

theorem isInfix_of_mem_splitArguments {depth : Nat} {ts arg : List Lexeme}
    (h : arg ∈ splitArguments depth ts) : arg <:+: ts := by
  obtain ⟨first, others, hsplit, hfirst, hothers⟩ := exists_splitArguments depth ts
  rw [hsplit] at h
  rcases List.mem_cons.1 h with rfl | h
  · exact hfirst.isInfix
  · exact hothers arg h

end Coupling

namespace Outline

variable {ts : List Token}

/-- The end of a script is its last token. -/
theorem exists_endOfInput (hts : EndsOnce ts) :
    ∃ last, (ofTokens (numberTokens ts)).tokens.getLast? = some last ∧ last.kind = .endOfInput ∧
      last.index + 1 = (ofTokens (numberTokens ts)).tokens.length := by
  obtain ⟨body, last, hnumbers, hlast, hindex, -⟩ := hts.exists_numbered
  have htokens : (ofTokens (numberTokens ts)).tokens = body ++ [last] := hnumbers
  refine ⟨last, ?_, hlast, ?_⟩
  · rw [htokens, List.getLast?_concat]
  · rw [htokens, hindex, List.length_append, List.length_singleton]

/-- A code token stands in front of the end of the script. -/
theorem index_lt_of_isCode (hts : EndsOnce ts) {t : Lexeme}
    (ht : t ∈ (ofTokens (numberTokens ts)).tokens) (hcode : t.isCode = true) :
    t.index < (ofTokens (numberTokens ts)).tokens.length - 1 := by
  obtain ⟨last, hlast, hkind, hindex⟩ := exists_endOfInput hts
  obtain ⟨hi, hti⟩ := List.getElem?_eq_some_iff.1 (getElem?_index ht)
  have hne : t.index ≠ last.index := by
    intro heq
    have hsame : t = last := by
      have h := getElem?_index (List.mem_of_getLast? hlast)
      rw [← heq, getElem?_index ht] at h
      exact Option.some.inj h
    rw [hsame, Token.isCode, hkind] at hcode
    cases hcode
  have hi' : t.index < (ofTokens (numberTokens ts)).tokens.length := hi
  omega

theorem ordered_of_mem_calls (hts : EndsOnce ts) {c : Call}
    (hc : c ∈ (ofTokens (numberTokens ts)).calls) :
    c.Ordered ((ofTokens (numberTokens ts)).tokens.length - 1) ∧
      ∃ head ∈ (ofTokens (numberTokens ts)).tokens,
        head.isCode = true ∧ c.nameStart = head.index := by
  have hcode : ∀ t ∈ (ofTokens (numberTokens ts)).tokens.filter (·.isCode),
      t.index < (ofTokens (numberTokens ts)).tokens.length - 1 := by
    intro t ht
    obtain ⟨ht, hcode⟩ := List.mem_filter.1 ht
    exact index_lt_of_isCode hts ht hcode
  obtain ⟨hordered, head, hhead, hstart⟩ :=
    Call.ordered_of_mem_findFrom ((pairwise_index_numberFrom 0 _).filter _) hcode hc
  obtain ⟨hhead, hheadCode⟩ := List.mem_filter.1 hhead
  exact ⟨hordered, head, hhead, hheadCode, hstart⟩

/-- The tokens between the parentheses of a call. -/
theorem filter_contains_eq (ts : List Token) (c : Call) :
    (ofTokens (numberTokens ts)).tokens.filter (c.contains ·.index) =
      ((ofTokens (numberTokens ts)).tokens.drop (c.opening + 1)).take
        (c.closing - (c.opening + 1)) :=
  filter_index_between ts (c.opening + 1) c.closing

/-- An argument of a call is a run of tokens between the parentheses of the call. -/
theorem exists_of_mem_arguments {c : Call}
    (h : c.Ordered ((ofTokens (numberTokens ts)).tokens.length - 1)) {arg : List Lexeme}
    (harg : arg ∈ Coupling.arguments (ofTokens (numberTokens ts)) c) :
    ∃ before after, (ofTokens (numberTokens ts)).tokens = before ++ (arg ++ after) ∧
      c.opening < before.length ∧ before.length + arg.length ≤ c.closing := by
  obtain ⟨left, right, hsplit⟩ := Coupling.isInfix_of_mem_splitArguments harg
  rw [filter_contains_eq] at hsplit
  obtain ⟨-, hopening, hclosing⟩ := h
  have hlength := congrArg List.length hsplit
  simp only [List.length_append, List.length_take, List.length_drop] at hlength
  refine ⟨(ofTokens (numberTokens ts)).tokens.take (c.opening + 1) ++ left,
    right ++ ((ofTokens (numberTokens ts)).tokens.drop (c.opening + 1)).drop
      (c.closing - (c.opening + 1)), ?_, ?_, ?_⟩
  · have hinside : left ++ (arg ++ right) = _ :=
      (List.append_assoc left arg right).symm.trans hsplit
    rw [List.append_assoc, ← List.append_assoc arg, ← List.append_assoc left, hinside,
      List.take_append_drop, List.take_append_drop]
  · rw [List.length_append, List.length_take]
    omega
  · rw [List.length_append, List.length_take]
    omega

/-! ## Blocks and functions -/

theorem block_bounds {o : Outline} {n : Nat} (hn : n < o.statements.length) :
    (o.block n).start = n + 1 ∧ (o.block n).start ≤ (o.block n).stop ∧
      (o.block n).stop ≤ o.statements.length := by
  rw [block, List.drop_eq_getElem_cons hn]
  have hle := (List.takeWhile_prefix (p := fun st => o.statements[n].indent < st.indent)
    (l := o.statements.drop (n + 1))).length_le
  rw [List.length_drop] at hle
  refine ⟨rfl, Nat.le_add_right _ _, ?_⟩
  exact Nat.le_trans (Nat.add_le_add_left hle (n + 1)) (by omega)

theorem function_bounds {o : Outline} {f : FunctionDef} (hf : f ∈ o.functions) :
    f.statement < o.statements.length ∧ f.block.start = f.statement + 1 ∧
      f.block.start ≤ f.block.stop ∧ f.block.stop ≤ o.statements.length := by
  obtain ⟨⟨s, n⟩, hmem, hfunction⟩ := List.mem_filterMap.1 hf
  obtain ⟨hn, -⟩ := List.getElem?_eq_some_iff.1 (List.mem_zipIdx_iff_getElem?.1 hmem)
  obtain ⟨header, -, rfl⟩ := Option.map_eq_some_iff.1 hfunction
  refine ⟨hn, ?_⟩
  simp only
  split
  case isTrue => exact block_bounds hn
  case isFalse => exact ⟨rfl, Nat.le_refl _, hn⟩

end Outline

/-! ## Columns and quotes -/

/-- The tokens of an outline are the tokens it was made of. -/
theorem Outline.toToken_mem {ts : List Token} {t : Lexeme}
    (h : t ∈ (ofTokens (numberTokens ts)).tokens) : t.toToken ∈ ts :=
  mem_of_mem_numberFrom h

namespace LineShape

/-- The operator that a line ends with is cut off its code. -/
theorem suffix_of_trailing? {l : LineShape} {op : String} (h : l.trailing? = some op) :
    op.toList <:+ l.code := by
  rw [trailing?, trailingOperator?] at h
  cases hword : trailingWords.find? (endsWithWord l.code) with
  | some word =>
      rw [hword] at h
      obtain rfl : word = op := Option.some.inj h
      have hends := List.find?_some hword
      rw [endsWithWord, Bool.and_eq_true] at hends
      exact List.isSuffixOf_iff_suffix.1 hends.1
  | none =>
      rw [hword] at h
      have hsymbol : trailingSymbols.find? (·.toList.isSuffixOf l.code) = some op := h
      have hends := List.find?_some hsymbol
      exact List.isSuffixOf_iff_suffix.1 hends

end LineShape

namespace Layout

end Layout

/-! ## Scripts -/

namespace Script

end Script

end ChartLint
