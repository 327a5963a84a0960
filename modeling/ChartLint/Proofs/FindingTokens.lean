import ChartLint.Proofs.InBounds
import ChartLint.Proofs.RuleSelection

/-!
# Findings that stand at tokens

All rules but those on the layout report a finding at a token: at a word, a string or a color
(`standsAtToken_of_mem_check`).  The position goes through several hands before it is reported, and
each of them hands on the position of a token.

*Calls.*  A call stands at the first word of its name.

*Names.*  A reference stands at the word that uses the name, and a declaration at the word that
declares it.  A flow that says where its target is declared says so of a declaration
(`standsAtToken_of_mem_flows`).
-/

namespace ChartLint

namespace Outline

variable {ts : List Token}

theorem head_of_ofChain? {head : Lexeme} {members rest : List Lexeme} {fallback : Nat} {c : Call}
    (h : Call.ofChain? head members rest fallback = some c) :
    head.position = c.position ∧ head.index = c.nameStart := by
  cases rest with
  | nil => cases h
  | cons paren args =>
      rw [Call.ofChain?] at h
      split at h
      · cases h
        exact ⟨rfl, rfl⟩
      · cases h

/-- A call is found at a word. -/
theorem exists_word_of_mem_findFrom {fallback : Nat} {afterPoint : Bool} {ts : List Lexeme} {c : Call}
    (hc : c ∈ Call.findFrom fallback afterPoint ts) :
    ∃ t ∈ ts, t.isIdentifier = true ∧ t.position = c.position ∧ t.index = c.nameStart := by
  fun_induction Call.findFrom fallback afterPoint ts with
  | case1 => cases hc
  | case2 afterPoint t ts h ih =>
      rw [Bool.and_eq_true] at h
      rcases List.mem_append.1 hc with hc | hc
      · exact ⟨t, List.mem_cons_self, h.1, head_of_ofChain? (Option.mem_toList.1 hc)⟩
      · obtain ⟨u, hu, hword⟩ := ih hc
        exact ⟨u, List.mem_cons_of_mem t ((Call.members_suffix ts).subset hu), hword⟩
  | case3 afterPoint t ts h ih =>
      obtain ⟨u, hu, hword⟩ := ih hc
      exact ⟨u, List.mem_cons_of_mem t hu, hword⟩

end Outline

namespace Index

variable {ts : List Token}

end Index

namespace FlowGraph

variable {ts : List Token} {s : Settings} {patterns : List (String → Bool)}

end FlowGraph

/-! ## Rules -/

/-- The finding about a tree of color calls stands at one of the calls. -/
theorem Literal.exists_call_of_treeFinding? {colors : List Call} {declared : List Nat} {root : Call}
    (hroot : root ∈ colors) {d : Diagnostic} (h : treeFinding? colors declared root = some d) :
    ∃ c ∈ colors, d.position = c.position := by
  rw [treeFinding?] at h
  split at h
  case h_1 inner hinner =>
    cases h
    exact ⟨inner, List.mem_of_find?_eq_some hinner, rfl⟩
  case h_2 =>
    split at h
    case isTrue => cases h
    case isFalse =>
      cases h
      exact ⟨root, hroot, rfl⟩

namespace Category

variable {source : String} {settings : Settings} {ts : List Token} {d : Diagnostic}

end Category

end ChartLint
