import ChartLint.Proofs.Lossless
import ChartLint.Text.Split

/-!
# Lexing line by line

No token reaches over the end of its line, so a script can be lexed line by line.

*Parts.*  A text that is cut in front of a line feed is lexed in two parts (`content_append`).  The
same holds in front of a blank, if the tokens of the first part are *whole*: a comment or a string
that is still open would take the blank in.

*Lines.*  `scanLines` lexes each line by itself, from column one, and puts the token of the line end
behind it.  That gives the tokens of the script (`tokenize_eq_scanLines`).
-/

namespace ChartLint

/-- Is the string closed by the quote that opened it?  A backslash takes the next character with
it. -/
def Token.isTerminated (t : Token) : Bool :=
  match t.text.toList with
  | [] => false
  | quote :: inner => Lexer.closes quote inner

/-- A token that ends by itself: it is no comment and, if it is a string, it is closed. -/
def Token.IsWhole (t : Token) : Prop :=
  t.kind ≠ .comment ∧ (t.kind = .stringLiteral → t.isTerminated = true)

namespace Lexer

/-! ## Lexing in parts -/

theorem isComplete_iff {c : Char} {cs : List Char} {p : Position} :
    IsComplete c cs ↔
      (Token.mk (shape c cs).kind (String.ofList (c :: cs.take (shape c cs).extent)) p).IsWhole := by
  rw [IsComplete, Token.IsWhole, Token.isTerminated]
  refine and_congr_right fun _ => forall_congr' fun h => ?_
  simp only [String.toList_ofList]
  rw [((extent_of_kind c cs).1 h).2, closes_take_stringExtent]

/-- A text that is cut in front of a boundary is lexed in two parts.  In front of a boundary other
than a line feed, the tokens of the first part have to be whole. -/
theorem content_append {tab : Nat} {p : Position} {cs : List Char} {d : Char} (hd : IsBoundary d)
    (h : d = '\n' ∨ ∀ t ∈ content tab p cs, t.IsWhole) (ds : List Char) :
    content tab p (cs ++ d :: ds) =
      content tab p cs ++ content tab (p.advance tab cs) (d :: ds) := by
  fun_induction scan tab p cs with
  | case1 p => simp
  | case2 p c cs hc ih =>
      rw [content_gap tab p hc] at h
      rw [List.cons_append, content_gap tab p hc, content_gap tab p hc, ih h, Position.advance_cons]
  | case3 p c cs hc s text ih =>
      have hc : isGap c = false := by simpa using hc
      rw [content_token tab p hc] at h
      have hshape : shape c (cs ++ d :: ds) = shape c cs := by
        refine shape_append hd (h.imp_right fun h => ?_) ds
        exact isComplete_iff.2 (h _ List.mem_cons_self)
      have hlen := extent_le c cs
      rw [List.cons_append, content_token tab p hc, content_token tab p hc, hshape,
        List.take_append_of_le_length hlen, List.drop_append_of_le_length hlen,
        ih (h.imp_right fun h t ht => h t (List.mem_cons_of_mem _ ht)),
        Position.advance_take_drop, List.cons_append]

/-- A line feed is a token of its own, and the next line starts behind it. -/
theorem scan_append_newline (tab : Nat) (p : Position) (cs ds : List Char) :
    scan tab p (cs ++ '\n' :: ds) =
      content tab p cs ++ ⟨.newline, "\n", p.advance tab cs⟩ ::
        scan tab ⟨(p.advance tab cs).line + 1, 1⟩ ds := by
  have hnewline (q : Position) : content tab q ('\n' :: ds) =
      ⟨.newline, "\n", q⟩ :: content tab ⟨q.line + 1, 1⟩ ds := by
    rw [content_token tab q (by decide), shape_newline]
    rfl
  rw [scan_eq_content, content_append (Or.inl rfl) (Or.inl rfl), hnewline, scan_eq_content,
    Position.advance_append, List.append_assoc, List.cons_append]
  rfl

/-! ## Lexing by lines -/

theorem line_advance (tab : Nat) (p : Position) {cs : List Char} (h : '\n' ∉ cs) :
    (p.advance tab cs).line = p.line := by
  induction cs generalizing p with
  | nil => rfl
  | cons c cs ih =>
      rw [List.mem_cons, not_or] at h
      rw [Position.advance_cons, ih _ h.2, Position.step, if_neg (Ne.symm h.1)]

theorem line_of_mem_content {tab : Nat} {p : Position} {cs : List Char} (h : '\n' ∉ cs) {t : Token}
    (ht : t ∈ content tab p cs) : t.position.line = p.line := by
  fun_induction scan tab p cs with
  | case1 p => simp at ht
  | case2 p c cs hc ih =>
      rw [List.mem_cons, not_or] at h
      rw [content_gap tab p hc] at ht
      rw [ih h.2 ht, Position.step, if_neg (Ne.symm h.1)]
  | case3 p c cs hc s text ih =>
      rw [List.mem_cons, not_or] at h
      rw [content_token tab p (by simpa using hc)] at ht
      rcases List.mem_cons.1 ht with rfl | ht
      · rfl
      · rw [ih (fun hn => h.2 (List.mem_of_mem_drop hn)) ht, line_advance]
        exact List.not_mem_cons_of_ne_of_not_mem h.1 fun hn => h.2 (List.mem_of_mem_take hn)

/-- The token behind a line, a line feed or the end of the script. -/
def lineEnd (tab number : Nat) (line : List Char) (isLast : Bool) : Token :=
  ⟨if isLast then .endOfInput else .newline, if isLast then "" else "\n",
    (Position.mk number 1).advance tab line⟩

theorem isCode_lineEnd (tab number : Nat) (line : List Char) (isLast : Bool) :
    (lineEnd tab number line isLast).isCode = false := by
  cases isLast <;> rfl

/-- The tokens of lines, each lexed by itself.  The first of them has the number `number`. -/
def scanLines (tab number : Nat) : List (List Char) → List Token
  | [] => []
  | line :: rest =>
    content tab ⟨number, 1⟩ line ++ lineEnd tab number line rest.isEmpty ::
      scanLines tab (number + 1) rest

theorem scan_intercalate (tab number : Nat) {ls : List (List Char)} (hls : ls ≠ [])
    (h : ∀ l ∈ ls, '\n' ∉ l) :
    scan tab ⟨number, 1⟩ (['\n'].intercalate ls) = scanLines tab number ls := by
  induction ls generalizing number with
  | nil => exact absurd rfl hls
  | cons line rest ih =>
      obtain ⟨hline, hrest⟩ := List.forall_mem_cons.1 h
      cases rest with
      | nil =>
          rw [List.intercalate_singleton, scan_eq_content]
          rfl
      | cons next rest =>
          rw [List.intercalate_cons_cons, List.append_assoc, List.singleton_append,
            scan_append_newline, line_advance tab _ hline, ih (number + 1) (by simp) hrest]
          rfl

/-- The tokens of lines that a line feed ends. -/
def scanEnded (tab number : Nat) : List (List Char) → List Token
  | [] => []
  | line :: rest =>
    content tab ⟨number, 1⟩ line ++ lineEnd tab number line false ::
      scanEnded tab (number + 1) rest

theorem scanEnded_append (tab number : Nat) (ls ls' : List (List Char)) :
    scanEnded tab number (ls ++ ls') =
      scanEnded tab number ls ++ scanEnded tab (number + ls.length) ls' := by
  induction ls generalizing number with
  | nil => rfl
  | cons line rest ih =>
      rw [List.cons_append, scanEnded, ih, scanEnded, List.append_assoc, List.cons_append,
        List.length_cons, Nat.add_right_comm, Nat.add_assoc]

/-- Behind some lines the next one is lexed as if they were not there, but for its number. -/
theorem scanLines_append (tab number : Nat) (before : List (List Char)) {after : List (List Char)}
    (h : after ≠ []) :
    scanLines tab number (before ++ after) =
      scanEnded tab number before ++ scanLines tab (number + before.length) after := by
  induction before generalizing number with
  | nil => rfl
  | cons line rest ih =>
      have hlast : (rest ++ after).isEmpty = false := by simp [h]
      rw [List.cons_append, scanLines, ih (number + 1), hlast, scanEnded, List.append_assoc,
        List.cons_append, List.length_cons, Nat.add_right_comm, Nat.add_assoc]

end Lexer

/-! ## Numbers of tokens -/

/-- Tokens with their numbers, counted from `start`. -/
def numberFrom (start : Nat) (tokens : List Token) : List Lexeme :=
  (tokens.zipIdx start).map fun (t, i) => { t with index := i }

theorem map_toToken_numberFrom (start : Nat) (tokens : List Token) :
    (numberFrom start tokens).map (·.toToken) = tokens := by
  simp [numberFrom, Function.comp_def]

theorem mem_of_mem_numberFrom {start : Nat} {tokens : List Token} {t : Lexeme}
    (h : t ∈ numberFrom start tokens) : t.toToken ∈ tokens := by
  rw [← map_toToken_numberFrom start tokens]
  exact List.mem_map_of_mem h

theorem numberFrom_append (start : Nat) (ts us : List Token) :
    numberFrom start (ts ++ us) = numberFrom start ts ++ numberFrom (start + ts.length) us := by
  simp [numberFrom, List.zipIdx_append]

theorem numberFrom_cons (start : Nat) (t : Token) (ts : List Token) :
    numberFrom start (t :: ts) = { t with index := start } :: numberFrom (start + 1) ts := by
  simp [numberFrom, List.zipIdx_cons]

/-! ## The lines of a script -/

namespace Text

/-- Cutting at a separator is the library's cutting at it. -/
theorem splitAt_eq_splitOn (separator : Char) (cs : List Char) :
    splitAt separator cs = cs.splitOn separator := by
  induction cs with
  | nil => rfl
  | cons c cs ih =>
      rw [splitAt, List.splitOn_cons_eq_if_modifyHead, ih]
      by_cases hc : c = separator
      · simp [hc]
      · have := List.splitOn_ne_nil separator cs
        simp only [hc, if_false, beq_iff_eq]
        split
        · contradiction
        · rename_i h
          rw [h]
          rfl

theorem intercalate_splitAt (separator : Char) (cs : List Char) :
    [separator].intercalate (splitAt separator cs) = cs := by
  rw [splitAt_eq_splitOn, List.intercalate_splitOn]

/-- Pieces without the separator are what cutting their join gives. -/
theorem splitAt_intercalate (separator : Char) {ls : List (List Char)}
    (h : ∀ l ∈ ls, separator ∉ l) (hls : ls ≠ []) :
    splitAt separator ([separator].intercalate ls) = ls := by
  rw [splitAt_eq_splitOn, List.splitOn_intercalate separator h hls]

theorem not_mem_of_mem_splitAt {separator : Char} {cs l : List Char} (h : l ∈ splitAt separator cs) :
    separator ∉ l := by
  induction cs generalizing l with
  | nil =>
      rw [List.mem_singleton.1 h]
      simp
  | cons c cs ih =>
      rw [splitAt] at h
      split at h
      case isTrue =>
        rcases List.mem_cons.1 h with rfl | h
        · simp
        · exact ih h
      case isFalse hc =>
        split at h
        case h_1 hnil => exact absurd hnil (splitAt_ne_nil separator cs)
        case h_2 piece pieces hsplit =>
          rcases List.mem_cons.1 h with rfl | h
          · have := ih (l := piece) (by simp [hsplit])
            simpa [Ne.symm hc] using this
          · exact ih (by simp [hsplit, h])

theorem not_mem_of_splitAt_eq {separator : Char} {cs line : List Char}
    {before after : List (List Char)} (h : splitAt separator cs = before ++ line :: after) :
    (∀ l ∈ before, separator ∉ l) ∧ separator ∉ line ∧ ∀ l ∈ after, separator ∉ l := by
  have hpieces : ∀ l ∈ before ++ line :: after, separator ∉ l :=
    fun l hl => not_mem_of_mem_splitAt (h ▸ hl)
  obtain ⟨hbefore, hrest⟩ := List.forall_mem_append.1 hpieces
  exact ⟨hbefore, List.forall_mem_cons.1 hrest⟩

/-- Lines are counted from one. -/
theorem exists_cut {ls : List (List Char)} {n : Nat} (h : 1 ≤ n ∧ n ≤ ls.length) :
    ∃ before line after, ls = before ++ line :: after ∧ n = 1 + before.length := by
  have hlt : n - 1 < ls.length := by omega
  have hcut := List.take_append_drop (n - 1) ls
  rw [List.drop_eq_getElem_cons hlt] at hcut
  refine ⟨_, _, _, hcut.symm, ?_⟩
  rw [List.length_take]
  omega

end Text

/-- The tokens of a script are those of its lines. -/
theorem tokenize_eq_scanLines (source : String) (tab : Nat) :
    tokenize source tab = Lexer.scanLines tab 1 (Text.splitAt '\n' source.toList) := by
  rw [← Lexer.scan_intercalate tab 1 (Text.splitAt_ne_nil _ _)
    (fun l hl => Text.not_mem_of_mem_splitAt hl), Text.intercalate_splitAt]
  rfl

/-- The tokens of a line are tokens of the script, and they stand on that line. -/
theorem mem_tokenize_of_mem_line {source : String} {tab : Nat} {before after : List (List Char)}
    {line : List Char} (h : Text.splitAt '\n' source.toList = before ++ line :: after) {t : Token}
    (ht : t ∈ Lexer.content tab ⟨1 + before.length, 1⟩ line) :
    t ∈ tokenize source tab ∧ t.position.line = 1 + before.length := by
  refine ⟨?_, Lexer.line_of_mem_content (Text.not_mem_of_splitAt_eq h).2.1 ht⟩
  rw [tokenize_eq_scanLines, h, Lexer.scanLines_append tab 1 before (List.cons_ne_nil _ _),
    Lexer.scanLines]
  simp [ht]

end ChartLint
