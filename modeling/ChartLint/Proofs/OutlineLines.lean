import ChartLint.Proofs.StatementRun
import Mathlib.Data.List.Nodup

/-!
# The outline in front of a line

Line `n` cuts the tokens of a script in three: those on the lines in front of it, those on it, and the
rest (`LineSplit`, `exists_lineSplit`).  What the outline says in front of the line is read off the
first part: the last code token, the bracket depth and the statement that is being read.  Whether a
statement starts with the line is decided by that part and the first code token of the line
(`starts_eq_startsAt`).
-/

namespace ChartLint

theorem map_index_numberFrom (start : Nat) (tokens : List Token) :
    (numberFrom start tokens).map (·.index) = List.range' start tokens.length := by
  simp [numberFrom, Function.comp_def, List.zipIdx_map_snd]

theorem nodup_numberFrom (start : Nat) (tokens : List Token) : (numberFrom start tokens).Nodup := by
  refine List.Nodup.of_map (·.index) ?_
  rw [map_index_numberFrom]
  exact List.nodup_range'

namespace Lexer

theorem line_lineEnd (tab number : Nat) {line : List Char} (hn : '\n' ∉ line) (isLast : Bool) :
    (lineEnd tab number line isLast).position.line = number :=
  line_advance tab _ hn

theorem line_of_mem_scanEnded {tab number : Nat} {ls : List (List Char)} (hn : ∀ l ∈ ls, '\n' ∉ l)
    {t : Token} (ht : t ∈ scanEnded tab number ls) :
    number ≤ t.position.line ∧ t.position.line < number + ls.length := by
  induction ls generalizing number with
  | nil => cases ht
  | cons line rest ih =>
      obtain ⟨hline, hrest⟩ := List.forall_mem_cons.1 hn
      rw [List.length_cons]
      rw [scanEnded, List.mem_append, List.mem_cons] at ht
      rcases ht with ht | rfl | ht
      · have := line_of_mem_content hline ht
        simp only at this
        omega
      · have := line_lineEnd tab number hline false
        omega
      · have := ih hrest ht
        omega

theorem line_of_mem_scanLines {tab number : Nat} {ls : List (List Char)} (hn : ∀ l ∈ ls, '\n' ∉ l)
    {t : Token} (ht : t ∈ scanLines tab number ls) :
    number ≤ t.position.line ∧ t.position.line < number + ls.length := by
  induction ls generalizing number with
  | nil => cases ht
  | cons line rest ih =>
      obtain ⟨hline, hrest⟩ := List.forall_mem_cons.1 hn
      rw [List.length_cons]
      rw [scanLines, List.mem_append, List.mem_cons] at ht
      rcases ht with ht | rfl | ht
      · have := line_of_mem_content hline ht
        simp only at this
        omega
      · have := line_lineEnd tab number hline rest.isEmpty
        omega
      · have := ih hrest ht
        omega

end Lexer

/-- A token of a script stands on one of its lines. -/
theorem exists_line_of_mem_tokenize {source : String} {tab : Nat} {t : Token}
    (ht : t ∈ tokenize source tab) :
    ∃ before line after, Text.splitAt '\n' source.toList = before ++ line :: after ∧
      t.position.line = 1 + before.length := by
  rw [tokenize_eq_scanLines] at ht
  obtain ⟨hlow, hhigh⟩ := Lexer.line_of_mem_scanLines
    (fun l hl => Text.not_mem_of_mem_splitAt hl) ht
  exact Text.exists_cut ⟨hlow, by omega⟩

/-- A token on a line is one of the tokens of the line, or it is the end of the line. -/
theorem mem_line_of_mem_tokenize {source : String} {tab : Nat} {before after : List (List Char)}
    {line : List Char} (h : Text.splitAt '\n' source.toList = before ++ line :: after) {t : Token}
    (ht : t ∈ tokenize source tab) (hline : t.position.line = 1 + before.length) :
    t ∈ Lexer.content tab ⟨1 + before.length, 1⟩ line ∨
      t = Lexer.lineEnd tab (1 + before.length) line after.isEmpty := by
  obtain ⟨hbefore, -, hafter⟩ := Text.not_mem_of_splitAt_eq h
  rw [tokenize_eq_scanLines, h, Lexer.scanLines_append tab 1 before (List.cons_ne_nil _ _),
    Lexer.scanLines, List.mem_append, List.mem_append, List.mem_cons] at ht
  rcases ht with ht | ht | ht | ht
  · have := Lexer.line_of_mem_scanEnded hbefore ht
    omega
  · exact .inl ht
  · exact .inr ht
  · have := Lexer.line_of_mem_scanLines hafter ht
    omega

namespace Outline

/-- The tokens on the lines in front of a line. -/
def before (o : Outline) (n : Nat) : List Lexeme :=
  o.tokens.filter (·.position.line < n)

/-- The code tokens on a line. -/
def codeOn (o : Outline) (n : Nat) : List Lexeme :=
  o.tokens.filter fun t => t.isCode && t.position.line == n

/-- The last code token in front of a line. -/
def lastBefore? (o : Outline) (n : Nat) : Option Lexeme :=
  Statement.lastCode? (o.before n)

/-- The bracket depth in front of a line. -/
def depthBefore (o : Outline) (n : Nat) : Nat :=
  depthBehind ((o.before n).map (·.toToken)) 0

/-- The statement that is being read in front of a line, the last one that starts before it. -/
def statementBefore? (o : Outline) (n : Nat) : Option Statement :=
  (o.statements.filter (·.line < n)).getLast?

/-- Does a statement start with the token? -/
def starts (o : Outline) (t : Lexeme) : Bool :=
  o.statements.any (·.first == t)

/-- The tokens in front of a line, on it and behind it. -/
structure LineSplit (o : Outline) (n : Nat) (front mid back : List Lexeme) : Prop where
  /-- The three parts are all tokens. -/
  tokens_eq : o.tokens = front ++ (mid ++ back)
  /-- The first part stands in front of the line. -/
  front_lt : ∀ t ∈ front, t.position.line < n
  /-- The second part stands on the line. -/
  mid_eq : ∀ t ∈ mid, t.position.line = n
  /-- The third part does not stand in front of the line. -/
  back_le : ∀ t ∈ back, n ≤ t.position.line
  /-- The third part has no code on the line. -/
  back_lt : ∀ t ∈ back, t.isCode = true → n < t.position.line

namespace LineSplit

variable {o : Outline} {n : Nat} {front mid back : List Lexeme}

theorem before_eq (h : LineSplit o n front mid back) : o.before n = front := by
  have hmid : mid.filter (·.position.line < n) = [] := by
    rw [List.filter_eq_nil_iff]
    intro t ht
    simp [h.mid_eq t ht]
  have hback : back.filter (·.position.line < n) = [] := by
    rw [List.filter_eq_nil_iff]
    intro t ht
    simpa using h.back_le t ht
  rw [before, h.tokens_eq, List.filter_append, List.filter_append, hmid, hback, List.append_nil,
    List.append_nil, List.filter_eq_self]
  intro t ht
  simpa using h.front_lt t ht

theorem codeOn_eq (h : LineSplit o n front mid back) : o.codeOn n = mid.filter (·.isCode) := by
  have hfront : front.filter (fun t => t.isCode && t.position.line == n) = [] := by
    rw [List.filter_eq_nil_iff]
    intro t ht
    simp [Nat.ne_of_lt (h.front_lt t ht)]
  have hback : back.filter (fun t => t.isCode && t.position.line == n) = [] := by
    rw [List.filter_eq_nil_iff]
    intro t ht hcode
    simp only [Bool.and_eq_true, beq_iff_eq] at hcode
    exact Nat.ne_of_gt (h.back_lt t ht hcode.1) hcode.2
  rw [codeOn, h.tokens_eq, List.filter_append, List.filter_append, hfront, hback, List.nil_append,
    List.append_nil]
  refine List.filter_congr fun t ht => ?_
  simp [h.mid_eq t ht]

end LineSplit

/-- Every line cuts the tokens of a script. -/
theorem exists_lineSplit {source : String} (tab : Nat) {before after : List (List Char)}
    {line : List Char} (h : Text.splitAt '\n' source.toList = before ++ line :: after) :
    ∃ front mid back, LineSplit (ofSource source tab) (1 + before.length) front mid back ∧
      front.map (·.toToken) = Lexer.scanEnded tab 1 before ∧
      mid.map (·.toToken) = Lexer.content tab ⟨1 + before.length, 1⟩ line := by
  obtain ⟨hbefore, hline, hafter⟩ := Text.not_mem_of_splitAt_eq h
  have htokens : (ofSource source tab).tokens = numberFrom 0 (Lexer.scanEnded tab 1 before ++
      (Lexer.content tab ⟨1 + before.length, 1⟩ line ++
        (Lexer.lineEnd tab (1 + before.length) line after.isEmpty ::
          Lexer.scanLines tab (1 + before.length + 1) after))) := by
    rw [ofSource, tokenize_eq_scanLines, h, Lexer.scanLines_append _ _ _ (List.cons_ne_nil _ _),
      Lexer.scanLines]
    rfl
  rw [numberFrom_append, numberFrom_append] at htokens
  refine ⟨_, _, _, ⟨htokens, ?_, ?_, ?_, ?_⟩, map_toToken_numberFrom _ _,
    map_toToken_numberFrom _ _⟩
  · intro t ht
    exact (Lexer.line_of_mem_scanEnded hbefore (mem_of_mem_numberFrom ht)).2
  · intro t ht
    exact Lexer.line_of_mem_content hline (mem_of_mem_numberFrom ht)
  · intro t ht
    rcases List.mem_cons.1 (mem_of_mem_numberFrom ht) with ht | ht
    · rw [ht, Lexer.line_lineEnd tab _ hline]
    · have := Lexer.line_of_mem_scanLines hafter ht
      omega
  · intro t ht hcode
    rcases List.mem_cons.1 (mem_of_mem_numberFrom ht) with ht | ht
    · rw [ht, Lexer.isCode_lineEnd] at hcode
      cases hcode
    · have := Lexer.line_of_mem_scanLines hafter ht
      omega

/-- A token of a script stands on one of its lines. -/
theorem exists_line {source : String} {tab : Nat} {t : Lexeme}
    (ht : t ∈ (ofSource source tab).tokens) :
    ∃ before line after, Text.splitAt '\n' source.toList = before ++ line :: after ∧
      t.position.line = 1 + before.length :=
  exists_line_of_mem_tokenize (mem_of_mem_numberFrom ht)

variable {source : String} {tab n : Nat} {front mid back : List Lexeme}

/-- A statement starts with the first token of a line if the run over the lines in front starts one
there. -/
theorem starts_eq_startsAt {t : Lexeme}
    (h : LineSplit (ofSource source tab) n front (t :: mid) back) :
    (ofSource source tab).starts t =
      Statement.startsAt (Statement.run none front) t := by
  have hnodup : (ofSource source tab).tokens.Nodup := nodup_numberFrom 0 _
  have htokens := h.tokens_eq
  rw [List.cons_append] at htokens
  rw [htokens] at hnodup
  rw [Bool.eq_iff_iff, ← Statement.mem_starts_iff hnodup, ← htokens,
    ← Statement.map_first_segment, starts, List.any_eq_true, List.mem_map]
  simp only [beq_iff_eq]
  rfl

/-- The statement being read in front of a line is the one that the run reads. -/
theorem first_statementBefore? (h : LineSplit (ofSource source tab) n front mid back) :
    ((ofSource source tab).statementBefore? n).map (·.first) =
      (Statement.starts none front).getLast? := by
  have hfilter : ((ofSource source tab).statements.filter (·.line < n)).map (·.first) =
      ((ofSource source tab).statements.map (·.first)).filter (·.position.line < n) := by
    rw [List.filter_map]
    rfl
  have hfront : (Statement.starts none front).filter (·.position.line < n) =
      Statement.starts none front := by
    rw [List.filter_eq_self]
    intro t ht
    simpa using h.front_lt t (Statement.mem_of_mem_starts ht)
  have hrest (r : Option Statement.Reading) :
      (Statement.starts r (mid ++ back)).filter (·.position.line < n) = [] := by
    rw [List.filter_eq_nil_iff]
    intro t ht
    rcases List.mem_append.1 (Statement.mem_of_mem_starts ht) with ht | ht
    · simp [h.mid_eq t ht]
    · simpa using h.back_le t ht
  have hsegment : (ofSource source tab).statements.map (·.first) =
      Statement.starts none (ofSource source tab).tokens :=
    Statement.map_first_segment _
  rw [statementBefore?, ← List.getLast?_map, hfilter, hsegment, h.tokens_eq,
    Statement.starts_append, List.filter_append, hfront, hrest, List.append_nil]

end Outline

end ChartLint
