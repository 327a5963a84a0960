import ChartLint.Proofs.LineCode
import ChartLint.Proofs.Lossless
import ChartLint.Script

/-!
# The pass over the statements

*Resuming.*  The walk that cuts out statements knows of the statement being read only its first
token, its last token and the bracket depth.  `resume` puts the statement back: it gives all
statements from the one that has been read so far on.  Each step of it either closes that statement
or pushes a token to it, so facts about statements follow by induction on the tokens ahead.

*Deciding.*  The pass asks at every line end whether the statement goes on (`goesInto`).  The tokens up
to the next code token do not matter for the answer, so all line ends in a row give the same one
(`goesInto_silent`).  If the statement does not go on, it is closed and the rest is cut by itself
(`resume_of_not_goesInto`).

*Invariant.*  The statement that the pass is reading goes on behind every line end since its last
token.  By it the pass, step by step, leads to the statements that are resumed (`Pass.run_resume`).

So a script as it is read has the outline of its tokens (`Outline.read_eq`).  As long as its columns
fit, it is the script with unbounded columns (`Script.read_of_columnsFit`).
-/

namespace ChartLint

/-- With the numbers of its tokens, too, a script ends once. -/
theorem EndsOnce.exists_numbered {ts : List Token} (h : EndsOnce ts) :
    ∃ body last, numberTokens ts = body ++ [last] ∧ last.kind = .endOfInput ∧
      last.index = body.length ∧ ∀ t ∈ body, t.kind ≠ .endOfInput := by
  obtain ⟨body, last, rfl, hlast, hbody⟩ := h
  refine ⟨numberFrom 0 body, ⟨last, body.length⟩, ?_, hlast, ?_, ?_⟩
  · refine (numberFrom_append 0 body [last]).trans ?_
    rw [Nat.zero_add]
    rfl
  · simp [numberFrom]
  · exact fun t ht => hbody _ (mem_of_mem_numberFrom ht)

/-- A token in front of the end of the script that is no code is a comment or a line end. -/
theorem Token.comment_or_newline {t : Token} (h : t.isCode = false) (hend : t.kind ≠ .endOfInput) :
    t.kind = .comment ∨ t.kind = .newline := by
  cases hkind : t.kind <;> simp [isCode, hkind] at h hend ⊢

namespace Statement

/-! ## Resuming a statement -/

/-- One more token of a statement. -/
def push (s : Statement) (t : Lexeme) : Statement :=
  ⟨s.first, s.rest ++ [t]⟩

/-- What the walk knows of a statement when it has been read so far. -/
def progress (s : Statement) : Progress :=
  ⟨s.first, s.last, depthBehind (s.tokens.map (·.toToken)) 0⟩

/-- The statements from `s` on, when `s` has been read and the tokens `ts` are ahead. -/
def resume (s : Statement) (broken : Bool) (ts : List Lexeme) : List Statement :=
  ⟨s.first, s.rest ++ (segmentFrom s.progress broken ts).1⟩ :: (segmentFrom s.progress broken ts).2

theorem tokens_push (s : Statement) (t : Lexeme) : (s.push t).tokens = s.tokens ++ [t] := rfl

theorem last_push (s : Statement) (t : Lexeme) : (s.push t).last = t := by
  rw [last, push, List.getLastD_concat]

theorem exists_tokens_eq_concat (s : Statement) : ∃ inside, s.tokens = inside ++ [s.last] := by
  obtain ⟨first, rest⟩ := s
  rcases List.eq_nil_or_concat rest with rfl | ⟨inside, t, rfl⟩
  · exact ⟨[], rfl⟩
  · rw [List.concat_eq_append]
    exact ⟨first :: inside, (last_push ⟨first, inside⟩ t).symm ▸ rfl⟩

theorem progress_push (s : Statement) (t : Lexeme) : (s.push t).progress = s.progress.push t := by
  rw [progress, progress, last_push, tokens_push, List.map_append, depthBehind_append]
  rfl

theorem resume_nil (s : Statement) (broken : Bool) : resume s broken [] = [s] := by
  rw [resume, segmentFrom, List.append_nil]

theorem resume_silent {t : Lexeme} (h : t.isCode = false) (s : Statement) (broken : Bool)
    (ts : List Lexeme) :
    resume s broken (t :: ts) = resume s (broken || t.kind != .comment) ts := by
  rw [resume, segmentFrom, if_neg (by simp [h]), resume]

theorem resume_ends {t : Lexeme} (h : t.isCode = true) {s : Statement} {broken : Bool}
    (hends : (broken && s.progress.endsBefore t) = true) (ts : List Lexeme) :
    resume s broken (t :: ts) = s :: resume ⟨t, []⟩ false ts := by
  rw [resume, segmentFrom, if_pos h, if_pos hends]
  simp only [List.append_nil]
  rfl

theorem resume_goesOn {t : Lexeme} (h : t.isCode = true) {s : Statement} {broken : Bool}
    (hends : (broken && s.progress.endsBefore t) = false) (ts : List Lexeme) :
    resume s broken (t :: ts) = resume (s.push t) false ts := by
  rw [resume, segmentFrom, if_pos h, if_neg (by simp [hends]), resume, progress_push]
  simp [push]

theorem segment_code {t : Lexeme} (h : t.isCode = true) (ts : List Lexeme) :
    segment (t :: ts) = resume ⟨t, []⟩ false ts := by
  rw [segment, if_pos h]
  rfl

theorem segment_silent {t : Lexeme} (h : t.isCode = false) (ts : List Lexeme) :
    segment (t :: ts) = segment ts := by
  rw [segment, if_neg (by simp [h])]

/-! ## The decision at a line end -/

/-- Does the statement that has been read so far go on behind a line end, with the tokens `ts` ahead? -/
def goesInto (s : Statement) (ts : List Lexeme) : Bool :=
  s.progress.depth > 0 || s.last.asksForMore ||
    (!s.progress.opensBlock && Pass.nextLeads ts)

theorem nextLeads_code {t : Lexeme} (h : t.isCode = true) (ts : List Lexeme) :
    Pass.nextLeads (t :: ts) = t.leadsContinuation := by
  rw [Pass.nextLeads, List.find?_cons_of_pos (by exact h), Option.any_some]

theorem nextLeads_silent {t : Lexeme} (h : t.isCode = false) (ts : List Lexeme) :
    Pass.nextLeads (t :: ts) = Pass.nextLeads ts := by
  rw [Pass.nextLeads, List.find?_cons_of_neg (by simp [h]), Pass.nextLeads]

/-- A statement goes on into a code token if it does not end in front of it. -/
theorem goesInto_code {t : Lexeme} (h : t.isCode = true) (s : Statement) (ts : List Lexeme) :
    s.goesInto (t :: ts) = !s.progress.endsBefore t := by
  rw [goesInto, nextLeads_code h, Progress.endsBefore, progress]
  cases depthBehind (s.tokens.map (·.toToken)) 0 <;> simp

/-- Tokens that are no code do not matter for the decision. -/
theorem goesInto_silent {t : Lexeme} (h : t.isCode = false) (s : Statement) (ts : List Lexeme) :
    s.goesInto (t :: ts) = s.goesInto ts := by
  rw [goesInto, nextLeads_silent h, goesInto]

/-- A statement that does not go on behind a line end is closed there. -/
theorem resume_of_not_goesInto {s : Statement} {ts : List Lexeme} (h : s.goesInto ts = false) :
    resume s true ts = s :: segment ts := by
  induction ts with
  | nil => rw [resume_nil, segment]
  | cons t ts ih =>
      cases hcode : t.isCode with
      | false =>
          rw [goesInto_silent hcode] at h
          rw [resume_silent hcode, Bool.true_or, ih h, segment_silent hcode]
      | true =>
          rw [goesInto_code hcode, Bool.not_eq_false'] at h
          rw [resume_ends hcode (by rw [h]; rfl), segment_code hcode]

/-! ## The steps of the pass -/

namespace Pass

/-- The pass while it reads a statement. -/
def reading (closed : List Statement) (s : Statement) : Pass :=
  ⟨closed, s.tokens, s.progress.depth⟩

/-- The pass between two statements. -/
def between (closed : List Statement) : Pass :=
  ⟨closed, [], 0⟩

theorem goesOn_reading (closed : List Statement) (s : Statement) {t : Lexeme}
    (h : t.kind = .newline) (ahead : List Lexeme) :
    (reading closed s).goesOn t ahead = s.goesInto ahead := by
  have hlast : s.tokens.getLast? = some s.last := by
    obtain ⟨inside, hinside⟩ := s.exists_tokens_eq_concat
    rw [hinside, List.getLast?_concat]
  have hfirst : s.tokens.head? = some s.first := rfl
  simp only [goesOn, h, endsWithContinuation, opensBlock, reading, hlast, hfirst, Option.any_some,
    goesInto, Progress.opensBlock, progress, beq_self_eq_true, Bool.true_and]
  rfl

theorem step_comment {t : Lexeme} (h : t.kind = .comment) (p : Pass) (ahead : List Lexeme) :
    p.step t ahead = p := by
  rw [step, h]

theorem step_code {t : Lexeme} (h : t.isCode = true) (p : Pass) (ahead : List Lexeme) :
    p.step t ahead = { p with current := p.current ++ [t], depth := t.depthAfter p.depth } := by
  rw [step]
  cases hkind : t.kind <;> simp [Token.isCode, hkind] at h ⊢

theorem step_between {t : Lexeme} (h : t.isCode = false) (closed : List Statement)
    (ahead : List Lexeme) : (between closed).step t ahead = between closed := by
  rw [step]
  cases hkind : t.kind <;> simp [Token.isCode, hkind, between] at h ⊢

theorem step_newline {t : Lexeme} (h : t.kind = .newline) (closed : List Statement) (s : Statement)
    (ahead : List Lexeme) : (reading closed s).step t ahead =
      if s.goesInto ahead then reading closed s else between (closed ++ [s]) := by
  rw [step, h]
  simp only [goesOn_reading closed s h]
  rfl

theorem step_endOfInput {t : Lexeme} (h : t.kind = .endOfInput) (closed : List Statement)
    (s : Statement) (ahead : List Lexeme) :
    (reading closed s).step t ahead = between (closed ++ [s]) := by
  rw [step, h, goesOn, h]
  rfl

/-- In front of the end of the script the pass leads to the statements that are resumed.  Between two
statements it leads to those of the rest of the script.  Behind a line end the statement that it reads
goes on, since it is closed otherwise. -/
theorem run_resume {body : List Lexeme} (hbody : ∀ t ∈ body, t.kind ≠ .endOfInput) {last : Lexeme}
    (hlast : last.kind = .endOfInput) :
    (∀ closed, (between closed).run (body ++ [last]) = closed ++ segment (body ++ [last])) ∧
      ∀ closed s broken, (broken = true → s.goesInto (body ++ [last]) = true) →
        (reading closed s).run (body ++ [last]) = closed ++ resume s broken (body ++ [last]) := by
  have hsilent : last.isCode = false := by rw [Token.isCode, hlast]
  induction body with
  | nil =>
      constructor
      · intro closed
        rw [List.nil_append, run, step_between hsilent, run, segment_silent hsilent, segment,
          List.append_nil]
        rfl
      · intro closed s broken _
        rw [List.nil_append, run, step_endOfInput hlast, run, resume_silent hsilent, resume_nil]
        rfl
  | cons t body ih =>
      obtain ⟨ht, hbody⟩ := List.forall_mem_cons.1 hbody
      obtain ⟨hbetween, hreading⟩ := ih hbody
      cases hcode : t.isCode with
      | true =>
          constructor
          · intro closed
            rw [List.cons_append, run, step_code hcode, segment_code hcode]
            exact hreading closed ⟨t, []⟩ false fun h => absurd h Bool.false_ne_true
          · intro closed s broken hbroken
            have hgoes : (broken && s.progress.endsBefore t) = false := by
              cases broken with
              | false => rfl
              | true =>
                  have := hbroken rfl
                  rw [List.cons_append, goesInto_code hcode, Bool.not_eq_true'] at this
                  rw [this, Bool.and_false]
            rw [List.cons_append, run, step_code hcode, resume_goesOn hcode hgoes,
              ← hreading closed (s.push t) false fun h => absurd h Bool.false_ne_true, reading,
              reading, progress_push]
            rfl
      | false =>
          refine ⟨fun closed => ?_, fun closed s broken hbroken => ?_⟩
          · rw [List.cons_append, run, step_between hcode, hbetween, segment_silent hcode]
          rw [List.cons_append, goesInto_silent hcode] at hbroken
          rw [List.cons_append, run, resume_silent hcode]
          rcases Token.comment_or_newline hcode ht with hkind | hkind
          · rw [step_comment hkind, hkind]
            refine hreading closed s _ ?_
            simpa using hbroken
          · rw [step_newline hkind]
            split
            case isTrue hgoes => exact hreading closed s _ fun _ => hgoes
            case isFalse hends =>
              rw [hbetween, hkind, List.append_assoc]
              have hresume := resume_of_not_goesInto (Bool.eq_false_iff.2 hends)
              rw [show (broken || TokenKind.newline != .comment) = true from Bool.or_true _, hresume]
              rfl

/-- The pass cuts the statements of tokens that end with the end of the script. -/
theorem run_eq {body : List Lexeme} (hbody : ∀ t ∈ body, t.kind ≠ .endOfInput) {last : Lexeme}
    (hlast : last.kind = .endOfInput) :
    start.run (body ++ [last]) = segment (body ++ [last]) :=
  (run_resume hbody hlast).1 []

end Pass

end Statement

/-- A script as it is read has the outline of its tokens. -/
theorem Outline.read_eq (source : String) (tab : Nat) :
    Outline.read source tab = .ofTokens (numberTokens (readTokens source tab)) := by
  obtain ⟨body, last, hnumbers, hlast, -, hbody⟩ := (endsOnce_readTokens source tab).exists_numbered
  rw [Outline.read, Outline.ofTokens, hnumbers]
  simp only [Statement.Pass.run_eq hbody hlast]

/-- As long as no column overflows, a script has the same outline with unbounded columns. -/
theorem Outline.read_of_columnsFit {source : String} {tab : Nat} (h : ColumnsFit source tab) :
    Outline.read source tab = .ofSource source tab := by
  rw [read_eq, readTokens_of_columnsFit h, ofSource]

theorem Script.read_of_columnsFit {source : String} {settings : Settings}
    (h : ColumnsFit source settings.tabWidth) :
    Script.read source settings = .ofSource source settings := by
  rw [Script.read, Outline.read_of_columnsFit h, ofSource]

end ChartLint
