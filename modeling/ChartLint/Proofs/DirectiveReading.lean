import ChartLint.Proofs.DirectivePattern
import ChartLint.Proofs.OutlineLines

/-!
# Directives are read exactly

The directives of a script say about a line what the comment on the line says.  There is no second
comment there, since a comment takes the rest of its line (`Token.IsCommentOn.unique`), so the line
has no other directive, and nothing is put together.
-/

namespace ChartLint

/-! ## The comment on a line -/

/-- A comment takes the rest of its line, so no other one stands there. -/
theorem Lexer.comment_unique {tab : Nat} {p : Position} {cs : List Char} (hn : '\n' ∉ cs)
    {t u : Token} (ht : t ∈ content tab p cs) (hu : u ∈ content tab p cs)
    (htkind : t.kind = .comment) (hukind : u.kind = .comment) : t = u := by
  fun_induction scan tab p cs with
  | case1 p => simp at ht
  | case2 p c cs hc ih =>
      rw [content_gap tab p hc] at ht hu
      exact ih (List.not_mem_of_not_mem_cons hn) ht hu
  | case3 p c cs hc s text ih =>
      have hcs : '\n' ∉ cs := List.not_mem_of_not_mem_cons hn
      rw [content_token tab p (by simpa using hc)] at ht hu
      by_cases hcomplete : IsComplete c cs
      · rcases List.mem_cons.1 ht with rfl | ht
        · exact absurd htkind hcomplete.1
        · rcases List.mem_cons.1 hu with rfl | hu
          · exact absurd hukind hcomplete.1
          · exact ih (fun h => hcs (List.mem_of_mem_drop h)) ht hu
      · rw [extent_of_not_isComplete hcomplete hcs, List.drop_length, content_nil,
          List.mem_singleton] at ht hu
        rw [ht, hu]

/-- The token is a comment of the script on the line of that number. -/
def Token.IsCommentOn (t : Token) (source : String) (tab number : Nat) : Prop :=
  t ∈ tokenize source tab ∧ t.kind = .comment ∧ t.position.line = number

theorem Token.IsCommentOn.unique {source : String} {tab number : Nat} {t u : Token}
    (ht : t.IsCommentOn source tab number) (hu : u.IsCommentOn source tab number) : t = u := by
  obtain ⟨htmem, htkind, htline⟩ := ht
  obtain ⟨humem, hukind, huline⟩ := hu
  obtain ⟨before, line, after, hsplit, hnumber⟩ := exists_line_of_mem_tokenize htmem
  have hcontent : ∀ v ∈ tokenize source tab, v.kind = .comment → v.position.line = number →
      v ∈ Lexer.content tab ⟨1 + before.length, 1⟩ line := by
    intro v hv hkind hline
    rcases mem_line_of_mem_tokenize hsplit hv (by rw [hline, ← htline, hnumber]) with hv | rfl
    · exact hv
    · cases after <;> cases hkind
  exact Lexer.comment_unique (Text.not_mem_of_splitAt_eq hsplit).2.1
    (hcontent t htmem htkind htline) (hcontent u humem hukind huline) htkind hukind

/-! ## The directives of a script -/

namespace Suppressions

variable {s : Suppressions} {n : Nat}

theorem mem_linesOfAll : n ∈ s.linesOfAll ↔ (n, Directive.all) ∈ s.entries := by
  rw [linesOfAll, List.mem_filterMap]
  constructor
  · rintro ⟨⟨line, d⟩, hentry, hline⟩
    cases d with
    | all => cases hline; exact hentry
    | only names => cases hline
  · exact fun hentry => ⟨_, hentry, rfl⟩

theorem mem_namesByLine {names : NameSet} :
    (n, names) ∈ s.namesByLine ↔ (n, Directive.only names) ∈ s.entries := by
  rw [namesByLine, List.mem_filterMap]
  constructor
  · rintro ⟨⟨line, d⟩, hentry, hline⟩
    cases d with
    | all => cases hline
    | only names => cases hline; exact hentry
  · exact fun hentry => ⟨_, hentry, rfl⟩

theorem mem_entries {source : String} {tab : Nat} {d : Directive} :
    (n, d) ∈ (ofTokens (tokenize source tab)).entries ↔
      ∃ c : Token, c.IsCommentOn source tab n ∧ Directive.ofComment? c.text = some d := by
  simp only [ofTokens, List.mem_filterMap, Token.IsCommentOn]
  constructor
  · rintro ⟨t, ht, hentry⟩
    split at hentry
    case isTrue hkind =>
      obtain ⟨d', hd', hpair⟩ := Option.map_eq_some_iff.1 hentry
      cases hpair
      exact ⟨t, ⟨ht, by simpa using hkind, rfl⟩, hd'⟩
    case isFalse => cases hentry
  · rintro ⟨t, ⟨ht, hkind, rfl⟩, hd⟩
    exact ⟨t, ht, by simp [hkind, hd]⟩

/-- What the directives of a script say about a line, told by the comment on it. -/
structure ExactOn (s : Suppressions) (source : String) (tab n : Nat) : Prop where
  /-- There is at most one comment. -/
  unique : ∀ c c' : Token, c.IsCommentOn source tab n → c'.IsCommentOn source tab n → c = c'
  /-- Something is silenced if the comment announces a directive. -/
  affected : (n ∈ s.linesOfAll ∨ ∃ names, (n, names) ∈ s.namesByLine) ↔
    ∃ (c : Token) (tail : List Char), c.IsCommentOn source tab n ∧
      Directive.Announces c.text.toList tail
  /-- If it names something, just that is silenced. -/
  named : ∀ (c : Token) (tail : List Char), c.IsCommentOn source tab n →
    Directive.Announces c.text.toList tail →
    (∃ name, Directive.Names tail name) →
      n ∉ s.linesOfAll ∧ ∃ names : NameSet, (∀ name, name ∈ names ↔ Directive.Names tail name) ∧
        ∀ names', (n, names') ∈ s.namesByLine ↔ names' = names
  /-- If it names nothing, everything is silenced. -/
  unnamed : ∀ (c : Token) (tail : List Char), c.IsCommentOn source tab n →
    Directive.Announces c.text.toList tail →
    (¬ ∃ name, Directive.Names tail name) →
      n ∈ s.linesOfAll ∧ ∀ names, (n, names) ∉ s.namesByLine
  /-- A name is silenced if everything is or if it is one of the names in upper case. -/
  suppressed : ∀ name, s.isSuppressed n name = true ↔
    n ∈ s.linesOfAll ∨ ∃ names, (n, names) ∈ s.namesByLine ∧ Text.uppercase name ∈ names

theorem mem_entries_of_announces {source : String} {tab : Nat} {c : Token} {tail : List Char}
    (hc : c.IsCommentOn source tab n) (h : Directive.Announces c.text.toList tail) (d : Directive) :
    (n, d) ∈ (ofTokens (tokenize source tab)).entries ↔ Directive.ofTail tail = d := by
  have hcomment := Directive.ofComment?_of_announces h
  rw [mem_entries]
  constructor
  · rintro ⟨c', hc', hd⟩
    rw [← hc.unique hc', hcomment] at hd
    exact Option.some.inj hd
  · rintro rfl
    exact ⟨c, hc, hcomment⟩

/-- A directive silences everything or some names. -/
theorem exists_mem_entries_iff :
    (∃ d, (n, d) ∈ s.entries) ↔ n ∈ s.linesOfAll ∨ ∃ names, (n, names) ∈ s.namesByLine := by
  simp only [mem_linesOfAll, mem_namesByLine]
  constructor
  · rintro ⟨d, hd⟩
    cases d with
    | all => exact Or.inl hd
    | only names => exact Or.inr ⟨names, hd⟩
  · rintro (hall | ⟨names, hnames⟩)
    · exact ⟨_, hall⟩
    · exact ⟨_, hnames⟩

theorem isSuppressed_iff {name : String} :
    s.isSuppressed n name = true ↔
      n ∈ s.linesOfAll ∨ ∃ names, (n, names) ∈ s.namesByLine ∧ Text.uppercase name ∈ names := by
  have hcovered : s.isSuppressed n name = true ↔
      ∃ d, (n, d) ∈ s.entries ∧ d.covers name = true := by
    rw [isSuppressed, List.any_eq_true]
    simp only [Prod.exists, Bool.and_eq_true, beq_iff_eq]
    constructor
    · rintro ⟨line, d, hentry, rfl, hcovers⟩
      exact ⟨d, hentry, hcovers⟩
    · rintro ⟨d, hentry, hcovers⟩
      exact ⟨n, d, hentry, rfl, hcovers⟩
  simp only [hcovered, mem_linesOfAll, mem_namesByLine]
  constructor
  · rintro ⟨d, hd, hcovers⟩
    cases d with
    | all => exact Or.inl hd
    | only names => exact Or.inr ⟨names, hd, NameSet.contains_iff.1 hcovers⟩
  · rintro (hall | ⟨names, hnames, hname⟩)
    · exact ⟨_, hall, rfl⟩
    · exact ⟨_, hnames, NameSet.contains_iff.2 hname⟩

/-- Suppression comments are read exactly.  The directives of every script say about every line what
the comment on it says, and what a comment says is what the preferred match of a pattern keeps of
it. -/
theorem ofTokens_exactOn (source : String) (tab n : Nat) :
    (ofTokens (tokenize source tab)).ExactOn source tab n ∧
    ∃ p, Pattern.read "^//\\s*noqa(?:\\s*:\\s*([A-Za-z0-9_,\\s]+))?" = .ok p ∧
      ∀ text, Directive.ofComment? text = (p.captures? text).map Directive.ofKept := by
  refine ⟨⟨fun c c' => Token.IsCommentOn.unique, ?affected, ?named, ?unnamed,
    fun name => isSuppressed_iff⟩,
    Directive.pattern, Directive.read_pattern, Directive.ofComment?_eq_captures⟩
  case affected =>
    rw [← exists_mem_entries_iff]
    constructor
    · rintro ⟨d, hd⟩
      obtain ⟨c, hc, hcomment⟩ := mem_entries.1 hd
      obtain ⟨tail, htail⟩ := Directive.exists_announces hcomment
      exact ⟨c, tail, hc, htail⟩
    · rintro ⟨c, tail, hc, htail⟩
      exact ⟨_, (mem_entries_of_announces hc htail _).2 rfl⟩
  case named =>
    intro c tail hc htail hname
    simp only [mem_linesOfAll, mem_namesByLine, mem_entries_of_announces hc htail]
    rcases Directive.ofTail_cases tail with ⟨names, -, honly, hnames⟩ | ⟨hnone, -⟩
    · rw [honly]
      refine ⟨nofun, names, hnames, fun names' => ?_⟩
      rw [Directive.only.injEq]
      exact eq_comm
    · exact absurd hname hnone
  case unnamed =>
    intro c tail hc htail hname
    simp only [mem_linesOfAll, mem_namesByLine, mem_entries_of_announces hc htail]
    rcases Directive.ofTail_cases tail with ⟨names, hsome, -⟩ | ⟨-, hall⟩
    · exact absurd hsome hname
    · rw [hall]
      exact ⟨rfl, fun names => nofun⟩

/-- Of two comments, the first silences what it names and the second everything. -/
theorem ofTokens_exactOn_two :
    let s := ofTokens (tokenize "a // noqa: pine001,, x b;\nb //noqa : , " 4)
    (1 ∉ s.linesOfAll ∧ ∃ names, (1, names) ∈ s.namesByLine ∧ "PINE001" ∈ names ∧ "X B" ∈ names) ∧
      2 ∈ s.linesOfAll := by
  intro s
  constructor
  · have hcomment : (Token.mk .comment "// noqa: pine001,, x b;" ⟨1, 3⟩).IsCommentOn
        "a // noqa: pine001,, x b;\nb //noqa : , " 4 1 := ⟨by decide +kernel, rfl, rfl⟩
    have hannounces : Directive.Announces "// noqa: pine001,, x b;".toList
        ": pine001,, x b;".toList := Directive.announces_iff.2 ⟨_, rfl, by decide +kernel⟩
    have hlist : Directive.HasList ": pine001,, x b;".toList " pine001,, x b".toList :=
      Directive.hasList_iff.2 ⟨" pine001,, x b;".toList, by decide +kernel, by decide +kernel⟩
    have hfirst : Directive.Names ": pine001,, x b;".toList "PINE001" :=
      ⟨_, hlist, " pine001".toList, by decide +kernel⟩
    have hsecond : Directive.Names ": pine001,, x b;".toList "X B" :=
      ⟨_, hlist, " x b".toList, by decide +kernel⟩
    obtain ⟨hall, names, hnames, hline⟩ :=
      (ofTokens_exactOn _ 4 1).1.named _ _ hcomment hannounces ⟨_, hfirst⟩
    exact ⟨hall, names, (hline names).2 rfl, (hnames _).2 hfirst, (hnames _).2 hsecond⟩
  · have hcomment : (Token.mk .comment "//noqa : , " ⟨2, 3⟩).IsCommentOn
        "a // noqa: pine001,, x b;\nb //noqa : , " 4 2 := ⟨by decide +kernel, rfl, rfl⟩
    have hannounces : Directive.Announces "//noqa : , ".toList " : , ".toList :=
      Directive.announces_iff.2 ⟨_, rfl, by decide +kernel⟩
    have hlist : Directive.HasList " : , ".toList " , ".toList :=
      Directive.hasList_iff.2 ⟨" , ".toList, by decide +kernel, by decide +kernel⟩
    refine ((ofTokens_exactOn _ 4 2).1.unnamed _ _ hcomment hannounces ?_).1
    rintro ⟨name, list, hlist', piece, hpiece, hne, -⟩
    rw [← hlist.unique hlist'] at hpiece
    have hblank : ∀ piece ∈ Text.splitAt ',' " , ".toList, Text.trimChars piece = [] := by
      decide +kernel
    exact hne (hblank piece hpiece)

end Suppressions

end ChartLint
