import ChartLint.Proofs.LineLexing

/-!
# Lexing is local to lines

The lexer carries nothing over the end of a line but the number of the line.  So the text behind a
line feed is lexed as if it stood alone, and the text in front of it only pushes it down.

*Moving down.*  A character moves a position the same way on every line (`step_moveDown`), so the
tokens of a text that starts further down are its tokens moved down (`scan_moveDown`).

*Cutting.*  What the lexer decides in front of a line feed is what it decides at the end of a
script, so the token of the line feed stands where the end of the first part stood
(`tokenize_append_lineFeed`).
-/

namespace ChartLint

namespace Position

/-- The position some lines further down, in the same column. -/
def moveDown (lines : Nat) (p : Position) : Position :=
  ⟨p.line + lines, p.column⟩

theorem step_moveDown (tab lines : Nat) (p : Position) (c : Char) :
    (p.moveDown lines).step tab c = (p.step tab c).moveDown lines := by
  rw [step, step]
  split
  · rw [moveDown, moveDown, Nat.add_right_comm]
  · rfl

theorem advance_moveDown (tab lines : Nat) (p : Position) (cs : List Char) :
    (p.moveDown lines).advance tab cs = (p.advance tab cs).moveDown lines := by
  induction cs generalizing p with
  | nil => rfl
  | cons c cs ih => rw [advance_cons, step_moveDown, ih, advance_cons]

end Position

/-- The token some lines further down. -/
def Token.moveDown (lines : Nat) (t : Token) : Token :=
  { t with position := t.position.moveDown lines }

/-- A text that starts further down has the same tokens, further down. -/
theorem Lexer.scan_moveDown (tab lines : Nat) (p : Position) (cs : List Char) :
    scan tab (p.moveDown lines) cs = (scan tab p cs).map (Token.moveDown lines) := by
  fun_induction scan tab p cs with
  | case1 p => rw [scan, List.map_singleton, Token.moveDown]
  | case2 p c cs hgap ih => rw [scan, if_pos hgap, Position.step_moveDown, ih]
  | case3 p c cs hgap s text ih =>
      rw [scan, if_neg hgap, List.map_cons, ← ih, ← Position.advance_moveDown]
      rfl

/-- Lexing is local to lines.  The tokens of two texts with a line feed between them are the tokens
of the first one, with a line feed in the place of the end, and those of the second one, moved down
by the lines of the first. -/
theorem tokenize_append_lineFeed (a b : String) (tab : Nat) :
    ∃ body position, tokenize a tab = body ++ [⟨.endOfInput, "", position⟩] ∧
      (∀ t ∈ body, t.kind ≠ .endOfInput) ∧
      tokenize (a ++ "\n" ++ b) tab = body ++ ⟨.newline, "\n", position⟩ ::
        (tokenize b tab).map (Token.moveDown (1 + a.toList.count '\n')) := by
  refine ⟨Lexer.content tab .origin a.toList, Position.origin.advance tab a.toList,
    Lexer.scan_eq_content .., fun t ht => (Lexer.content_nonempty ht).1, ?_⟩
  have hline : (Position.origin.advance tab a.toList).line = 1 + a.toList.count '\n' := by
    rw [Position.advance_origin, Position.behind]
  have hsource : (a ++ "\n" ++ b).toList = a.toList ++ '\n' :: b.toList := by
    rw [String.toList_append, String.toList_append, List.append_assoc]
    rfl
  rw [tokenize, hsource, Lexer.scan_append_newline, hline, tokenize, ← Lexer.scan_moveDown,
    Position.moveDown, Position.origin, Nat.add_comm 1 (1 + a.toList.count '\n')]

/-- A string that its line cuts off takes nothing of the next line. -/
example : tokenize "'a\\\nb'" 1 =
    [⟨.stringLiteral, "'a\\", ⟨1, 1⟩⟩, ⟨.newline, "\n", ⟨1, 4⟩⟩, ⟨.identifier, "b", ⟨2, 1⟩⟩,
     ⟨.stringLiteral, "'", ⟨2, 2⟩⟩, ⟨.endOfInput, "", ⟨2, 3⟩⟩] := by
  decide +kernel

end ChartLint
