import ChartLint.Text.CodeRange

/-!
# Blanks, lines and trimming

A blank is a character with the property *White_Space* of the Unicode character database.  A text
is trimmed of its blanks at both ends, and it is cut into lines at its line feeds.  A carriage
return in front of a line feed belongs to the line end; one that ends the text does not.
-/

namespace ChartLint.Text

/-- The ranges of blanks, in increasing order. -/
def blankRanges : Array CodeRange := #[
  ⟨0x9, 0xD⟩, ⟨0x20, 0x20⟩, ⟨0x85, 0x85⟩, ⟨0xA0, 0xA0⟩, ⟨0x1680, 0x1680⟩, ⟨0x2000, 0x200A⟩,
  ⟨0x2028, 0x2029⟩, ⟨0x202F, 0x202F⟩, ⟨0x205F, 0x205F⟩, ⟨0x3000, 0x3000⟩]

/-- Is the character a blank? -/
def isBlank (c : Char) : Bool :=
  inRanges blankRanges c

/-- A list of characters without the blanks at its end. -/
def trimRight (cs : List Char) : List Char :=
  (cs.reverse.dropWhile isBlank).reverse

/-- A list of characters without the blanks at its two ends. -/
def trimChars (cs : List Char) : List Char :=
  trimRight (cs.dropWhile isBlank)

/-- A text without the blanks at its two ends. -/
def trim (s : String) : String :=
  String.ofList (trimChars s.toList)

/-- The lines of a list of characters, without their line ends.  What follows the last line feed
is a line unless it is empty. -/
def splitLines : List Char → List (List Char)
  | [] => []
  | c :: cs =>
    if c = '\n' then [] :: splitLines cs
    else if c = '\r' ∧ cs.head? = some '\n' then splitLines cs
    else match splitLines cs with
      | [] => [[c]]
      | line :: more => (c :: line) :: more

/-- The lines of a text. -/
def lines (s : String) : List String :=
  (splitLines s.toList).map String.ofList

end ChartLint.Text
