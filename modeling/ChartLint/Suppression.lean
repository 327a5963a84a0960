import ChartLint.Diagnostic
import ChartLint.NameSet
import ChartLint.Text.Blank
import ChartLint.Text.Split
import ChartLint.Token

/-!
# Suppression comments

A comment that starts with `// noqa` silences findings on its line.  With a colon and a list of names
behind it, it silences the findings whose rule id or category is in the list; otherwise it silences
all of them.  The list is made of English letters, digits, underscores, commas and blanks, and ends
at the first other character.  The case of the names does not count.  A list without a name silences
everything, as no list does.
-/

namespace ChartLint

/-- What a suppression comment silences. -/
inductive Directive where
  /-- Every finding. -/
  | all
  /-- The findings with these rule ids or categories, in upper case. -/
  | only (names : NameSet)

namespace Directive

/-- May the character stand in a list of names? -/
def isListChar (c : Char) : Bool :=
  c.isAlphanum || c == '_' || c == ',' || Text.isBlank c

/-- The names of a list, trimmed and in upper case. -/
def listedNames (cs : List Char) : List String :=
  ((Text.splitAt ',' (cs.takeWhile isListChar)).map fun piece =>
    Text.uppercase (String.ofList (Text.trimChars piece))).filter (· != "")

/-- What follows the word `noqa` in a comment. -/
def ofTail (tail : List Char) : Directive :=
  match tail.dropWhile Text.isBlank with
  | ':' :: list =>
    let names := listedNames list
    if names.isEmpty then .all else .only (.ofList names)
  | _ => .all

/-- The directive in the text of a comment. -/
def ofComment? (text : String) : Option Directive :=
  match text.toList with
  | '/' :: '/' :: rest =>
    match rest.dropWhile Text.isBlank with
    | 'n' :: 'o' :: 'q' :: 'a' :: tail => some (ofTail tail)
    | _ => none
  | _ => none

/-- Does the directive silence findings of that name, a rule id or a category? -/
def covers (d : Directive) (name : String) : Bool :=
  match d with
  | .all => true
  | .only names => names.contains (Text.uppercase name)

end Directive

/-- The directives of a script with their lines. -/
structure Suppressions where
  /-- Lines and directives, in order. -/
  entries : List (Nat × Directive)

namespace Suppressions

/-- No directives. -/
def empty : Suppressions := ⟨[]⟩

/-- The directives in the comments of a script. -/
def ofTokens (tokens : List Token) : Suppressions :=
  ⟨tokens.filterMap fun t =>
    if t.kind == .comment then (Directive.ofComment? t.text).map (t.position.line, ·) else none⟩

/-- Are findings of that name, a rule id or a category, silenced on a line? -/
def isSuppressed (s : Suppressions) (line : Nat) (name : String) : Bool :=
  s.entries.any fun (l, d) => l == line && d.covers name

/-- Is the finding silenced? -/
def suppresses (s : Suppressions) (d : Diagnostic) : Bool :=
  s.isSuppressed d.position.line d.ruleId || s.isSuppressed d.position.line d.category.name

/-- The lines on which everything is silenced. -/
def linesOfAll (s : Suppressions) : List Nat :=
  s.entries.filterMap fun (line, d) =>
    match d with
    | .all => some line
    | .only _ => none

/-- The lines on which some names are silenced, with the names. -/
def namesByLine (s : Suppressions) : List (Nat × NameSet) :=
  s.entries.filterMap fun (line, d) =>
    match d with
    | .all => none
    | .only names => some (line, names)

end Suppressions

end ChartLint
