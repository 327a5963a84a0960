import ChartLint.Text.Split

/-!
# Paths

A path is a text with slashes.  Its components are what stands between the slashes: repeated slashes
count as one, and a point is a component only at the start of a path that is not absolute.  Paths are
compared by their components, so `a//b` and `a/./b` are equivalent to `a/b`, and `./a` is not
equivalent to `a`.  They are printed as they are written.
-/

namespace ChartLint

/-- A component of a path. -/
inductive Component where
  /-- The slash at the start. -/
  | root
  /-- The point at the start. -/
  | current
  /-- Two points. -/
  | parent
  /-- A name. -/
  | normal (name : String)
deriving DecidableEq, Repr

namespace Component

/-- The kinds of components in order. -/
def rank : Component → Nat
  | .root => 0
  | .current => 1
  | .parent => 2
  | .normal _ => 3

/-- The name of a component, if it is one. -/
def name : Component → String
  | .normal name => name
  | _ => ""

/-- By kind, then by name. -/
instance : LT Component where
  lt a b := a.rank < b.rank ∨ (a.rank = b.rank ∧ a.name < b.name)

instance (a b : Component) : Decidable (a < b) :=
  inferInstanceAs (Decidable (a.rank < b.rank ∨ (a.rank = b.rank ∧ a.name < b.name)))

end Component

/-- A path as it is written. -/
structure Path where
  /-- The text of the path. -/
  text : String
deriving DecidableEq, Repr, Inhabited

namespace Path

/-- What stands between the slashes of a path. -/
def segments (p : Path) : List String :=
  Text.split '/' p.text

/-- Does the path start with a slash? -/
def isAbsolute (p : Path) : Bool :=
  p.text.startsWith "/"

/-- Is the segment no component behind the start of a path? -/
def isVoid (segment : String) : Bool :=
  segment == "" || segment == "."

/-- The component of a segment that is not void. -/
def componentOf (segment : String) : Component :=
  if segment = ".." then .parent else .normal segment

/-- The components of segments behind the start of a path. -/
def innerComponents (segments : List String) : List Component :=
  (segments.filter (!isVoid ·)).map componentOf

/-- The components of a path. -/
def components (p : Path) : List Component :=
  match p.segments with
  | [] => []
  | first :: rest =>
    if p.isAbsolute then .root :: innerComponents rest
    else if first = "." then .current :: innerComponents rest
    else innerComponents (first :: rest)

/-- Paths are ordered by their components. -/
instance : LT Path where
  lt a b := a.components < b.components

instance (a b : Path) : Decidable (a < b) :=
  inferInstanceAs (Decidable (a.components < b.components))

/-- Put a path behind another one.  An absolute path takes its place. -/
def join (p q : Path) : Path :=
  if q.isAbsolute || p.text = "" then q
  else if p.text.endsWith "/" then ⟨p.text ++ q.text⟩
  else ⟨p.text ++ "/" ++ q.text⟩

/-- The name that the path ends with. -/
def fileName? (p : Path) : Option String :=
  match p.components.getLast? with
  | some (.normal name) => some name
  | _ => none

/-- What follows the last point of the name; none if nothing but the point stands before it. -/
def extension? (p : Path) : Option String := do
  let name ← p.fileName?
  match (Text.splitAt '.' name.toList).reverse with
  | extension :: before :: more =>
    if more.isEmpty && before.isEmpty then none else some (String.ofList extension)
  | _ => none

/-- Do the components of the path end with those of `q`? -/
def endsWith (p q : Path) : Bool :=
  q.components.isSuffixOf p.components

/-- Segments without the void ones at their end. -/
def dropVoid (reversed : List String) : List String :=
  reversed.dropWhile isVoid

/-- The path without its last component.  A path without one, and the root, have no parent. -/
def parent? (p : Path) : Option Path :=
  match p.components with
  | [] => none
  | [.root] => none
  | [.current] => some ⟨""⟩
  | _ =>
    match dropVoid p.segments.reverse with
    | [] => none
    | _ :: before =>
      let kept := dropVoid before
      if kept.isEmpty then
        some ⟨if p.isAbsolute then "/" else if p.segments.head? = some "." then "." else ""⟩
      else some ⟨"/".intercalate kept.reverse⟩

/-- A path and its parents, up to `n` of them. -/
def ancestorsUpTo : Nat → Path → List Path
  | 0, p => [p]
  | n + 1, p => p :: (p.parent?.map (ancestorsUpTo n)).getD []

/-- A path, its parent, the parent of that, and so on. -/
def ancestors (p : Path) : List Path :=
  ancestorsUpTo p.components.length p

end Path

end ChartLint
