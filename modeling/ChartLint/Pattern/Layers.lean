import ChartLint.Pattern.Error

/-!
# How deep a pattern is nested

The layers of a construct are spans: first its own, then that of the first construct nested in it,
then that of the first construct nested two levels deep, and so on.  Single characters, anchors and
points have no layers.  So the number of layers is the depth of nesting, and the layer at a depth
tells where that depth is first reached.
-/

namespace ChartLint.Pattern

/-- The first span at every depth. -/
abbrev Layers := List Span

namespace Layers

/-- The layers of two constructs side by side. -/
def beside : Layers → Layers → Layers
  | [], l => l
  | l, [] => l
  | a :: as, _ :: bs => a :: beside as bs

/-- The layers of several constructs side by side. -/
def all (ls : List Layers) : Layers := ls.foldr beside []

/-- Side by side, the depth is the larger one. -/
theorem length_beside (l l' : Layers) : (beside l l').length = max l.length l'.length := by
  fun_induction beside l l' with
  | case1 => simp
  | case2 => simp
  | case3 a as b bs ih => simp [ih]

end Layers

end ChartLint.Pattern
