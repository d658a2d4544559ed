import Mathlib.Data.List.DropRight
import Mathlib.Data.List.FinRange
import RuleTree.Rule.Derive

/-!
# Rules along a path

Matches nest, and each derives the rules for its captured text from those in force around it. Along a
path of matches these can be told at once. Every rule on the path has put in front what it includes,
and this is thinned out by the rules further inside, not by the rule itself. A replacement forgets all
that was there before it. Whether the rules of a path do match one inside the other is not asked.
-/

namespace RuleTree

/-- The rules in force below a path of matches, the outermost of which comes first. -/
def RuleSet.along (rules : RuleSet) (path : List Rule) : RuleSet :=
  path.foldl (fun around r => r.childRules around) rules

/-- The rules of a path that come after the last one with a replacement. -/
def Rule.unreplaced (path : List Rule) : List Rule := path.rtakeWhile (·.replacement.isNone)

/-- What a path starts from: the last replacement on it, or else the rules around it. -/
def RuleSet.base (rules : RuleSet) (path : List Rule) : RuleSet :=
  (path.reverse.findSome? Rule.replacement).getD rules

variable {rules : RuleSet} {path : List Rule} {r s : Rule}

namespace RuleSet

theorem without_append (rules others : RuleSet) (es : List Excluder) :
    without (rules ++ others) es = rules.without es ++ others.without es :=
  List.filter_append ..

theorem without_without (rules : RuleSet) (es fs : List Excluder) :
    (rules.without es).without fs = rules.without (es ++ fs) := by
  simp only [without, List.filter_filter, List.any_append, Bool.not_or, Bool.and_comm]

theorem along_append (rules : RuleSet) (path inner : List Rule) :
    rules.along (path ++ inner) = (rules.along path).along inner :=
  List.foldl_append

/-! ## Paths without a replacement -/

/-- What the rules of a path include, the innermost first, each time without the rules that are
excluded further inside. -/
def includedAlong : List Rule → RuleSet
  | [] => []
  | r :: inner => includedAlong inner ++ without r.included (inner.flatMap Rule.excluders)

theorem along_of_unreplaced (h : ∀ r ∈ path, r.replacement = none) :
    rules.along path = includedAlong path ++ rules.without (path.flatMap Rule.excluders) := by
  induction path generalizing rules with
  | nil => simp [along, includedAlong]
  | cons r inner ih =>
    have hr : r.childRules rules = r.included ++ rules.without r.excluders := by
      rw [Rule.childRules, h r List.mem_cons_self]
      rfl
    calc rules.along (r :: inner)
        = (r.childRules rules).along inner := rfl
      _ = includedAlong inner ++ (r.childRules rules).without (inner.flatMap Rule.excluders) :=
        ih fun s hs => h s (List.mem_cons_of_mem r hs)
      _ = includedAlong (r :: inner) ++ rules.without ((r :: inner).flatMap Rule.excluders) := by
        rw [hr, without_append, without_without, includedAlong, List.flatMap_cons,
          List.append_assoc]

/-- The same by places on the path, from the last to the first. -/
theorem includedAlong_eq_flatMap (path : List Rule) :
    includedAlong path = (List.finRange path.length).reverse.flatMap fun k : Fin path.length =>
      without path[k].included ((path.drop (k + 1)).flatMap Rule.excluders) := by
  induction path with
  | nil => rfl
  | cons r inner ih =>
    rw [includedAlong, ih]
    simp [List.finRange_succ, List.flatMap_map, ← List.map_reverse]

/-! ## Replacements -/

/-- Only the rules behind the last replacement count. -/
theorem along_eq_base (rules : RuleSet) (path : List Rule) :
    rules.along path = (rules.base path).along (Rule.unreplaced path) := by
  induction path using List.reverseRecOn with
  | nil => rfl
  | append_singleton path r ih =>
    cases hr : r.replacement with
    | some rs =>
      have hbase : rules.base (path ++ [r]) = rs := by simp [base, hr]
      have hnone : Rule.unreplaced (path ++ [r]) = [] := by simp [Rule.unreplaced, hr]
      rw [hbase, hnone, along_append]
      simp [along, Rule.childRules, hr]
    | none =>
      have hbase : rules.base (path ++ [r]) = rules.base path := by simp [base, hr]
      have hsome : Rule.unreplaced (path ++ [r]) = Rule.unreplaced path ++ [r] := by
        simp [Rule.unreplaced, hr]
      rw [hbase, hsome, along_append, along_append, ih]

/-- A rule in force below a path was in force around it, or was brought in on the path. -/
theorem mem_along (h : s ∈ rules.along path) :
    s ∈ rules ∨ ∃ r ∈ path, s ∈ r.included ∨ ∃ rs, r.replacement = some rs ∧ s ∈ rs := by
  induction path generalizing rules with
  | nil => exact Or.inl h
  | cons r inner ih =>
    rcases ih h with hs | ⟨q, hq, hs⟩
    · change s ∈ r.childRules rules at hs
      unfold Rule.childRules at hs
      split at hs
      · next rs hrs => exact Or.inr ⟨r, List.mem_cons_self, Or.inr ⟨rs, hrs, hs⟩⟩
      · rcases List.mem_append.mp hs with hs | hs
        · exact Or.inr ⟨r, List.mem_cons_self, Or.inl hs⟩
        · exact Or.inl (List.mem_filter.mp hs).1
    · exact Or.inr ⟨q, List.mem_cons_of_mem r hq, hs⟩

/-- Below any path, the rules in force are what the rules behind the last replacement include, from the
innermost outwards and each time without the rules that are excluded further inside, and then the last
replacement (or the rules around the path) without all that is excluded behind it. A rule that is no
longer in force somewhere on the path is in force again only if a rule further inside includes it or has
it in its replacement. -/
theorem along_closed_form (rules : RuleSet) (path : List Rule) :
    rules.along path =
      ((List.finRange (Rule.unreplaced path).length).reverse.flatMap
        fun k : Fin (Rule.unreplaced path).length =>
          without (Rule.unreplaced path)[k].included
            (((Rule.unreplaced path).drop (k + 1)).flatMap Rule.excluders)) ++
      (rules.base path).without ((Rule.unreplaced path).flatMap Rule.excluders) ∧
    ∀ outer inner, path = outer ++ inner → ∀ s, s ∉ rules.along outer → s ∈ rules.along path →
      ∃ r ∈ inner, s ∈ r.included ∨ ∃ rs, r.replacement = some rs ∧ s ∈ rs := by
  constructor
  · have hnone : ∀ r ∈ Rule.unreplaced path, r.replacement = none := by
      intro r hr
      have hr := List.mem_rtakeWhile_imp (p := fun s : Rule => s.replacement.isNone) hr
      exact Option.isNone_iff_eq_none.mp hr
    rw [along_eq_base, along_of_unreplaced hnone, includedAlong_eq_flatMap]
  · rintro outer inner rfl s hout hs
    rw [along_append] at hs
    exact (mem_along hs).resolve_left hout

end RuleSet

/-- A rule that finds nothing. -/
def Rule.inert (name : String) : Rule where
  name := name
  matcher := .function ⟨.named name, fun _ => .ok .null⟩

namespace DetourPath

/-- Starts anew with the rules `a`, `b` and `c`. -/
def shelf : Rule :=
  { Rule.inert "shelf" with replacement := some [.inert "a", .inert "b", .inert "c"] }

/-- Drops itself and brings in two rules. -/
def lead : Rule := { Rule.inert "a" with included := [.inert "d", .inert "b"] }

/-- Drops the rules named `b` and brings in another one of that name. -/
def swap : Rule :=
  { Rule.inert "c" with
    exclude := some [.ofName "b"]
    included := [{ Rule.inert "b" with skip := true }] }

/-- Drops nothing and brings back the rule `a`. -/
def back : Rule := { Rule.inert "e" with exclude := some [], included := [.inert "a"] }

def outer : List Rule := [shelf, lead, swap]

end DetourPath

theorem RuleSet.along_closed_form_detour :
    (RuleSet.along [.inert "z"] (DetourPath.outer ++ [DetourPath.back])).map
        (fun r => (r.name, r.skip)) =
      [("a", false), ("b", true), ("d", false), ("c", false)] ∧
    Rule.inert "a" ∉ RuleSet.along [.inert "z"] DetourPath.outer ∧
    Rule.inert "a" ∈ RuleSet.along [.inert "z"] (DetourPath.outer ++ [DetourPath.back]) ∧
    ∃ r ∈ [DetourPath.back], .inert "a" ∈ r.included ∨
      ∃ rs, r.replacement = some rs ∧ .inert "a" ∈ rs := by
  obtain ⟨hform, hback⟩ := along_closed_form [.inert "z"] (DetourPath.outer ++ [DetourPath.back])
  have hgone : Rule.inert "a" ∉ RuleSet.along [.inert "z"] DetourPath.outer := by
    intro h
    have hname : "a" ∈ (RuleSet.along [.inert "z"] DetourPath.outer).map Rule.name :=
      List.mem_map_of_mem h
    revert hname
    decide
  have hagain : Rule.inert "a" ∈
      RuleSet.along [.inert "z"] (DetourPath.outer ++ [DetourPath.back]) := List.mem_cons_self
  refine ⟨?_, hgone, hagain, hback _ _ rfl _ hgone hagain⟩
  rw [hform]
  decide

end RuleTree
