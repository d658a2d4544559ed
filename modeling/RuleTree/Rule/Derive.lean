import RuleTree.Rule.Basic

/-!
# Derived rule sets

The rules under which the text captured by a match is parsed. The rule set of the match itself is
never changed.
-/

namespace RuleTree

namespace Rule

/-- The excluders in force for the captured text of a rule. -/
def excluders (r : Rule) : List Excluder :=
  match r.exclude with
  | none => [.ofName r.name]
  | some es => es

end Rule

namespace RuleSet

/-- The rules that none of the excluders selects. -/
def without (rules : RuleSet) (es : List Excluder) : RuleSet :=
  rules.filter fun r => !es.any (·.selects r)

/-- Included rules stand in front, so they take priority. -/
def including (rules included : RuleSet) : RuleSet := included ++ rules

end RuleSet

/-- The rule set for the captured text of a match of `r` among `rules`. -/
def Rule.childRules (r : Rule) (rules : RuleSet) : RuleSet :=
  match r.replacement with
  | some rs => rs
  | none => (RuleSet.without rules r.excluders).including r.included

@[simp] theorem RuleSet.without_nil (rules : RuleSet) : rules.without [] = rules := by
  simp [RuleSet.without]

@[simp] theorem RuleSet.including_nil (rules : RuleSet) : rules.including [] = rules := rfl

end RuleTree
