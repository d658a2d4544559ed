import Mathlib.Logic.Function.Basic
import RuleTree.Rule.Derive

/-!
# Renamed rules

The names of rules and excluders are given anew, wherever they occur in a rule set. Names are only ever
compared with one another, so if different names stay different, excluders select the same rules as
before and the same child rules are derived, up to their names.

An excluder may have a name that is not a text. It selects nothing, and keeps its name.
-/

namespace RuleTree

/-- The excluder with its name given anew. The option that it asks for stays. -/
def Excluder.renamed (f : String → String) (e : Excluder) : Excluder :=
  { e with name :=
      match e.name with
      | .str n => .str (f n)
      | other => other }

mutual

/-- The rule with its own name, the names in its excluders and those of all rules that occur below it
given anew. -/
def Rule.renamed (f : String → String) : Rule → Rule
  | ⟨name, matcher, capture, formatter, option, ignore, skip, exclude, included, replacement⟩ =>
    { matcher, capture, formatter, option, ignore, skip
      name := f name
      exclude := exclude.map (List.map (Excluder.renamed f))
      included := RuleSet.renamed f included
      replacement :=
        match replacement with
        | none => none
        | some rs => some (RuleSet.renamed f rs) }

def RuleSet.renamed (f : String → String) : RuleSet → RuleSet
  | [] => []
  | r :: rs => r.renamed f :: RuleSet.renamed f rs

end

variable {f : String → String}

/-! ## Renamed rules -/

theorem Rule.renamed_eq (f : String → String) (r : Rule) :
    r.renamed f = { r with
      name := f r.name
      exclude := r.exclude.map (List.map (Excluder.renamed f))
      included := RuleSet.renamed f r.included
      replacement := r.replacement.map (RuleSet.renamed f) } := by
  obtain ⟨name, matcher, capture, formatter, option, ignore, skip, exclude, included, replacement⟩ := r
  cases replacement <;> rfl

namespace Rule

variable (r : Rule)

@[simp] theorem renamed_name : (r.renamed f).name = f r.name := by rw [renamed_eq]

@[simp] theorem renamed_matcher : (r.renamed f).matcher = r.matcher := by rw [renamed_eq]

@[simp] theorem renamed_capture : (r.renamed f).capture = r.capture := by rw [renamed_eq]

@[simp] theorem renamed_formatter : (r.renamed f).formatter = r.formatter := by rw [renamed_eq]

@[simp] theorem renamed_option : (r.renamed f).option = r.option := by rw [renamed_eq]

@[simp] theorem renamed_ignore : (r.renamed f).ignore = r.ignore := by rw [renamed_eq]

@[simp] theorem renamed_skip : (r.renamed f).skip = r.skip := by rw [renamed_eq]

end Rule

namespace RuleSet

theorem renamed_eq_map (f : String → String) (rules : RuleSet) :
    rules.renamed f = rules.map (Rule.renamed f) := by
  induction rules with
  | nil => rfl
  | cons r rs ih => rw [renamed, ih, List.map_cons]

theorem renamed_append (rules others : RuleSet) :
    renamed f (rules ++ others) = rules.renamed f ++ others.renamed f := by
  simp only [renamed_eq_map, List.map_append]

end RuleSet

/-! ## Excluders and child rules -/

/-- Whether a rule is selected depends on whether two names are equal, not on the names. -/
theorem Excluder.selects_renamed (hf : Function.Injective f) (e : Excluder) (r : Rule) :
    (e.renamed f).selects (r.renamed f) = e.selects r := by
  have hnamed : (e.renamed f).isNamed (f r.name) = e.isNamed r.name := by
    obtain ⟨name, option⟩ := e
    cases name with
    | str n =>
      simp only [renamed, isNamed]
      rw [Bool.eq_iff_iff, beq_iff_eq, beq_iff_eq, hf.eq_iff]
    | _ => rfl
  rw [selects, selects, Rule.renamed_name, Rule.renamed_option, hnamed]
  rfl

theorem Rule.excluders_renamed (r : Rule) :
    (r.renamed f).excluders = r.excluders.map (Excluder.renamed f) := by
  have hexclude : (r.renamed f).exclude = r.exclude.map (List.map (Excluder.renamed f)) := by
    rw [renamed_eq]
  cases he : r.exclude with
  | none =>
    rw [excluders, excluders, hexclude, he, renamed_name]
    rfl
  | some es =>
    rw [excluders, excluders, hexclude, he]
    rfl

theorem RuleSet.without_renamed (hf : Function.Injective f) (rules : RuleSet) (es : List Excluder) :
    RuleSet.without (rules.renamed f) (es.map (Excluder.renamed f)) =
      (rules.without es).renamed f := by
  simp only [without, renamed_eq_map, List.filter_map, Function.comp_def, List.any_map,
    Excluder.selects_renamed hf]

/-- Child rules are derived from renamed rules as from the rules themselves. -/
theorem Rule.childRules_renamed (hf : Function.Injective f) (r : Rule) (rules : RuleSet) :
    (r.renamed f).childRules (rules.renamed f) = RuleSet.renamed f (r.childRules rules) := by
  cases hr : r.replacement with
  | some rs => simp only [childRules, renamed_eq, hr, Option.map_some]
  | none =>
    have hrenamed : (r.renamed f).replacement = none := by rw [renamed_eq, hr]; rfl
    have hincluded : (r.renamed f).included = RuleSet.renamed f r.included := by rw [renamed_eq]
    simp only [childRules, hr, hrenamed, hincluded, excluders_renamed, RuleSet.without_renamed hf,
      RuleSet.including, RuleSet.renamed_append]

end RuleTree
