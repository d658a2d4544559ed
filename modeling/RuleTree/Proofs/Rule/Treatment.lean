import RuleTree.Proofs.Parse.Acceptance
import RuleTree.Proofs.Rule.Occurrence

/-!
# Other treatment of matches

`ignore` and `skip` say what becomes of the nodes of a match, and nothing else. Here they are set
anew for all rules of one name, wherever these occur in a rule set. The rules treated in this way find
the same matches, cut the text in the same places and derive the same child rules, up to the treatment
of these. What it does to the nodes of a parse is not settled here.
-/

namespace RuleTree

/-- New values of `ignore` and `skip`, from the old ones, for the rules of a name. -/
structure Treatment where
  name : String
  ignore : Bool → Bool
  skip : Bool → Bool

mutual

/-- The rule with the treatment applied to it and to all rules that occur below it. -/
def Rule.treated (t : Treatment) : Rule → Rule
  | ⟨name, matcher, capture, formatter, option, ignore, skip, exclude, included, replacement⟩ =>
    { name, matcher, capture, formatter, option, exclude
      ignore := if name = t.name then t.ignore ignore else ignore
      skip := if name = t.name then t.skip skip else skip
      included := RuleSet.treated t included
      replacement :=
        match replacement with
        | none => none
        | some rs => some (RuleSet.treated t rs) }

def RuleSet.treated (t : Treatment) : RuleSet → RuleSet
  | [] => []
  | r :: rs => r.treated t :: RuleSet.treated t rs

end

/-- A match whose rule is treated. -/
def Match.treated (t : Treatment) (m : Match) : Match := ⟨m.rule.treated t, m.spans⟩

/-- A construction whose rules are treated; its texts stay. -/
def Construction.treated (t : Treatment) (c : Construction) : Construction :=
  { c with found := c.found.treated t, childRules := RuleSet.treated t c.childRules }

namespace Construction

variable {t : Treatment} (c : Construction)

@[simp] theorem treated_rule : (c.treated t).found.rule = c.found.rule.treated t := rfl

@[simp] theorem treated_spans : (c.treated t).found.spans = c.found.spans := rfl

@[simp] theorem treated_source : (c.treated t).source = c.source := rfl

end Construction

variable {t u : Treatment}

/-! ## Treated rules -/

/-- Only the two settings change, and the rules below. -/
theorem Rule.treated_eq (t : Treatment) (r : Rule) :
    r.treated t = { r with
      ignore := if r.name = t.name then t.ignore r.ignore else r.ignore
      skip := if r.name = t.name then t.skip r.skip else r.skip
      included := RuleSet.treated t r.included
      replacement := r.replacement.map (RuleSet.treated t) } := by
  obtain ⟨name, matcher, capture, formatter, option, ignore, skip, exclude, included, replacement⟩ := r
  cases replacement <;> rfl

namespace Rule

@[simp] theorem treated_name (r : Rule) : (r.treated t).name = r.name := by rw [treated_eq]

@[simp] theorem treated_matcher (r : Rule) : (r.treated t).matcher = r.matcher := by rw [treated_eq]

@[simp] theorem treated_option (r : Rule) : (r.treated t).option = r.option := by rw [treated_eq]

theorem treated_ignore (r : Rule) :
    (r.treated t).ignore = if r.name = t.name then t.ignore r.ignore else r.ignore := by
  rw [treated_eq]

theorem treated_skip (r : Rule) :
    (r.treated t).skip = if r.name = t.name then t.skip r.skip else r.skip := by
  rw [treated_eq]

end Rule

namespace RuleSet

theorem treated_eq_map (t : Treatment) (rules : RuleSet) :
    rules.treated t = rules.map (Rule.treated t) := by
  induction rules with
  | nil => rfl
  | cons r rs ih => rw [treated, ih, List.map_cons]

theorem treated_append (rules others : RuleSet) :
    treated t (rules ++ others) = rules.treated t ++ others.treated t := by
  simp only [treated_eq_map, List.map_append]

theorem mem_treated {rules : RuleSet} {r : Rule} :
    r ∈ rules.treated t ↔ ∃ s ∈ rules, s.treated t = r := by
  rw [treated_eq_map, List.mem_map]

/-- What occurs in treated rules is a treated rule. -/
theorem Occurs.of_treated {rules : RuleSet} {r : Rule} (h : Occurs r (rules.treated t)) :
    ∃ s, Occurs s rules ∧ s.treated t = r := by
  generalize he : rules.treated t = treatedRules at h
  induction h generalizing rules with
  | member hr =>
    subst he
    obtain ⟨s, hs, rfl⟩ := mem_treated.mp hr
    exact ⟨s, .member hs, rfl⟩
  | included hm _ ih =>
    subst he
    obtain ⟨s, hs, rfl⟩ := mem_treated.mp hm
    obtain ⟨below, hbelow, rfl⟩ := ih (by rw [Rule.treated_eq])
    exact ⟨below, .included hs hbelow, rfl⟩
  | replacement hm hr _ ih =>
    subst he
    obtain ⟨s, hs, rfl⟩ := mem_treated.mp hm
    simp only [Rule.treated_eq, Option.map_eq_some_iff] at hr
    obtain ⟨rs, hrs, rfl⟩ := hr
    obtain ⟨below, hbelow, rfl⟩ := ih rfl
    exact ⟨below, .replacement hs hrs hbelow, rfl⟩

end RuleSet

/-! ## One treatment after another -/

/-- What `u` sets does not depend on what `t` has set before. -/
structure Treatment.Overrides (u t : Treatment) : Prop where
  name : u.name = t.name
  ignore : ∀ b, u.ignore (t.ignore b) = u.ignore b
  skip : ∀ b, u.skip (t.skip b) = u.skip b

mutual

theorem Rule.treated_treated (h : u.Overrides t) :
    (r : Rule) → (r.treated t).treated u = r.treated u
  | ⟨name, _, _, _, _, ignore, skip, _, included, none⟩ => by
    have hin := RuleSet.treated_treated h included
    simp only [Rule.treated, h.name, hin]
    split <;> simp only [h.ignore, h.skip]
  | ⟨name, _, _, _, _, ignore, skip, _, included, some rs⟩ => by
    have hin := RuleSet.treated_treated h included
    have hrs := RuleSet.treated_treated h rs
    simp only [Rule.treated, h.name, hin, hrs]
    split <;> simp only [h.ignore, h.skip]

theorem RuleSet.treated_treated (h : u.Overrides t) :
    (rules : RuleSet) → (rules.treated t).treated u = rules.treated u
  | [] => rfl
  | r :: rs => by
    simp only [RuleSet.treated, Rule.treated_treated h r, RuleSet.treated_treated h rs]

end

/-! ## Child rules and matches -/

theorem RuleSet.without_treated (rules : RuleSet) (es : List Excluder) :
    RuleSet.without (rules.treated t) es = (rules.without es).treated t := by
  have hselects : ∀ (e : Excluder) (r : Rule), e.selects (r.treated t) = e.selects r := by
    intro e r
    rw [Excluder.selects, Excluder.selects, Rule.treated_name, Rule.treated_option]
  simp only [without, treated_eq_map, List.filter_map, Function.comp_def, hselects]

/-- Child rules are derived from treated rules as from the rules themselves. -/
theorem Rule.childRules_treated (r : Rule) (rules : RuleSet) :
    (r.treated t).childRules (rules.treated t) = RuleSet.treated t (r.childRules rules) := by
  have hexcluders : (r.treated t).excluders = r.excluders := by rw [treated_eq]; rfl
  cases hr : r.replacement with
  | some rs => simp only [childRules, treated_eq, hr, Option.map_some]
  | none =>
    have htreated : (r.treated t).replacement = none := by rw [treated_eq, hr]; rfl
    have hincluded : (r.treated t).included = RuleSet.treated t r.included := by rw [treated_eq]
    simp only [childRules, hr, htreated, hexcluders, hincluded, RuleSet.without_treated,
      RuleSet.including, RuleSet.treated_append]

theorem Match.prepare_treated (m : Match) (text : Text) (rules : RuleSet) :
    (m.treated t).prepare text (rules.treated t) =
      Construction.treated t <$> m.prepare text rules := by
  have hcut : (m.treated t).cut text = m.cut text := by
    unfold treated
    rw [Rule.treated_eq]
    rfl
  have hformat : (m.treated t).rule.formatter = m.rule.formatter := by
    unfold treated
    rw [Rule.treated_eq]
  have hchild : (m.treated t).rule.childRules (rules.treated t) =
      RuleSet.treated t (m.rule.childRules rules) := m.rule.childRules_treated rules
  unfold prepare
  rw [hcut, hformat, hchild]
  cases m.cut text with
  | error e => rfl
  | ok cut =>
    simp only [bind, Except.bind]
    cases Formatter.format m.rule.formatter cut.1 <;> rfl

namespace RuleSet

variable {rules : RuleSet} {text : Text} {r : Rule} {c : Construction}

theorem Silent.treated (t : Treatment) (h : rules.Silent text) :
    Silent (rules.treated t) text := by
  intro r hr
  obtain ⟨s, hs, rfl⟩ := mem_treated.mp hr
  rw [Rule.treated_matcher]
  exact h s hs

theorem Answers.treated (t : Treatment) (h : rules.Answers text r) :
    Answers (rules.treated t) text (r.treated t) := by
  obtain ⟨before, after, rfl, hs⟩ := h
  exact ⟨before.treated t, treated t after, treated_append _ _, hs.treated t⟩

/-- Treated rules accept the same matches. -/
theorem Accepts.treated (t : Treatment) (h : rules.Accepts text c) :
    Accepts (rules.treated t) text (c.treated t) where
  answers := h.answers.treated t
  finds := (congrArg (fun m => Matcher.spans m text) (Rule.treated_matcher _)).trans h.finds
  prepared := by
    have hp := c.found.prepare_treated (t := t) text rules
    rw [h.prepared] at hp
    exact hp

end RuleSet

end RuleTree
