import RuleTree.Proofs.Parse.Bisimulation
import RuleTree.Proofs.Parse.Pruning

/-!
# Rules that never match

A mute rule finds nothing in any text, and never fails. It has no influence on a parse, wherever it
stands: among the rules, among those that a rule includes or puts in the place of the others, at any
depth. Rule sets that are equal once their mute rules are left out are a bisimulation. Excluders may
drop a mute rule or keep it; either way it is left out of the child rules too.

A mute rule does change the way in which the machine gets to the outcome, since a frame with rules
reads its literal text character by character.
-/

namespace RuleTree

/-- The matcher of the rule passes on every text. -/
def Rule.Mute (r : Rule) : Prop := ∀ t, r.matcher.spans t = .ok none

section

open scoped Classical

mutual

/-- The rule without the mute rules that occur below it. -/
noncomputable def Rule.voiced : Rule → Rule
  | ⟨name, matcher, capture, formatter, option, ignore, skip, exclude, included, replacement⟩ =>
    { name, matcher, capture, formatter, option, ignore, skip, exclude
      included := RuleSet.voiced included
      replacement :=
        match replacement with
        | none => none
        | some rs => some (RuleSet.voiced rs) }

/-- The rule set without the mute rules that occur in it. -/
noncomputable def RuleSet.voiced : RuleSet → RuleSet
  | [] => []
  | r :: rs => if r.Mute then RuleSet.voiced rs else r.voiced :: RuleSet.voiced rs

end

end

/-! ## Leaving out mute rules -/

theorem Rule.voiced_eq (r : Rule) :
    r.voiced = { r with
      included := RuleSet.voiced r.included
      replacement := r.replacement.map RuleSet.voiced } := by
  obtain ⟨name, matcher, capture, formatter, option, ignore, skip, exclude, included, replacement⟩ := r
  cases replacement <;> simp only [voiced, Option.map]

theorem Rule.sameEffect_voiced (r : Rule) : r.SameEffect r.voiced := by
  rw [voiced_eq]
  exact ⟨⟨rfl, rfl, rfl, rfl⟩, rfl, rfl, rfl⟩

theorem Rule.SameEffect.of_voiced_eq {r r' : Rule} (h : r.voiced = r'.voiced) : r.SameEffect r' := by
  have hr := r.sameEffect_voiced
  rw [h] at hr
  exact hr.trans r'.sameEffect_voiced.symm

namespace RuleSet

theorem voiced_cons_of_mute {r : Rule} (h : r.Mute) (rs : RuleSet) : voiced (r :: rs) = voiced rs := by
  rw [voiced, if_pos h]

theorem voiced_cons_of_not_mute {r : Rule} (h : ¬ r.Mute) (rs : RuleSet) :
    voiced (r :: rs) = r.voiced :: voiced rs := by
  rw [voiced, if_neg h]

theorem voiced_append (rules others : RuleSet) :
    voiced (rules ++ others) = voiced rules ++ voiced others := by
  induction rules with
  | nil => rw [voiced, List.nil_append, List.nil_append]
  | cons r rs ih =>
    rw [List.cons_append]
    by_cases h : r.Mute
    · rw [voiced_cons_of_mute h, voiced_cons_of_mute h, ih]
    · rw [voiced_cons_of_not_mute h, voiced_cons_of_not_mute h, ih, List.cons_append]

/-- Excluders see no difference between a rule and the same rule without mute rules below it. -/
theorem without_voiced (rules : RuleSet) (es : List Excluder) :
    without rules.voiced es = (rules.without es).voiced := by
  have hselects : ∀ r : Rule, (es.any fun e => e.selects r.voiced) = es.any fun e => e.selects r := by
    intro r
    simp only [Excluder.selects, ← r.sameEffect_voiced.name, ← r.sameEffect_voiced.option]
  simp only [without]
  induction rules with
  | nil => rw [List.filter_nil, voiced, List.filter_nil]
  | cons r rs ih =>
    by_cases hmute : r.Mute
    · rw [voiced_cons_of_mute hmute, ih, List.filter_cons]
      split
      · rw [voiced_cons_of_mute hmute]
      · rfl
    · rw [voiced_cons_of_not_mute hmute, List.filter_cons, List.filter_cons, ih, hselects]
      split
      · rw [voiced_cons_of_not_mute hmute]
      · rfl

end RuleSet

/-- Child rules without mute rules are derived from rules without mute rules. -/
theorem Rule.childRules_voiced (r : Rule) (rules : RuleSet) :
    r.voiced.childRules rules.voiced = (r.childRules rules).voiced := by
  have hexcluders : r.voiced.excluders = r.excluders := by rw [voiced_eq]; rfl
  cases hr : r.replacement with
  | some rs => simp only [childRules, voiced_eq, hr, Option.map_some]
  | none =>
    have hvoiced : r.voiced.replacement = none := by rw [voiced_eq, hr]; rfl
    have hincluded : r.voiced.included = RuleSet.voiced r.included := by rw [voiced_eq]
    simp only [childRules, hr, hvoiced, hexcluders, hincluded, RuleSet.without_voiced,
      RuleSet.including, RuleSet.voiced_append]

/-- A match whose rule has no mute rules below it. -/
noncomputable def Match.voiced (m : Match) : Match := ⟨m.rule.voiced, m.spans⟩

namespace RuleSet

/-- The search passes over mute rules. -/
theorem findMatch_voiced (rules : RuleSet) (text : Text) :
    rules.voiced.findMatch text = Option.map Match.voiced <$> rules.findMatch text := by
  induction rules with
  | nil =>
    rw [voiced]
    rfl
  | cons r rs ih =>
    by_cases hmute : r.Mute
    · rw [voiced_cons_of_mute hmute, ih, findMatch_cons_none (hmute text)]
    · have hmatcher : r.voiced.matcher = r.matcher := r.sameEffect_voiced.matcher.symm
      rw [voiced_cons_of_not_mute hmute]
      cases hm : r.matcher.spans text with
      | error e =>
        rw [findMatch_cons_error hm, findMatch_cons_error (hmatcher ▸ hm)]
        rfl
      | ok found =>
        cases found with
        | none => rw [findMatch_cons_none hm, findMatch_cons_none (hmatcher ▸ hm), ih]
        | some spans =>
          rw [findMatch_cons_some hm, findMatch_cons_some (hmatcher ▸ hm)]
          rfl

theorem voiced_bisimulation : Bisimulation fun rules rules' => rules.voiced = rules'.voiced := by
  intro rules rules' h text
  have hfind : Option.map Match.voiced <$> rules'.findMatch text =
      Option.map Match.voiced <$> rules.findMatch text := by
    rw [← findMatch_voiced, ← findMatch_voiced, h]
  generalize rules.findMatch text = found at hfind ⊢
  generalize rules'.findMatch text = found' at hfind ⊢
  rcases found with e | _ | m
  · rw [map_eq_error.mp hfind]
    exact .failure e
  · obtain ⟨m', rfl, hm⟩ := map_eq_ok.mp hfind
    rw [Option.map_eq_none_iff.mp hm]
    exact .nothing
  · obtain ⟨_, rfl, hm⟩ := map_eq_ok.mp hfind
    obtain ⟨⟨r', spans'⟩, rfl, hvoiced⟩ := Option.map_eq_some_iff.mp hm
    obtain ⟨r, spans⟩ := m
    obtain ⟨hr, rfl⟩ := Match.mk.inj hvoiced
    refine .found spans' (.of_voiced_eq hr.symm) ?_
    rw [← Rule.childRules_voiced, ← Rule.childRules_voiced, hr, h]

/-! ## Putting in a mute rule -/

/-- `rules'` is `rules` with the rule put in at one place: among the rules themselves, or among the
included or replacing rules of one of them, at any depth. -/
inductive Inserted (extra : Rule) : RuleSet → RuleSet → Prop
  | here (before after : RuleSet) : Inserted extra (before ++ after) (before ++ extra :: after)
  | included {r : Rule} {rs : RuleSet} (before after : RuleSet) :
      Inserted extra r.included rs →
      Inserted extra (before ++ r :: after) (before ++ { r with included := rs } :: after)
  | replacement {r : Rule} {rs rs' : RuleSet} (before after : RuleSet) :
      r.replacement = some rs → Inserted extra rs rs' →
      Inserted extra (before ++ r :: after) (before ++ { r with replacement := some rs' } :: after)

/-- One rule stands for another of the same matcher, if both are the same without mute rules. -/
theorem voiced_exchange {r r' : Rule} (hm : r'.matcher = r.matcher) (hv : r'.voiced = r.voiced)
    (before after : RuleSet) : voiced (before ++ r' :: after) = voiced (before ++ r :: after) := by
  have hmute : r'.Mute ↔ r.Mute := by rw [Rule.Mute, Rule.Mute, hm]
  rw [voiced_append, voiced_append]
  by_cases h : r.Mute
  · rw [voiced_cons_of_mute h, voiced_cons_of_mute (hmute.mpr h)]
  · rw [voiced_cons_of_not_mute h, voiced_cons_of_not_mute (hmute.not.mpr h), hv]

theorem Inserted.voiced_eq {extra : Rule} {rules rules' : RuleSet} (h : Inserted extra rules rules')
    (hextra : extra.Mute) : rules'.voiced = rules.voiced := by
  induction h with
  | here before after => rw [voiced_append, voiced_append, voiced_cons_of_mute hextra]
  | included before after _ ih =>
    apply voiced_exchange
    · rfl
    · rw [Rule.voiced_eq, Rule.voiced_eq, ih]
  | replacement before after hr _ ih =>
    apply voiced_exchange
    · rfl
    · rw [Rule.voiced_eq, Rule.voiced_eq, hr, Option.map_some, Option.map_some, ih]

end RuleSet

/-- A mute rule may be put in anywhere, whatever its name and its settings are: the outcome of a parse
stays the same, if there is one, and no outcome comes up where there was none. -/
theorem parse_insert_mute (extra : Rule) (hextra : extra.Mute) (rules rules' : RuleSet)
    (h : RuleSet.Inserted extra rules rules') (limit : Option Int) (text : Text)
    (out : Parse (List Node)) :
    (∃ steps, parse steps limit text rules = some out) ↔
      ∃ steps, parse steps limit text rules' = some out :=
  RuleSet.voiced_bisimulation.halts_iff (h.voiced_eq hextra).symm limit out

/-- Finds nothing, and would skip what it does not find. -/
def Rule.hush : Rule where
  name := "bracket"
  matcher := .function ⟨.named "never", fun _ => .ok .null⟩
  skip := true
  included := [Rule.mark]

/-- A bracket whose text is parsed with these rules only. -/
def Rule.sealed (rules : RuleSet) : Rule := { Rule.bracket with replacement := some rules }

/-- Where the text of a bracket was read at once, it is read character by character. -/
theorem parse_insert_hush :
    Rule.hush.Mute ∧ RuleSet.Inserted Rule.hush [Rule.sealed []] [Rule.sealed [Rule.hush]] ∧
    parse 5 none ['a', '(', 'x', '('] [Rule.sealed []] =
      some (.ok [.text ['a'], .branch "bracket" [.text ['x', '(']]]) ∧
    parse 5 none ['a', '(', 'x', '('] [Rule.sealed [Rule.hush]] = none ∧
    ∃ steps, parse steps none ['a', '(', 'x', '('] [Rule.sealed [Rule.hush]] =
      some (.ok [.text ['a'], .branch "bracket" [.text ['x', '(']]]) := by
  have hmute : Rule.hush.Mute := fun _ => rfl
  have hinserted : RuleSet.Inserted Rule.hush [Rule.sealed []] [Rule.sealed [Rule.hush]] :=
    .replacement (r := Rule.sealed []) [] [] rfl (.here [] [])
  have h : parse 5 none ['a', '(', 'x', '('] [Rule.sealed []] =
      some (.ok [.text ['a'], .branch "bracket" [.text ['x', '(']]]) := rfl
  exact ⟨hmute, hinserted, h, rfl,
    (parse_insert_mute _ hmute _ _ hinserted none _ _).mp ⟨5, h⟩⟩

end RuleTree
