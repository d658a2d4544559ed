import RuleTree.Proofs.Rule.Derivation
import RuleTree.Proofs.Rule.Occurrence
import RuleTree.Proofs.RuleFile.LoadedRules
import RuleTree.Proofs.RuleFile.SpecForm

/-!
# Rules written out

A rule is written out as the pair of its name and a mapping of its settings, in which matchers,
formatters, options and excluders stand as they are and the rules it holds are written out likewise. A
setting that is absent has no entry, while an empty list of excluders or rules has one. Building rules
from that gives the same rules back. A rule whose name is empty, or whose capture counts from the end,
here or further down, cannot be built at all and is left out.
-/

namespace RuleTree

/-! ## Settings under their names -/

namespace Spec

/-- The settings that have a value, each under its name. -/
def written (setting : String → Option Spec) (names : List String) : List (Spec × Spec) :=
  names.filterMap fun key => (setting key).map fun v => (.str key, v)

variable {setting : String → Option Spec} {names known : List String} {key : String}

theorem written_cons_none (h : setting key = none) :
    written setting (key :: names) = written setting names := by
  rw [written, List.filterMap_cons, h]
  rfl

theorem written_cons_some {v : Spec} (h : setting key = some v) :
    written setting (key :: names) = (.str key, v) :: written setting names := by
  rw [written, List.filterMap_cons, h]
  rfl

theorem field?_written (setting : String → Option Spec) (names : List String) (key : String) :
    Value.field? key (written setting names) = if key ∈ names then setting key else none := by
  induction names with
  | nil => rfl
  | cons name names ih =>
    cases hv : setting name with
    | none =>
      rw [written_cons_none hv, ih]
      by_cases hkey : key = name
      · simp [hkey, hv]
      · simp [hkey]
    | some v =>
      rw [written_cons_some hv, Value.field?]
      by_cases hkey : key = name
      · simp [hkey, hv]
      · rw [if_neg (Ne.symm hkey), ih]
        simp [hkey]

/-- A written setting is found again under its name. -/
theorem field?_settings (setting : String → Option Spec) (h : key ∈ settingNames) :
    Value.field? key (written setting settingNames) = setting key := by
  rw [field?_written, if_pos h]

theorem present?_settings (h : key ∈ settingNames) (hnull : setting key ≠ some .null) :
    present? key (written setting settingNames) = setting key := by
  unfold present?
  rw [field?_settings setting h]
  split
  · next hv => exact absurd hv hnull
  · rfl

theorem unknownKeys_written (setting : String → Option Spec) (h : names ⊆ known) :
    unknownKeys known (written setting names) = ([], false) := by
  induction names with
  | nil => rfl
  | cons name names ih =>
    rw [List.cons_subset] at h
    cases hv : setting name with
    | none => rw [written_cons_none hv, ih h.2]
    | some v => simp [written_cons_some hv, unknownKeys, ih h.2, h.1]

end Spec

namespace Rule

/-- The rule has a name, and a capture of it counts from the first span on. -/
structure Buildable (r : Rule) : Prop where
  named : r.name ≠ ""
  forward : ∀ k, r.capture = some k → 0 ≤ k

/-- The value of a setting, given the specifications of the rules that the rule holds. -/
def setting? (r : Rule) (included : List Spec) (replacement : Option (List Spec)) :
    String → Option Spec
  | "match" => some (.object (.matcher r.matcher))
  | "capture" => r.capture.map .int
  | "format" => r.formatter.map fun f => .object (.formatter f)
  | "option" => r.option.map fun o => .object (.option o)
  | "ignore" => some (.bool r.ignore)
  | "skip" => some (.bool r.skip)
  | "exclude" => r.exclude.map fun es => .list (es.map fun e => .object (.excluder e))
  | "include" => some (.list included)
  | "rules" => replacement.map .list
  | _ => none

end Rule

mutual

/-- A rule as the pair of its name and its settings. -/
def Rule.toSpec : Rule → Spec
  | r@⟨_, _, _, _, _, _, _, _, included, replacement⟩ =>
    .tuple [.str r.name, .mapping (Spec.written (r.setting? (RuleSet.toSpecs included)
      (match replacement with
        | none => none
        | some rs => some (RuleSet.toSpecs rs))) Spec.settingNames)]

def RuleSet.toSpecs : List Rule → List Spec
  | [] => []
  | r :: rs => r.toSpec :: RuleSet.toSpecs rs

end

theorem RuleSet.toSpecs_eq_map (rules : RuleSet) : toSpecs rules = rules.map Rule.toSpec := by
  induction rules with
  | nil => rfl
  | cons r rs ih => rw [toSpecs, ih, List.map_cons]

theorem Rule.toSpec_eq (r : Rule) :
    r.toSpec = .tuple [.str r.name, .mapping (Spec.written (r.setting? (RuleSet.toSpecs r.included)
      (r.replacement.map RuleSet.toSpecs)) Spec.settingNames)] := by
  obtain ⟨_, _, _, _, _, _, _, _, _, replacement⟩ := r
  cases replacement <;> rfl

/-! ## Building what was written -/

namespace Rule

variable {r : Rule} {included : List Spec} {replacement : Option (List Spec)}

theorem excluders_written (es : List Excluder) :
    Spec.excluders (.list (es.map fun e => .object (.excluder e))) = .ok es := by
  change (es.map fun e => (.object (.excluder e) : Spec)).mapM Spec.excluder = .ok es
  induction es with
  | nil => rfl
  | cons e es ih =>
    rw [List.map_cons, List.mapM_cons, ih]
    rfl

/-- All settings but the rules that the rule holds are read back from what was written. -/
theorem settings_written (h : r.Buildable) (included : List Spec)
    (replacement : Option (List Spec)) :
    Spec.settings r.name (Spec.written (r.setting? included replacement) Spec.settingNames) =
      .ok { r with included := [], replacement := none } := by
  rw [Spec.settings_eq_ok]
  refine ⟨Spec.unknownKeys_written _ (List.Subset.refl _), r.matcher, r.capture, r.formatter,
    r.exclude, ?_, ?_, ?_, ?_, ?_⟩
  · rw [Spec.field?_settings _ (by decide)]
    rfl
  · rw [Spec.present?_settings (by decide)]
    · simp only [setting?]
      cases hcapture : r.capture with
      | none => rfl
      | some k =>
        change Option.some <$> Spec.capture r.name (.int k) = .ok (some k)
        rw [Spec.capture, if_pos (h.forward k hcapture)]
        rfl
    · simp [setting?]
  · rw [Spec.present?_settings (by decide)]
    · simp only [setting?]
      cases r.formatter <;> rfl
    · simp [setting?]
  · rw [Spec.field?_settings _ (by decide)]
    simp only [setting?]
    cases r.exclude with
    | none => rfl
    | some es =>
      change Option.some <$> Spec.excluders _ = .ok (some es)
      rw [excluders_written]
      rfl
  · rw [Spec.field?_settings _ (by decide), Spec.field?_settings _ (by decide),
      Spec.field?_settings _ (by decide)]
    simp only [setting?]
    cases r.option <;> rfl

theorem included_written (h : Spec.rules included = .ok r.included) :
    Spec.nested "include" (Spec.written (r.setting? included replacement) Spec.settingNames) =
      .ok (some r.included) := by
  rw [Spec.nested_eq, Spec.present?_settings (by decide)]
  · change Option.some <$> Spec.ruleset (.list included) = .ok (some r.included)
    rw [Spec.ruleset, h]
    rfl
  · simp [setting?]

theorem replacement_written (h : replacement.mapM Spec.rules = .ok r.replacement) :
    Spec.nested "rules" (Spec.written (r.setting? included replacement) Spec.settingNames) =
      .ok r.replacement := by
  rw [Spec.nested_eq, Spec.present?_settings (by decide), ← h]
  · cases replacement with
    | none => rfl
    | some specs =>
      change Option.some <$> Spec.ruleset (.list specs) = Option.some <$> Spec.rules specs
      rw [Spec.ruleset]
  · simp [setting?]

/-- A rule is built again from what was written, if the rules that it holds are. -/
theorem rule_written (hr : r.Buildable) (hincluded : Spec.rules included = .ok r.included)
    (hreplacement : replacement.mapM Spec.rules = .ok r.replacement) :
    Spec.rule (.str r.name)
      (.mapping (Spec.written (r.setting? included replacement) Spec.settingNames)) = .ok r := by
  have hruleName : Spec.ruleName (.str r.name) = .ok r.name := by
    rw [Spec.ruleName, if_neg hr.named]
    rfl
  rw [Spec.rule, hruleName]
  simp only [bind, Except.bind, settings_written hr, included_written hincluded,
    replacement_written hreplacement]
  cases r
  rfl

end Rule

mutual

theorem Rule.member_toSpec : (r : Rule) → (∀ s, RuleSet.Occurs s [r] → s.Buildable) →
    Spec.member r.toSpec = .ok r
  | ⟨name, matcher, capture, formatter, option, ignore, skip, exclude, included, replacement⟩, h => by
    rw [Rule.toSpec_eq, Spec.member]
    refine Rule.rule_written (h _ (.member List.mem_cons_self)) ?_ ?_
    · exact RuleSet.rules_toSpecs included fun s hs => h s (.included List.mem_cons_self hs)
    · cases replacement with
      | none => rfl
      | some rs =>
        have hrs := RuleSet.rules_toSpecs rs fun s hs => h s (.replacement List.mem_cons_self rfl hs)
        change Option.some <$> Spec.rules (RuleSet.toSpecs rs) = .ok (some rs)
        rw [hrs]
        rfl

theorem RuleSet.rules_toSpecs : (rules : List Rule) → (∀ s, RuleSet.Occurs s rules → s.Buildable) →
    Spec.rules (RuleSet.toSpecs rules) = .ok rules
  | [], _ => by
    rw [RuleSet.toSpecs, Spec.rules]
    rfl
  | r :: rs, h => by
    have hr : ∀ s, RuleSet.Occurs s [r] → s.Buildable :=
      fun s hs => h s (hs.mono (by simp))
    have hrs : ∀ s, RuleSet.Occurs s rs → s.Buildable :=
      fun s hs => h s (hs.mono (List.subset_cons_self r rs))
    rw [RuleSet.toSpecs, Spec.rules, Rule.member_toSpec r hr, RuleSet.rules_toSpecs rs hrs]
    rfl

end

/-- Rules whose names are not empty and whose captures are not negative, at any depth, are built again
from the list of what they are written out as, and ready-made rules are taken over as they are, however
many there are. -/
theorem RuleSet.ruleset_written (rules : RuleSet)
    (hrules : ∀ r, RuleSet.Occurs r rules → r.Buildable) :
    Spec.ruleset (.list (rules.map Rule.toSpec)) = .ok rules ∧
      Spec.ruleset (Spec.ofRuleSet rules) = .ok rules := by
  refine ⟨?_, Spec.ruleset_ofRuleSet rules⟩
  rw [← toSpecs_eq_map, Spec.ruleset, rules_toSpecs rules hrules]

/-- A rule with all settings but a replacement, and one whose lists are empty or hold two rules. -/
def RuleSet.fullySet : RuleSet :=
  [{ Rule.inert "group" with
      capture := some 1
      formatter := some (.literal ['x'])
      option := some (.literal .null)
      ignore := true
      exclude := some [⟨.str "item", some (.int 1)⟩, .ofName "group"]
      included := [.inert "a"] },
    { Rule.inert "item" with
      skip := true
      exclude := some []
      replacement := some [.inert "b", { Rule.inert "c" with replacement := some [] }] }]

theorem RuleSet.ruleset_written_fullySet :
    (∀ r, RuleSet.Occurs r fullySet → r.Buildable) ∧
    Spec.ruleset (.list (fullySet.map Rule.toSpec)) = .ok fullySet ∧
    Spec.ruleset (Spec.ofRuleSet fullySet) = .ok fullySet := by
  have hrules : ∀ r, RuleSet.Occurs r fullySet → r.Buildable := by
    intro r hr
    simp only [fullySet, Rule.inert, occurs_cons, not_occurs_nil, reduceCtorEq, Option.some.injEq,
      exists_eq_left', false_and, exists_const, or_false, false_or] at hr
    rcases hr with rfl | rfl | rfl | rfl | rfl <;> exact ⟨by decide, by simp⟩
  exact ⟨hrules, ruleset_written fullySet hrules⟩

end RuleTree
