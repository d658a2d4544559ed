import RuleTree.Command.Run
import RuleTree.Proofs.Parse.Failure
import RuleTree.Proofs.RuleFile.Sources

/-!
# Parsing with loaded rules

A rule file can only hold plain data, so its rules find matches with patterns, format with fixed texts
and carry fixed options, and a capture is refused unless it counts spans from the first one on. The same
is true of all rules that they hold. Parsing with them fails only in ways that
a command reports. That such a parse halts is not claimed: a rule file can ask for endless nesting.
-/

namespace RuleTree.RuleFile

theorem format_ne_function {rule : String} {d : Option Datum} {f : Option Formatter}
    (h : format rule d = .ok f) (g : FormatterFunction) : f ≠ some (.function g) := by
  rintro rfl
  unfold format at h
  split at h <;> cases h

theorem capture_nonneg {rule : String} {d : Option Datum} {capture : Option Int}
    (h : RuleFile.capture rule d = .ok capture) : ∀ k, capture = some k → 0 ≤ k := by
  rintro k rfl
  unfold RuleFile.capture at h
  split at h
  · cases h
  · cases h
  · split at h
    · next hnonneg =>
      cases h
      exact hnonneg
    · cases h
  · cases h

theorem ruleHead_static {es : List (Datum × Datum)} {head : Rule}
    (h : ruleHead es = .ok head) : head.Static := by
  obtain ⟨name, _, h⟩ := bind_eq_ok.mp h
  obtain ⟨capture, hcapture, h⟩ := bind_eq_ok.mp h
  obtain ⟨formatter, hformat, h⟩ := bind_eq_ok.mp h
  obtain ⟨p, _, h⟩ := bind_eq_ok.mp h
  obtain ⟨exclude, _, h⟩ := bind_eq_ok.mp h
  obtain rfl := pure_eq_ok.mp h
  refine ⟨⟨p, rfl⟩, format_ne_function hformat, ?_, capture_nonneg hcapture⟩
  intro f hf
  obtain ⟨v, _, hv⟩ := Option.map_eq_some_iff.mp hf
  cases hv

/-- The rules that a rule holds do not matter for whether it is static itself. -/
theorem ReadFrom.static {rulesets : List (Datum × Datum)} {r : Rule}
    (h : ReadFrom rulesets r) : r.Static := by
  obtain ⟨es, head, _, hhead, hr⟩ := h
  have hstatic := ruleHead_static hhead
  rw [hr]
  exact ⟨hstatic.matcher, hstatic.formatter, hstatic.option, hstatic.capture⟩

theorem load_static {data name : Datum} {rules : RuleSet} (h : load data name = .ok rules) :
    ∀ r, RuleSet.Occurs r rules → r.Static := by
  rcases load_cases data name with ⟨m, he⟩ | ⟨sets, _, ⟨rules', hok, hall⟩ | ⟨e, he, _⟩⟩
  · cases h.symm.trans he
  · cases h.symm.trans hok
    exact fun r hr => (hall r hr).static
  · cases h.symm.trans he

end RuleTree.RuleFile

namespace RuleTree

namespace Spec

/-- The rules of a rule set as ready-made parts. -/
def ofRuleSet (rules : RuleSet) : Spec := .tuple (rules.map fun r => .object (.rule r))

theorem rules_map_rule (rules : RuleSet) :
    Spec.rules (rules.map fun r => .object (.rule r)) = .ok rules := by
  induction rules with
  | nil => rw [List.map_nil, Spec.rules]; rfl
  | cons r rs ih => rw [List.map_cons, Spec.rules, ih, Spec.member]; rfl

/-- Ready-made rules are taken over as they are, also if there are two of them. -/
theorem ruleset_ofRuleSet (rules : RuleSet) : Spec.ruleset (ofRuleSet rules) = .ok rules := by
  rw [ofRuleSet, Spec.ruleset, rules_map_rule]
  intro name spec he
  cases rules with
  | nil => cases he
  | cons r rs => cases he

end Spec

namespace RuleFile

/-- Rules that were loaded from data are taken over as they are. If a parse with them ends, it ends with
nodes or with one of five errors: a match that nests too deep, or one that consumes nothing, captures a
span that is not there, captures a group that took no part or captures text behind it. A command
reports all of these. -/
theorem parse_loaded_foreseen {data name : Datum} {rules : RuleSet}
    (hload : load data name = .ok rules) :
    Spec.ruleset (Spec.ofRuleSet rules) = .ok rules ∧
    ∀ (limit : Option Int) (text : Text) (steps : Nat) (out : Parse (List Node)),
      parse steps limit text rules = some out →
      (∃ nodes, out = .ok nodes) ∨
      ∃ e, out = .error e ∧ e.Foreseen limit rules ∧
        ∃ message, Command.parseMessage? e = some message := by
  refine ⟨Spec.ruleset_ofRuleSet rules, fun limit text steps out h => ?_⟩
  cases out with
  | ok nodes => exact Or.inl ⟨nodes, rfl⟩
  | error e =>
    have hdrive := Machine.drive_of_start_halts ⟨steps, h⟩
    have hforeseen := hdrive.error_foreseen (load_static hload) e rfl
    refine Or.inr ⟨e, rfl, hforeseen, ?_⟩
    cases hforeseen with
    | tooDeep => exact ⟨_, rfl⟩
    | nothingConsumed => exact ⟨_, rfl⟩
    | captureBeyondSpans => exact ⟨_, rfl⟩
    | captureAbsent => exact ⟨_, rfl⟩
    | captureBeyondMatch => exact ⟨_, rfl⟩

namespace Snares

/-- Rules that fail in all the ways there are: on `a`, `c`, `de`, `f` under a limit, and `z`. -/
def rules : List Datum :=
  [.mapping [(.str "name", .str "far"), (.str "match", .str "a"), (.str "capture", .int 5)],
    .mapping [(.str "name", .str "gap"), (.str "match", .str "(b)?(c)"), (.str "capture", .int 1)],
    .mapping [(.str "name", .str "ahead"), (.str "match", .str "d(?=(e))")],
    .mapping [(.str "name", .str "deep"), (.str "match", .str "f")],
    .mapping [(.str "name", .str "blank"), (.str "match", .str "x*")]]

def data : Datum :=
  .mapping [(.str "rulesets", .mapping [(.str "main", .mapping [(.str "rules", .list rules)])])]

/-- The message with which a parse with the rules fails. -/
def failure (limit : Option Int) (text : Text) : Option String :=
  (load data (.str "main")).toOption.bind fun rules =>
    match parse 9 limit text rules with
    | some (.error e) => Command.parseMessage? e
    | _ => none

end Snares

/-- Each of the five errors comes about. -/
theorem parse_loaded_snares :
    Snares.failure none ['a'] =
      some "Rule 'far' selects capture 5 but its matcher returned 1 span(s)" ∧
    Snares.failure none ['c'] =
      some "Rule 'gap' selects a capture group that did not take part in the match" ∧
    Snares.failure none ['d', 'e'] =
      some "Rule 'ahead' captured span (1, 1) beyond the consumed region ending at 1" ∧
    Snares.failure (some 0) ['f'] = some "Rule 'deep' matched at a nesting depth beyond 0" ∧
    Snares.failure none ['z'] = some "Rule 'blank' matched without consuming any input" ∧
    ∃ rules, load Snares.data (.str "main") = .ok rules ∧
      ∀ limit text steps e, parse steps limit text rules = some (.error e) →
        e.Foreseen limit rules := by
  refine ⟨by decide +kernel, by decide +kernel, by decide +kernel, by decide +kernel,
    by decide +kernel, ?_⟩
  have hload : (load Snares.data (.str "main")).isOk = true := by decide +kernel
  cases h : load Snares.data (.str "main") with
  | error e =>
    rw [h] at hload
    cases hload
  | ok rules =>
    refine ⟨rules, rfl, fun limit text steps e he => ?_⟩
    rcases (parse_loaded_foreseen h).2 limit text steps _ he with ⟨_, hok⟩ | ⟨_, herror, hforeseen, _⟩
    · cases hok
    · cases herror
      exact hforeseen

end RuleFile

end RuleTree
