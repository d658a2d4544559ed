import RuleTree.Proofs.Parse.Bisimulation
import RuleTree.Proofs.Parse.Pruning

/-!
# Rules that never come to answer

A rule is shadowed by an earlier one that answers wherever it would. If no excluder can tell the two
apart, they stay together in all rule sets that are derived on the way down, in the same order, and
the later one is never asked. It may then be taken out of the rule set. Its other settings are of no
account, and nothing is asked of the other rules.
-/

namespace RuleTree

/-- Wherever `r` succeeds or fails, so does `s`, and excluders drop both or neither: the rules have the
same name, and either both have no option, or both have one that is a function, or both have literal
options that no excluder tells apart. -/
structure Rule.ShadowedBy (r s : Rule) : Prop where
  name : r.name = s.name
  option : (r.option = none ∧ s.option = none) ∨
    (∃ f g, r.option = some (.function f) ∧ s.option = some (.function g)) ∨
    (∃ v w, r.option = some (.literal v) ∧ s.option = some (.literal w) ∧
      ∀ e : Excluder, e.selects r = e.selects s)
  answers : ∀ t, r.matcher.spans t ≠ .ok none → s.matcher.spans t ≠ .ok none

theorem Rule.ShadowedBy.selects_eq {r s : Rule} (h : r.ShadowedBy s) (e : Excluder) :
    e.selects r = e.selects s := by
  rcases h.option with ⟨hr, hs⟩ | ⟨f, g, hr, hs⟩ | ⟨_, _, _, _, hselects⟩
  · rw [Excluder.selects, Excluder.selects, h.name, hr, hs]
  · -- An excluder with an option selects neither, one without selects both.
    rw [Excluder.selects, Excluder.selects, h.name, hr, hs]
    rfl
  · exact hselects e

namespace RuleSet

variable {rules rules' : RuleSet} {r s : Rule} {text : Text}

/-- A rule that passes on the text may be left out of the search. -/
theorem findMatch_erase (h : r.matcher.spans text = .ok none) (before after : RuleSet) :
    findMatch (before ++ r :: after) text = findMatch (before ++ after) text := by
  induction before with
  | nil => exact findMatch_cons_none h
  | cons b before ih =>
    rw [List.cons_append, List.cons_append, findMatch, findMatch, ih]

/-- Behind a rule that does not pass on the text, the search does not go on. -/
theorem findMatch_cut (h : s.matcher.spans text ≠ .ok none) (before after after' : RuleSet) :
    findMatch (before ++ s :: after) text = findMatch (before ++ s :: after') text := by
  induction before with
  | nil =>
    cases hs : s.matcher.spans text with
    | error e =>
      rw [List.nil_append, List.nil_append, findMatch_cons_error hs, findMatch_cons_error hs]
    | ok found =>
      cases found with
      | none => exact absurd hs h
      | some spans =>
        rw [List.nil_append, List.nil_append, findMatch_cons_some hs, findMatch_cons_some hs]
  | cons b before ih =>
    rw [List.cons_append, List.cons_append, findMatch, findMatch, ih]

/-- The rule sets are the same, or `r` is taken out of the first at a place behind `s`. -/
inductive Unshadowed (s r : Rule) : RuleSet → RuleSet → Prop
  | same (rules : RuleSet) : Unshadowed s r rules rules
  | erased (before middle after : RuleSet) :
      Unshadowed s r (before ++ s :: (middle ++ r :: after)) (before ++ s :: (middle ++ after))

theorem Unshadowed.findMatch_eq (h : Unshadowed s r rules rules') (hr : r.ShadowedBy s) (text : Text) :
    rules.findMatch text = rules'.findMatch text := by
  cases h with
  | same => rfl
  | erased before middle after =>
    by_cases hs : s.matcher.spans text = .ok none
    · have hpass : r.matcher.spans text = .ok none := by
        by_contra hne
        exact hr.answers text hne hs
      have herase := findMatch_erase hpass (before ++ s :: middle) after
      simpa only [List.append_assoc, List.cons_append] using herase
    · exact findMatch_cut hs before _ _

/-- Both rules are kept for the captured text, in the same order, or both are gone. -/
theorem Unshadowed.childRules (h : Unshadowed s r rules rules') (hr : r.ShadowedBy s) (q : Rule) :
    Unshadowed s r (q.childRules rules) (q.childRules rules') := by
  cases h with
  | same => exact .same _
  | erased before middle after =>
    unfold Rule.childRules
    cases q.replacement with
    | some rs => exact .same rs
    | none =>
      have hselects : (q.excluders.any fun e => e.selects r) =
          q.excluders.any fun e => e.selects s := by simp only [hr.selects_eq]
      simp only [including, without, List.filter_append, List.filter_cons, hselects]
      cases q.excluders.any fun e => e.selects s with
      | true => exact .same _
      | false =>
        have herased := Unshadowed.erased (s := s) (r := r)
          (q.included ++ before.filter fun x => !q.excluders.any (·.selects x))
          (middle.filter fun x => !q.excluders.any (·.selects x))
          (after.filter fun x => !q.excluders.any (·.selects x))
        simpa only [List.append_assoc, Bool.not_false, ↓reduceIte] using herased

theorem unshadowed_bisimulation (hr : r.ShadowedBy s) : Bisimulation (Unshadowed s r) := by
  intro rules rules' h text
  rw [← h.findMatch_eq hr text]
  rcases rules.findMatch text with e | _ | ⟨q, spans⟩
  · exact .failure e
  · exact .nothing
  · exact .found spans (.refl q) (h.childRules hr q)

end RuleSet

/-- A rule that is shadowed by an earlier one may be taken out, whatever stands before, between and
behind the two: the outcome of a parse stays the same, if there is one, and no outcome comes up where
there was none. -/
theorem parse_erase_shadowed (before middle after : RuleSet) (s r : Rule) (hr : r.ShadowedBy s)
    (limit : Option Int) (text : Text) (out : Parse (List Node)) :
    (∃ steps, parse steps limit text (before ++ s :: (middle ++ r :: after)) = some out) ↔
      ∃ steps, parse steps limit text (before ++ s :: (middle ++ after)) = some out :=
  (RuleSet.unshadowed_bisimulation hr).halts_iff (.erased before middle after) limit out

/-- Two marks in a row, which would be skipped. -/
def Rule.doubleMark : Rule where
  name := "mark"
  matcher := .function ⟨.named "marks", fun
    | 'x' :: 'x' :: _ => .ok (.list [.tuple [.int 0, .int 2]])
    | _ => .ok .null⟩
  skip := true

theorem Rule.doubleMark_shadowedBy : Rule.doubleMark.ShadowedBy Rule.mark where
  name := rfl
  option := Or.inl ⟨rfl, rfl⟩
  answers := by
    intro t ht hs
    apply ht
    simp only [doubleMark, Matcher.spans]
    split
    · cases hs
    · rfl

/-- A bracket that includes the two marks in a row. -/
def Rule.markedBracket : Rule := { Rule.bracket with included := [Rule.doubleMark] }

/-- Where the bracket includes it, the later rule does answer; where it stands behind the other one, it
may go. -/
theorem parse_erase_doubleMark :
    Rule.doubleMark.ShadowedBy Rule.mark ∧
    parse 20 none ['x', 'x', '(', 'x', 'x'] [Rule.mark, Rule.markedBracket, Rule.doubleMark] =
      some (.ok [.branch "mark" [.text ['x']], .branch "mark" [.text ['x']],
        .branch "bracket" [.text ['x', 'x']]]) ∧
    ∃ steps, parse steps none ['x', 'x', '(', 'x', 'x'] [Rule.mark, Rule.markedBracket] =
      some (.ok [.branch "mark" [.text ['x']], .branch "mark" [.text ['x']],
        .branch "bracket" [.text ['x', 'x']]]) := by
  have h : parse 20 none ['x', 'x', '(', 'x', 'x']
        [Rule.mark, Rule.markedBracket, Rule.doubleMark] =
      some (.ok [.branch "mark" [.text ['x']], .branch "mark" [.text ['x']],
        .branch "bracket" [.text ['x', 'x']]]) := rfl
  refine ⟨Rule.doubleMark_shadowedBy, h, ?_⟩
  exact (parse_erase_shadowed [] [Rule.markedBracket] [] _ _ Rule.doubleMark_shadowedBy none _ _).mp
    ⟨20, h⟩

end RuleTree
