import RuleTree.Rule.Derive

/-!
# Rules within rules

A rule occurs in a rule set if it stands in it, or in the included rules or the replacement of a rule
that occurs in it. The child rules of a match bring in no rule that did not occur before, and if the
matched rule drops itself they have fewer occurrences: what it includes it carried all along, and it
is gone. Nothing is said here about rules that stay in force for their own captured text.
-/

namespace RuleTree

/-- `r` occurs in the rule set, at any depth of inclusion and replacement. -/
inductive RuleSet.Occurs (r : Rule) : RuleSet → Prop
  | member {rules : RuleSet} : r ∈ rules → Occurs r rules
  | included {rules : RuleSet} {s : Rule} : s ∈ rules → Occurs r s.included → Occurs r rules
  | replacement {rules rs : RuleSet} {s : Rule} :
      s ∈ rules → s.replacement = some rs → Occurs r rs → Occurs r rules

mutual

/-- The rule itself and all rules that occur below it, each as often as it stands there. -/
def Rule.occurrences : Rule → Nat
  | ⟨_, _, _, _, _, _, _, _, included, replacement⟩ =>
    1 + RuleSet.occurrences included +
      match replacement with
      | none => 0
      | some rs => RuleSet.occurrences rs

def RuleSet.occurrences : List Rule → Nat
  | [] => 0
  | r :: rs => r.occurrences + RuleSet.occurrences rs

end

/-- The rule is no longer in force for the text that it captures. -/
def Rule.DropsItself (r : Rule) : Prop :=
  r.replacement.isSome = true ∨ r.exclude = none ∨
    ∃ es, r.exclude = some es ∧ ∃ e ∈ es, e.selects r = true

namespace RuleSet

variable {r s : Rule} {rules others : RuleSet}

theorem Occurs.mono (h : Occurs r rules) (hs : rules ⊆ others) : Occurs r others := by
  cases h with
  | member hr => exact .member (hs hr)
  | included hm h => exact .included (hs hm) h
  | replacement hm he h => exact .replacement (hs hm) he h

@[simp] theorem not_occurs_nil : ¬ Occurs r [] := by
  intro h
  cases h with
  | member hr => cases hr
  | included hm _ => cases hm
  | replacement hm _ _ => cases hm

theorem occurs_append : Occurs r (rules ++ others) ↔ Occurs r rules ∨ Occurs r others := by
  constructor
  · intro h
    cases h with
    | member hr =>
      rcases List.mem_append.mp hr with hr | hr
      · exact Or.inl (.member hr)
      · exact Or.inr (.member hr)
    | included hm h =>
      rcases List.mem_append.mp hm with hm | hm
      · exact Or.inl (.included hm h)
      · exact Or.inr (.included hm h)
    | replacement hm he h =>
      rcases List.mem_append.mp hm with hm | hm
      · exact Or.inl (.replacement hm he h)
      · exact Or.inr (.replacement hm he h)
  · rintro (h | h)
    · exact h.mono (List.subset_append_left _ _)
    · exact h.mono (List.subset_append_right _ _)

theorem occurs_cons :
    Occurs r (s :: rules) ↔ r = s ∨ Occurs r s.included ∨
      (∃ rs, s.replacement = some rs ∧ Occurs r rs) ∨ Occurs r rules := by
  constructor
  · intro h
    cases h with
    | member hr =>
      rcases List.mem_cons.mp hr with rfl | hr
      · exact Or.inl rfl
      · exact Or.inr (Or.inr (Or.inr (.member hr)))
    | included hm h =>
      rcases List.mem_cons.mp hm with rfl | hm
      · exact Or.inr (Or.inl h)
      · exact Or.inr (Or.inr (Or.inr (.included hm h)))
    | replacement hm he h =>
      rcases List.mem_cons.mp hm with rfl | hm
      · exact Or.inr (Or.inr (Or.inl ⟨_, he, h⟩))
      · exact Or.inr (Or.inr (Or.inr (.replacement hm he h)))
  · rintro (rfl | h | ⟨rs, he, h⟩ | h)
    · exact .member List.mem_cons_self
    · exact .included List.mem_cons_self h
    · exact .replacement List.mem_cons_self he h
    · exact h.mono (List.subset_cons_self _ _)

/-- The captured text of a match sees only rules that occurred before. -/
theorem Occurs.of_childRules (hs : s ∈ rules) (h : Occurs r (s.childRules rules)) :
    Occurs r rules := by
  unfold Rule.childRules at h
  split at h
  · next rs he => exact .replacement hs he h
  · rcases occurs_append.mp h with h | h
    · exact .included hs h
    · exact h.mono List.filter_sublist.subset

theorem occurrences_append (rules others : RuleSet) :
    occurrences (rules ++ others) = occurrences rules + occurrences others := by
  induction rules with
  | nil => simp [occurrences]
  | cons r rs ih => rw [List.cons_append, occurrences, ih, occurrences, Nat.add_assoc]

theorem occurrences_filter_le (p : Rule → Bool) (rules : RuleSet) :
    occurrences (rules.filter p) ≤ occurrences rules := by
  induction rules with
  | nil => exact Nat.le_refl _
  | cons r rs ih =>
    rw [List.filter_cons]
    split
    · rw [occurrences, occurrences]; omega
    · rw [occurrences]; omega

/-- A rule that is filtered out takes all its occurrences with it. -/
theorem occurrences_filter_add_le {p : Rule → Bool} (hr : r ∈ rules) (hp : p r = false) :
    occurrences (rules.filter p) + r.occurrences ≤ occurrences rules := by
  induction rules with
  | nil => cases hr
  | cons s rs ih =>
    rcases List.mem_cons.mp hr with rfl | hr
    · have hle := occurrences_filter_le p rs
      rw [List.filter_cons_of_neg (by rw [hp]; exact Bool.false_ne_true), occurrences]
      omega
    · have hle := ih hr
      rw [List.filter_cons]
      split
      · rw [occurrences, occurrences]; omega
      · rw [occurrences]; omega

end RuleSet

namespace Rule

variable {r : Rule} {rules : RuleSet}

theorem occurrences_eq (r : Rule) :
    r.occurrences = 1 + RuleSet.occurrences r.included +
      (r.replacement.map RuleSet.occurrences).getD 0 := by
  obtain ⟨name, matcher, capture, formatter, option, ignore, skip, exclude, included, replacement⟩ := r
  cases replacement <;> simp [occurrences]

theorem selects_ofName (r : Rule) : (Excluder.ofName r.name).selects r = true := by
  simp [Excluder.selects, Excluder.isNamed, Excluder.ofName]

theorem DropsItself.excluded (h : r.DropsItself) (hn : r.replacement = none) :
    r.excluders.any (·.selects r) = true := by
  rcases h with h | h | ⟨es, hes, e, he, hsel⟩
  · rw [hn] at h
    cases h
  · simp [excluders, h, selects_ofName]
  · rw [excluders, hes]
    exact List.any_eq_true.mpr ⟨e, he, hsel⟩

/-- Below a match of a rule that drops itself there are fewer occurrences of rules: the replacement
and the included rules are among those that the rule counts below itself. -/
theorem DropsItself.occurrences_childRules_lt (h : r.DropsItself) (hr : r ∈ rules) :
    RuleSet.occurrences (r.childRules rules) < RuleSet.occurrences rules := by
  have hcount := r.occurrences_eq
  cases hn : r.replacement with
  | some rs =>
    have hle := RuleSet.occurrences_filter_add_le (p := fun _ => false) hr rfl
    simp only [hn, Option.map_some, Option.getD_some] at hcount
    simp only [childRules, hn]
    omega
  | none =>
    have hle := RuleSet.occurrences_filter_add_le (p := fun s => !r.excluders.any (·.selects s)) hr
      (by rw [h.excluded hn]; rfl)
    simp only [childRules, hn, RuleSet.including, RuleSet.without, RuleSet.occurrences_append]
    omega

end Rule

end RuleTree
