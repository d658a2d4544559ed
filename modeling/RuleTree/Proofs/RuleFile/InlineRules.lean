import RuleTree.Proofs.Outcome
import RuleTree.RuleFile.Load

/-!
# Inline rules

A rule may hold rules of its own under `include` and `rules`, and these may hold rules again; or it
takes them from a ruleset by name. Reading a rule asks for every ruleset that is named in it at any
depth, so it succeeds only if all of these are found. A rule that is well formed by itself fails only
where one of them is not found.
-/

namespace RuleTree.RuleFile

/-- The fields of a rule that hold rules. -/
def nestedFields : List String := ["include", "rules"]

section

variable {m : Type → Type} [Monad m] [MonadLiftT (Except LoadError) m] (resolve : Datum → m RuleSet)

/-- The rules that a field holds, by its value. -/
def nestedValue (context : String) : Option Datum → m (Option RuleSet)
  | none => return none
  | some (.str s) => some <$> resolve (.str s)
  | some (.list ds) => some <$> rules resolve ds
  | some _ => malformed (.rulesNotAList context)

theorem nested_eq (context field : String) (es : List (Datum × Datum)) :
    nested resolve context field es = nestedValue resolve context (Value.field? field es) := by
  induction es with
  | nil => rw [nested, Value.field?, nestedValue]
  | cons e es ih =>
    obtain ⟨k, v⟩ := e
    cases k with
    | str k =>
      by_cases hk : k = field
      · subst hk
        cases v <;> simp only [nested, Value.field?, nestedValue, ↓reduceIte]
      · cases v <;> simp only [nested, Value.field?, hk, ih, ↓reduceIte]
    | _ => exact ih

theorem rule_mapping (es : List (Datum × Datum)) :
    rule resolve (.mapping es) = do
      let head ← ruleHead es
      let included ← nestedValue resolve head.name (Value.field? "include" es)
      let replacement ← nestedValue resolve head.name (Value.field? "rules" es)
      return { head with included := included.getD [], replacement := replacement } := by
  simp only [rule, nested_eq]

theorem rule_of_not_mapping {d : Datum} (h : ∀ es, d ≠ .mapping es) :
    rule resolve d = malformed (.ruleNotAMapping (Datum.text d)) := by
  cases d with
  | mapping es => exact absurd rfl (h es)
  | _ => rfl

end

/-! ## Induction over inline rules -/

theorem sizeOf_field?_lt {field : String} {es : List (Datum × Datum)} {v : Datum}
    (h : Value.field? field es = some v) : sizeOf v < sizeOf es := by
  induction es with
  | nil => cases h
  | cons e es ih =>
    obtain ⟨k, w⟩ := e
    have hskip : Value.field? field es = some v → sizeOf v < sizeOf ((k, w) :: es) := by
      intro hv
      have hlt := ih hv
      simp only [List.cons.sizeOf_spec]
      omega
    cases k with
    | str k =>
      rw [Value.field?] at h
      split at h
      · obtain rfl := Option.some.inj h
        simp only [List.cons.sizeOf_spec, Prod.mk.sizeOf_spec]
        omega
      · exact hskip h
    | _ => exact hskip h

/-- A property of rules holds of all of them if it passes from the inline rules of each to itself. -/
theorem inline_induction {P : Datum → Prop}
    (h : ∀ d, (∀ es field ds, d = .mapping es → Value.field? field es = some (.list ds) →
      ∀ r ∈ ds, P r) → P d) (d : Datum) : P d := by
  generalize hn : sizeOf d = n
  induction n using Nat.strongRecOn generalizing d with
  | ind n ih =>
    subst hn
    refine h d ?_
    rintro es field ds rfl hfield r hr
    have hds := sizeOf_field?_lt hfield
    have hlt := List.sizeOf_lt_of_mem hr
    refine ih (sizeOf r) ?_ r rfl
    simp only [Value.list.sizeOf_spec, Value.mapping.sizeOf_spec] at hds ⊢
    omega

/-! ## Rulesets named in rules -/

/-- The rule, or one that stands inline in it at any depth, takes rules from the ruleset `name`. -/
inductive Mentions (name : String) : Datum → Prop
  | named {es : List (Datum × Datum)} {field : String} :
      field ∈ nestedFields → Value.field? field es = some (.str name) → Mentions name (.mapping es)
  | inline {es : List (Datum × Datum)} {field : String} {ds : List Datum} {r : Datum} :
      field ∈ nestedFields → Value.field? field es = some (.list ds) → r ∈ ds → Mentions name r →
      Mentions name (.mapping es)

theorem mentions_mapping {name : String} {es : List (Datum × Datum)} :
    Mentions name (.mapping es) ↔ ∃ field ∈ nestedFields,
      Value.field? field es = some (.str name) ∨
      ∃ ds, Value.field? field es = some (.list ds) ∧ ∃ r ∈ ds, Mentions name r := by
  constructor
  · intro h
    cases h with
    | named hfield hs => exact ⟨_, hfield, Or.inl hs⟩
    | inline hfield hds hr hm => exact ⟨_, hfield, Or.inr ⟨_, hds, _, hr, hm⟩⟩
  · rintro ⟨field, hfield, hs | ⟨ds, hds, r, hr, hm⟩⟩
    · exact .named hfield hs
    · exact .inline hfield hds hr hm

/-- The rule and those that stand inline in it are right by themselves, whatever the rulesets are that
they name. -/
inductive WellFormed : Datum → Prop
  | intro {es : List (Datum × Datum)} {head : Rule} :
      ruleHead es = .ok head →
      (∀ field ∈ nestedFields, ∀ v, Value.field? field es = some v →
        (∃ s, v = .str s) ∨ ∃ ds, v = .list ds) →
      (∀ field ∈ nestedFields, ∀ ds, Value.field? field es = some (.list ds) →
        ∀ r ∈ ds, WellFormed r) →
      WellFormed (.mapping es)

section

variable {named : Datum → Except LoadError RuleSet}

theorem rules_ok {ds : List Datum} {rs : RuleSet} (h : rules named ds = .ok rs) :
    ∀ d ∈ ds, ∃ r, rule named d = .ok r := by
  induction ds generalizing rs with
  | nil => simp
  | cons d ds ih =>
    rw [rules] at h
    obtain ⟨r, hr, h⟩ := bind_eq_ok.mp h
    obtain ⟨rest, hrest, _⟩ := bind_eq_ok.mp h
    intro x hx
    rcases List.mem_cons.mp hx with rfl | hx
    · exact ⟨r, hr⟩
    · exact ih hrest x hx

theorem rules_error {ds : List Datum} {e : LoadError} (h : rules named ds = .error e) :
    ∃ d ∈ ds, rule named d = .error e := by
  induction ds with
  | nil => cases h
  | cons d ds ih =>
    rw [rules] at h
    rcases bind_eq_error.mp h with h | ⟨r, _, h⟩
    · exact ⟨d, List.mem_cons_self, h⟩
    · rcases bind_eq_error.mp h with h | ⟨rs, _, h⟩
      · obtain ⟨x, hx, he⟩ := ih h
        exact ⟨x, List.mem_cons_of_mem d hx, he⟩
      · cases h

theorem rule_ok_nested {es : List (Datum × Datum)} {r : Rule} (h : rule named (.mapping es) = .ok r) :
    ∀ field ∈ nestedFields, ∃ context v,
      nestedValue named context (Value.field? field es) = .ok v := by
  rw [rule_mapping] at h
  obtain ⟨head, _, h⟩ := bind_eq_ok.mp h
  obtain ⟨included, hincluded, h⟩ := bind_eq_ok.mp h
  obtain ⟨replacement, hreplacement, _⟩ := bind_eq_ok.mp h
  intro field hfield
  simp only [nestedFields, List.mem_cons, List.not_mem_nil, or_false] at hfield
  rcases hfield with rfl | rfl
  · exact ⟨_, _, hincluded⟩
  · exact ⟨_, _, hreplacement⟩

theorem rule_error_nested {es : List (Datum × Datum)} {head : Rule} {e : LoadError}
    (hhead : ruleHead es = .ok head) (h : rule named (.mapping es) = .error e) :
    ∃ field ∈ nestedFields, nestedValue named head.name (Value.field? field es) = .error e := by
  rw [rule_mapping, hhead] at h
  rcases bind_eq_error.mp h with h | ⟨_, hok, h⟩
  · cases h
  cases hok
  rcases bind_eq_error.mp h with h | ⟨_, _, h⟩
  · exact ⟨"include", by simp [nestedFields], h⟩
  rcases bind_eq_error.mp h with h | ⟨_, _, h⟩
  · exact ⟨"rules", by simp [nestedFields], h⟩
  · cases h

/-- A rule is read only if every ruleset that it mentions is found. -/
theorem Mentions.found {s : String} {d : Datum} {r : Rule} (hm : Mentions s d)
    (h : rule named d = .ok r) : ∃ rs, named (.str s) = .ok rs := by
  induction hm generalizing r with
  | named hfield hs =>
    obtain ⟨context, v, hv⟩ := rule_ok_nested h _ hfield
    rw [hs, nestedValue] at hv
    obtain ⟨rs, hrs, _⟩ := map_eq_ok.mp hv
    exact ⟨rs, hrs⟩
  | inline hfield hds hr _ ih =>
    obtain ⟨context, v, hv⟩ := rule_ok_nested h _ hfield
    rw [hds, nestedValue] at hv
    obtain ⟨rs, hrs, _⟩ := map_eq_ok.mp hv
    obtain ⟨r', hr'⟩ := rules_ok hrs _ hr
    exact ih hr'

/-- A well-formed rule fails only because a ruleset that it mentions is not found. -/
theorem WellFormed.not_found {d : Datum} {e : LoadError} (hw : WellFormed d)
    (h : rule named d = .error e) : ∃ s, Mentions s d ∧ named (.str s) = .error e := by
  induction hw with
  | @intro es head hhead hshape _ ih =>
    obtain ⟨field, hfield, hv⟩ := rule_error_nested hhead h
    cases hf : Value.field? field es with
    | none =>
      rw [hf] at hv
      cases hv
    | some v =>
      rcases hshape field hfield v hf with ⟨s, rfl⟩ | ⟨ds, rfl⟩
      · rw [hf, nestedValue, map_eq_error] at hv
        exact ⟨s, .named hfield hf, hv⟩
      · rw [hf, nestedValue, map_eq_error] at hv
        obtain ⟨r, hr, he⟩ := rules_error hv
        obtain ⟨s, hs, hnamed⟩ := ih field hfield ds hf r hr he
        exact ⟨s, .inline hfield hf hr hs, hnamed⟩

end

end RuleTree.RuleFile
