import RuleTree.Proofs.RuleFile.Sources

/-!
# Failures that are not reported

Loading is meant to report malformed data as such. There are five flaws that it does not foresee: an
extended ruleset whose name cannot be a key, a name of a ruleset or a field of a rule that is not a
text where names or fields are to be listed, flags that exclude each other, and a repetition count that
is too great. Every other flaw of the data is reported. That a flaw of these kinds always shows is not
claimed: the rule may not be read, or another error may come first.
-/

namespace RuleTree.RuleFile

/-- Where a failure that is not a report comes from. -/
inductive Unreported (rulesets : List (Datum × Datum)) : LoadError → Prop
  | unhashableName {a base : Datum} {es : List (Datum × Datum)} :
      (a, .mapping es) ∈ rulesets → Value.field? "extends" es = some base →
      base.hashable = false → Unreported rulesets .unhashableName
  | unlistableNames {k d : Datum} :
      (k, d) ∈ rulesets → (∀ s, k ≠ .str s) → Unreported rulesets .unlistableNames
  | unlistableFields {es : List (Datum × Datum)} {k v : Datum} :
      Written rulesets (.mapping es) → (k, v) ∈ es → (∀ s, k ≠ .str s) →
      Unreported rulesets .unlistableFields
  | flagConflict {es : List (Datum × Datum)} {name source : String} {fs : Pattern.Flags} :
      Written rulesets (.mapping es) → Value.field? "match" es = some (.str source) →
      flags name (Value.field? "flags" es) = .ok fs →
      Pattern.compile source fs = .error .flagConflict → Unreported rulesets .flagConflict
  | hugeRepetition {es : List (Datum × Datum)} {name source : String} {fs : Pattern.Flags} :
      Written rulesets (.mapping es) → Value.field? "match" es = some (.str source) →
      flags name (Value.field? "flags" es) = .ok fs →
      Pattern.compile source fs = .error .hugeRepetition → Unreported rulesets .hugeRepetition

/-! ## Settings of a rule -/

section

variable {rule : String} {es : List (Datum × Datum)} {e : LoadError}

/-- Unless all keys are texts, there is one that is not. -/
theorem exists_odd_key {α : Type} {known : List String} {es : List (Value α × Value α)}
    (h : (Spec.unknownKeys known es).2 = true) : ∃ k v, (k, v) ∈ es ∧ ∀ s, k ≠ .str s := by
  induction es with
  | nil => cases h
  | cons e es ih =>
    obtain ⟨k, v⟩ := e
    by_cases hk : ∃ s, k = .str s
    · obtain ⟨s, rfl⟩ := hk
      obtain ⟨k', v', hmem, hne⟩ := ih h
      exact ⟨k', v', List.mem_cons_of_mem _ hmem, hne⟩
    · exact ⟨k, v, List.mem_cons_self, fun s hs => hk ⟨s, hs⟩⟩

theorem checkFields_error (h : checkFields es = .error e) :
    (∃ m, e = .malformed m) ∨
    (e = .unlistableFields ∧ ∃ k v, (k, v) ∈ es ∧ ∀ s, k ≠ .str s) := by
  unfold checkFields at h
  split at h
  · cases h
    exact Or.inl ⟨_, rfl⟩
  · simp only at h
    split at h
    · cases h
      exact Or.inl ⟨_, rfl⟩
    · split at h
      · next hkeys =>
        cases h
        exact Or.inr ⟨rfl, exists_odd_key (congrArg Prod.snd hkeys)⟩
      · cases h
      · cases h
        exact Or.inl ⟨_, rfl⟩

theorem capture_reports (rule : String) (d : Option Datum) : Reports (capture rule d) := by
  unfold capture
  split
  · exact .ok none
  · exact .ok none
  · split
    · exact .ok _
    · exact .malformed _
  · exact .malformed _

theorem format_reports (rule : String) (d : Option Datum) : Reports (format rule d) := by
  unfold format
  split
  · exact .ok none
  · exact .ok none
  · exact .ok _
  · exact .malformed _

theorem flagUnion_reports (rule : String) (ds : List Datum) : Reports (flagUnion rule ds) := by
  induction ds with
  | nil => exact .ok _
  | cons d ds ih =>
    rw [flagUnion]
    split
    · exact .malformed _
    · exact ih.bind fun fs => .ok _

theorem flags_reports (rule : String) (d : Option Datum) : Reports (flags rule d) := by
  unfold flags
  split
  · exact .ok _
  · exact flagUnion_reports rule _
  · exact flagUnion_reports rule _
  · exact .malformed _

theorem excluderItem_reports (rule : String) (d : Datum) : Reports (excluderItem rule d) := by
  unfold excluderItem
  split
  · split
    · exact .malformed _
    · exact .ok _
  · exact .ok _

/-- Every failure of the builder is a shape that it does not take. -/
abbrev Rejects {α : Type} (x : Build α) : Prop := FailsOnly (fun b => ∃ d, b = .definition d) x

theorem excluder_rejects (s : Spec) : Rejects s.excluder := by
  unfold Spec.excluder
  split
  · exact .ok _
  · exact .ok _
  · exact .ok _
  · exact .error ⟨_, rfl⟩

theorem excluders_rejects (s : Spec) : Rejects s.excluders := by
  have halone : ∀ s : Spec, Rejects (do return [← s.excluder]) :=
    fun s => (excluder_rejects s).bind fun e => .ok [e]
  unfold Spec.excluders
  split
  · exact halone _
  · exact halone _
  · exact halone _
  · exact halone _
  · split
    · exact .mapM excluder_rejects _
    · exact .error ⟨_, rfl⟩

theorem exclude_reports (rule : String) (d : Datum) : Reports (exclude rule d) := by
  unfold exclude
  split
  · exact .ok []
  · split
    on_goal 1 => refine (FailsOnly.map (.mapM (excluderItem_reports rule) _) _).bind fun s => ?_
    on_goal 2 => refine (excluderItem_reports rule _).bind fun s => ?_
    -- Whatever the excluders were written as, the builder can only reject them with a report.
    all_goals
      beta_reduce
      cases h : Spec.excluders s with
      | ok es => exact FailsOnly.ok es
      | error b =>
        obtain ⟨e, rfl⟩ := excluders_rejects s b h
        exact Reports.malformed _

theorem pattern_error (h : pattern rule es = .error e) :
    (∃ m, e = .malformed m) ∨
    ∃ source fs, Value.field? "match" es = some (.str source) ∧
      flags rule (Value.field? "flags" es) = .ok fs ∧
      ((e = .flagConflict ∧ Pattern.compile source fs = .error .flagConflict) ∨
        (e = .hugeRepetition ∧ Pattern.compile source fs = .error .hugeRepetition)) := by
  unfold pattern at h
  split at h
  · next source hmatch =>
    rcases bind_eq_error.mp h with h | ⟨fs, hfs, h⟩
    · exact Or.inl (flags_reports rule _ e h)
    · split at h
      · cases h
      · cases h
        exact Or.inl ⟨_, rfl⟩
      · next hc =>
        cases h
        exact Or.inr ⟨source, fs, hmatch, hfs, Or.inl ⟨rfl, hc⟩⟩
      · next hc =>
        cases h
        exact Or.inr ⟨source, fs, hmatch, hfs, Or.inr ⟨rfl, hc⟩⟩
  · cases h
    exact Or.inl ⟨_, rfl⟩

/-- Of the settings of a rule, all but the names of the fields and the pattern fail with a report. -/
theorem ruleHead_error (h : ruleHead es = .error e) :
    (∃ m, e = .malformed m) ∨
    (e = .unlistableFields ∧ ∃ k v, (k, v) ∈ es ∧ ∀ s, k ≠ .str s) ∨
    ∃ name source fs, Value.field? "match" es = some (.str source) ∧
      flags name (Value.field? "flags" es) = .ok fs ∧
      ((e = .flagConflict ∧ Pattern.compile source fs = .error .flagConflict) ∨
        (e = .hugeRepetition ∧ Pattern.compile source fs = .error .hugeRepetition)) := by
  rcases bind_eq_error.mp h with h | ⟨name, _, h⟩
  · rcases checkFields_error h with h | h
    · exact Or.inl h
    · exact Or.inr (Or.inl h)
  rcases bind_eq_error.mp h with h | ⟨_, _, h⟩
  · exact Or.inl (capture_reports name _ e h)
  rcases bind_eq_error.mp h with h | ⟨_, _, h⟩
  · exact Or.inl (format_reports name _ e h)
  rcases bind_eq_error.mp h with h | ⟨_, _, h⟩
  · rcases pattern_error h with h | h
    · exact Or.inl h
    · exact Or.inr (Or.inr ⟨name, h⟩)
  rcases bind_eq_error.mp h with h | ⟨_, _, h⟩
  · refine Or.inl ?_
    cases hd : Value.field? "exclude" es with
    | none =>
      rw [hd] at h
      cases h
    | some d =>
      rw [hd, Option.mapM_some, map_eq_error] at h
      exact exclude_reports name d e h
  · cases h

end

/-! ## Loading -/

theorem Blamed.reported_or_unreported {rulesets : List (Datum × Datum)} {name : String}
    {e : LoadError} (h : Blamed rulesets (.str name) e) :
    (∃ m, e = .malformed m) ∨ Unreported rulesets e := by
  cases h with
  | reported m => exact Or.inl ⟨m, rfl⟩
  | asked hasked hhash =>
    -- A text can always be a key, so it was not the name that was asked for first.
    cases hasked with
    | loaded => cases hhash
    | extended hmem hbase => exact Or.inr (.unhashableName hmem hbase hhash)
  | key hmem hodd => exact Or.inr (.unlistableNames hmem hodd)
  | rule hwritten hhead =>
    rcases ruleHead_error hhead with hm | ⟨rfl, k, v, hmem, hodd⟩ |
      ⟨rule, source, fs, hmatch, hfs, ⟨rfl, hc⟩ | ⟨rfl, hc⟩⟩
    · exact Or.inl hm
    · exact Or.inr (.unlistableFields hwritten hmem hodd)
    · exact Or.inr (.flagConflict hwritten hmatch hfs hc)
    · exact Or.inr (.hugeRepetition hwritten hmatch hfs hc)

/-- Loading a ruleset from any data either succeeds, or reports that the data is malformed, or fails for
one of five flaws that stand in the data. -/
theorem load_ok_or_reported_or_flawed (data : Datum) (name : String) :
    (∃ rules, load data (.str name) = .ok rules) ∨
    (∃ m, load data (.str name) = .error (.malformed m)) ∨
    ∃ sets e, rulesets data = .ok sets ∧ load data (.str name) = .error e ∧ Unreported sets e := by
  rcases load_cases data (.str name) with hm | ⟨sets, hsets, ⟨rules, hok, _⟩ | ⟨e, he, hblamed⟩⟩
  · exact Or.inr (Or.inl hm)
  · exact Or.inl ⟨rules, hok⟩
  · rcases hblamed.reported_or_unreported with ⟨m, rfl⟩ | hunreported
    · exact Or.inr (Or.inl ⟨m, he⟩)
    · exact Or.inr (Or.inr ⟨sets, e, hsets, he, hunreported⟩)

namespace Flaws

/-- Data with a ruleset `main`, and with others. -/
def data (main : List (Datum × Datum)) (others : List (Datum × Datum)) : Datum :=
  .mapping [(.str "rulesets", .mapping ((.str "main", .mapping main) :: others))]

/-- A ruleset with a single rule, with fields besides its name and its pattern. -/
def single (pattern : String) (fields : List (Datum × Datum)) : List (Datum × Datum) :=
  [(.str "rules", .list [.mapping
    ((.str "name", .str "item") :: (.str "match", .str pattern) :: fields)])]

def error? (data : Datum) : Option LoadError :=
  match load data (.str "main") with
  | .ok _ => none
  | .error e => some e

theorem load_eq_error {data : Datum} {e : LoadError} (h : error? data = some e) :
    load data (.str "main") = .error e := by
  unfold error? at h
  split at h
  · cases h
  · next hload =>
    cases h
    exact hload

end Flaws

/-- Each of the five flaws makes loading fail without a report. -/
theorem load_flaws_unreported :
    load (Flaws.data [(.str "extends", .list [.str "base"])] []) (.str "main") =
      .error .unhashableName ∧
    load (Flaws.data [(.str "extends", .str "base")] [(.int 7, .null)]) (.str "main") =
      .error .unlistableNames ∧
    load (Flaws.data (Flaws.single "x" [(.int 1, .int 2)]) []) (.str "main") =
      .error .unlistableFields ∧
    load (Flaws.data (Flaws.single "x" [(.str "flags", .str "locale")]) []) (.str "main") =
      .error .flagConflict ∧
    load (Flaws.data (Flaws.single "x\x7b4294967295\x7d" []) []) (.str "main") =
      .error .hugeRepetition := by
  refine ⟨Flaws.load_eq_error ?_, Flaws.load_eq_error ?_, Flaws.load_eq_error ?_,
    Flaws.load_eq_error ?_, Flaws.load_eq_error ?_⟩ <;> decide +kernel

end RuleTree.RuleFile
