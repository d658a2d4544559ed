import RuleTree.Proofs.RuleFile.Dependency
import RuleTree.Proofs.RuleFile.SpecForm

/-!
# Loading and building concur

The loader and the builder check the settings of a rule each in its own way and order. On rules that
refer to no ruleset they concur: a ruleset is loaded exactly if its rules, written as specifications,
can be built, and then the rules are the same. Which of several mistakes is reported, and in which
words, is left out.
-/

namespace RuleTree.RuleFile

/-! ## Excluders -/

/-- An excluder, if it is written as a mapping, has a text for its name. -/
def NamedExcluder (d : Datum) : Prop :=
  ∀ es, d = .mapping es → ∃ name, Value.field? "name" es = some (.str name)

/-- So has the excluder of a rule, or each of them if they are a list. -/
structure NamedExcluders (d : Datum) : Prop where
  alone : NamedExcluder d
  listed : ∀ ds, d = .list ds → ∀ x ∈ ds, NamedExcluder x

/-- The loader hands the builder something that it takes as it takes the specification. -/
theorem excluderItem_spec (rule : String) {d : Datum} (h : NamedExcluder d) :
    ∃ s, excluderItem rule d = .ok s ∧ s.excluder = (Spec.ofExcluder d).excluder ∧
      s.excluders = (Spec.ofExcluder d).excluders := by
  cases d with
  | mapping es =>
    obtain ⟨name, hname⟩ := h es rfl
    refine ⟨.object (.excluder ⟨.str name, Value.field? "option" es⟩), ?_, ?_⟩
    · rw [excluderItem, hname]
      rfl
    · rw [Spec.ofExcluder, hname]
      cases Value.field? "option" es with
      | none => exact ⟨rfl, rfl⟩
      | some option =>
        have hexcluder : Spec.excluder (.object (.excluder ⟨.str name, some option⟩)) =
            Spec.excluder (.tuple [Spec.ofDatum (.str name), Spec.ofDatum option]) := by
          have hoption := Spec.toDatum_ofDatum option
          simp only [Spec.excluder, Spec.ofDatum, Value.map] at hoption ⊢
          rw [hoption]
        refine ⟨hexcluder, ?_⟩
        simp only [Spec.excluders, hexcluder]
  | _ => exact ⟨_, rfl, rfl, rfl⟩

theorem excluderItems_spec (rule : String) {ds : List Datum} (h : ∀ d ∈ ds, NamedExcluder d) :
    ∃ ss, ds.mapM (excluderItem rule) = .ok ss ∧
      ss.mapM Spec.excluder = (ds.map Spec.ofExcluder).mapM Spec.excluder := by
  induction ds with
  | nil => exact ⟨[], rfl, rfl⟩
  | cons d ds ih =>
    obtain ⟨s, hs, he, _⟩ := excluderItem_spec rule (h d List.mem_cons_self)
    obtain ⟨ss, hss, hes⟩ := ih fun x hx => h x (List.mem_cons_of_mem d hx)
    refine ⟨s :: ss, ?_, ?_⟩
    · rw [List.mapM_cons, hs, hss]
      rfl
    · rw [List.map_cons, List.mapM_cons, List.mapM_cons, he, hes]

/-- What the builder says of excluders, in the loader's words. -/
def reported : Build (List Excluder) → Except LoadError (List Excluder)
  | .ok es => return es
  | .error (.definition e) => malformed (.badExclude e)
  | .error .flagConflict => throw .flagConflict
  | .error .hugeRepetition => throw .hugeRepetition
  | .error .notIterable => throw .notIterable
  | .error .unlistableKeys => throw .unlistableFields

theorem reported_toOption (x : Build (List Excluder)) : (reported x).toOption = x.toOption := by
  cases x with
  | ok es => rfl
  | error e => cases e <;> rfl

theorem exclude_eq_reported (rule : String) {d : Datum} (h : NamedExcluders d) (hd : d ≠ .null) :
    exclude rule d = reported (Spec.ofExclude d).excluders := by
  cases d with
  | null => exact absurd rfl hd
  | list ds =>
    obtain ⟨ss, hss, hes⟩ := excluderItems_spec rule (h.listed ds rfl)
    rw [exclude, hss]
    exact congrArg reported hes
  | _ =>
    obtain ⟨s, hs, _, he⟩ := excluderItem_spec rule h.alone
    simp only [exclude, hs]
    exact congrArg reported he

theorem ofExclude_ne_null {d : Datum} (h : NamedExcluder d) (hd : d ≠ .null) :
    Spec.ofExclude d ≠ .null := by
  cases d with
  | null => exact absurd rfl hd
  | mapping es =>
    obtain ⟨name, hname⟩ := h es rfl
    cases hoption : Value.field? "option" es <;>
      simp [Spec.ofExclude, Spec.ofExcluder, Spec.ofDatum, Value.map, hname, hoption]
  | _ =>
    intro hnull
    cases hnull

/-! ## Single settings -/

section

variable {ε δ α β : Type}

theorem map_toOption (f : α → β) (x : Except ε α) : (f <$> x).toOption = x.toOption.map f := by
  cases x <;> rfl

theorem eq_ok_iff_of_toOption_eq {x : Except ε α} {y : Except δ α} (h : x.toOption = y.toOption)
    (a : α) : x = .ok a ↔ y = .ok a := by
  cases x <;> cases y <;> simp_all [Except.toOption]

end

section

variable (name : String) {es : List (Datum × Datum)}

theorem pattern_toOption (hflags : Value.field? "flags" es = none) :
    (Matcher.pattern <$> pattern name es).toOption =
      (Spec.givenMatcher name (Value.field? "match" (Spec.ofFields es))).toOption := by
  rw [Spec.field?_ofFields_plain "match" (by decide), pattern, hflags]
  cases Value.field? "match" es with
  | none => rfl
  | some d =>
    cases d with
    | str source =>
      simp only [flags, pure_bind, Option.map_some, Spec.ofDatum, Value.map, Spec.givenMatcher,
        Spec.matcher]
      cases Pattern.compile source .none with
      | ok p => rfl
      | error e => cases e <;> rfl
    | _ => rfl

theorem capture_toOption (es : List (Datum × Datum)) :
    (capture name (Value.field? "capture" es)).toOption =
      ((Spec.present? "capture" (Spec.ofFields es)).mapM (Spec.capture name)).toOption := by
  rw [Spec.present?, Spec.field?_ofFields_plain "capture" (by decide)]
  cases Value.field? "capture" es with
  | none => rfl
  | some d =>
    cases d with
    | int i =>
      simp only [capture, Option.map_some, Spec.ofDatum, Value.map, Option.mapM_some, Spec.capture]
      split <;> rfl
    | _ => rfl

theorem format_toOption (es : List (Datum × Datum)) :
    (format name (Value.field? "format" es)).toOption =
      ((Spec.present? "format" (Spec.ofFields es)).mapM Spec.formatter).toOption := by
  rw [Spec.present?, Spec.field?_ofFields_plain "format" (by decide)]
  cases Value.field? "format" es with
  | none => rfl
  | some d => cases d <;> rfl

theorem exclude_toOption (h : ∀ d, Value.field? "exclude" es = some d → NamedExcluders d) :
    ((Value.field? "exclude" es).mapM (exclude name)).toOption =
      (Spec.givenExcluders (Value.field? "exclude" (Spec.ofFields es))).toOption := by
  rw [Spec.field?_ofFields (by decide), Spec.ofField_exclude]
  cases hd : Value.field? "exclude" es with
  | none => rfl
  | some d =>
    by_cases hnull : d = .null
    · subst hnull
      rfl
    · have hnamed := h d hd
      have hgiven : Spec.givenExcluders (some (Spec.ofExclude d)) =
          some <$> (Spec.ofExclude d).excluders :=
        Spec.givenExcluders.eq_3 _ (ofExclude_ne_null hnamed.alone hnull)
      rw [Option.map_some, hgiven, Option.mapM_some, exclude_eq_reported name hnamed hnull,
        map_toOption, map_toOption, reported_toOption]

end

theorem truth_eq (d : Option Datum) :
    ((d.map Spec.ofDatum).map Value.truthy).getD false = truth d := by
  cases d with
  | none => rfl
  | some d => exact Value.truthy_map _ d

theorem option_eq (d : Option Datum) : (d.map Spec.ofDatum).map Spec.option = d.map .literal := by
  cases d with
  | none => rfl
  | some d => exact congrArg some (Spec.option_ofDatum d)

/-! ## Settings together -/

section

variable {name : String} {es : List (Datum × Datum)} {r : Rule}

theorem checkFields_eq_ok (hname : Value.field? "name" es = some (.str name)) {n : String} :
    checkFields es = .ok n ↔ name = n ∧ (Value.field? "match" es).isSome ∧
      Spec.unknownKeys fieldNames es = ([], false) := by
  have hplain : Datum.plain (.str name) = name := rfl
  rw [checkFields, hname]
  cases Value.field? "match" es with
  | none => simp [malformed, throw_ne_ok]
  | some d =>
    rcases Spec.unknownKeys fieldNames es with ⟨_ | ⟨k, ks⟩, _ | _⟩ <;>
      simp [hplain, malformed, throw_ne_ok, pure_eq_ok]

theorem isSome_of_pattern_ok {p : Pattern} (h : pattern name es = .ok p) :
    (Value.field? "match" es).isSome := by
  rw [pattern] at h
  cases hm : Value.field? "match" es with
  | none =>
    rw [hm] at h
    cases h
  | some d => rfl

theorem ruleHead_eq_ok (hname : Value.field? "name" es = some (.str name)) : ruleHead es = .ok r ↔
    Spec.unknownKeys fieldNames es = ([], false) ∧
    ∃ m c f x, Matcher.pattern <$> pattern name es = .ok m ∧
      capture name (Value.field? "capture" es) = .ok c ∧
      format name (Value.field? "format" es) = .ok f ∧
      (Value.field? "exclude" es).mapM (exclude name) = .ok x ∧
      { name := name
        matcher := m
        capture := c
        formatter := f
        option := (Value.field? "option" es).map .literal
        ignore := truth (Value.field? "ignore" es)
        skip := truth (Value.field? "skip" es)
        exclude := x : Rule } = r := by
  simp only [ruleHead, bind_eq_ok, pure_eq_ok, map_eq_ok, checkFields_eq_ok hname]
  constructor
  · rintro ⟨_, ⟨rfl, _, hkeys⟩, c, hc, f, hf, p, hp, x, hx, hr⟩
    exact ⟨hkeys, .pattern p, c, f, x, ⟨p, hp, rfl⟩, hc, hf, hx, hr⟩
  · rintro ⟨hkeys, _, c, f, x, ⟨p, hp, rfl⟩, hc, hf, hx, hr⟩
    exact ⟨name, ⟨rfl, isSome_of_pattern_ok hp, hkeys⟩, c, hc, f, hf, p, hp, x, hx, hr⟩

/-- Of a rule without flags, whose excluders have names, loader and builder make the same. -/
theorem ruleHead_eq_ok_iff_settings (hname : Value.field? "name" es = some (.str name))
    (hflags : Value.field? "flags" es = none)
    (hexclude : ∀ d, Value.field? "exclude" es = some d → NamedExcluders d) :
    ruleHead es = .ok r ↔ Spec.settings name (Spec.ofFields es) = .ok r := by
  have hmatcher := eq_ok_iff_of_toOption_eq (pattern_toOption name hflags)
  have hcapture := eq_ok_iff_of_toOption_eq (capture_toOption name es)
  have hformat := eq_ok_iff_of_toOption_eq (format_toOption name es)
  have hexcluders := eq_ok_iff_of_toOption_eq (exclude_toOption name hexclude)
  rw [ruleHead_eq_ok hname, Spec.settings_eq_ok, Spec.unknownKeys_ofFields hflags]
  simp only [hmatcher, hcapture, hformat, hexcluders]
  rw [Spec.field?_ofFields_plain "option" (by decide), option_eq,
    Spec.field?_ofFields_plain "ignore" (by decide), truth_eq,
    Spec.field?_ofFields_plain "skip" (by decide), truth_eq]

end

/-! ## Rules that refer to nothing -/

/-- The rule and those that stand inline in it have names, no flags, and no rules by reference. -/
inductive SelfContained : Datum → Prop
  | intro {es : List (Datum × Datum)} {name : String} :
      Value.field? "name" es = some (.str name) → name ≠ "" → Value.field? "flags" es = none →
      (∀ d, Value.field? "exclude" es = some d → NamedExcluders d) →
      (∀ field ∈ nestedFields, ∀ v, Value.field? field es = some v → ∃ ds, v = .list ds) →
      (∀ field ∈ nestedFields, ∀ ds, Value.field? field es = some (.list ds) →
        ∀ r ∈ ds, SelfContained r) →
      SelfContained (.mapping es)

/-- The loading computation `x` comes to what the building computation `y` gives and leaves the memo
as it was, or both fail. -/
def Concurs {α : Type} (x : Load α) (y : Build α) : Prop :=
  ∀ memo, (∃ a, x.run memo = .ok (a, memo) ∧ y = .ok a) ∨
    ∃ e e', x.run memo = .error e ∧ y = .error e'

namespace Concurs

variable {α β : Type}

theorem ok (a : α) : Concurs (pure a) (pure a) := fun _ => Or.inl ⟨a, rfl, rfl⟩

theorem lift {x : Except LoadError α} {y : Build α} (h : ∀ a, x = .ok a ↔ y = .ok a) :
    Concurs (liftM x) y := by
  intro memo
  cases x with
  | ok a => exact Or.inl ⟨a, rfl, (h a).mp rfl⟩
  | error e =>
    cases y with
    | ok a => cases (h a).mpr rfl
    | error e' => exact Or.inr ⟨e, e', rfl, rfl⟩

theorem bind {x : Load α} {y : Build α} {f : α → Load β} {g : α → Build β} (hx : Concurs x y)
    (hf : ∀ a, Concurs (f a) (g a)) : Concurs (x >>= f) (y >>= g) := by
  intro memo
  rcases hx memo with ⟨a, hrun, hy⟩ | ⟨e, e', hrun, hy⟩
  · rw [StateT.run_bind, hrun, hy]
    exact hf a memo
  · refine Or.inr ⟨e, e', ?_, ?_⟩
    · rw [StateT.run_bind, hrun]
      rfl
    · rw [hy]
      rfl

theorem map (g : α → β) {x : Load α} {y : Build α} (hx : Concurs x y) :
    Concurs (g <$> x) (g <$> y) := by
  simp only [map_eq_pure_bind]
  exact hx.bind fun a => .ok (g a)

variable {resolve : Datum → Load RuleSet}

theorem rules {ds : List Datum}
    (h : ∀ d ∈ ds, Concurs (RuleFile.rule resolve d) (Spec.member (Spec.ofRule d))) :
    Concurs (RuleFile.rules resolve ds) (Spec.rules (ds.map Spec.ofRule)) := by
  induction ds with
  | nil =>
    simp only [RuleFile.rules, List.map_nil, Spec.rules]
    exact .ok []
  | cons d ds ih =>
    simp only [RuleFile.rules, List.map_cons, Spec.rules]
    refine (h d List.mem_cons_self).bind fun r => ?_
    exact (ih fun x hx => h x (List.mem_cons_of_mem d hx)).bind fun rs => .ok _

theorem nestedValue {es : List (Datum × Datum)} {field : String} (hfield : field ∈ nestedFields)
    (hshape : ∀ v, Value.field? field es = some v → ∃ ds, v = .list ds)
    (h : ∀ ds, Value.field? field es = some (.list ds) →
      ∀ r ∈ ds, Concurs (RuleFile.rule resolve r) (Spec.member (Spec.ofRule r)))
    (context : String) :
    Concurs (RuleFile.nestedValue resolve context (Value.field? field es))
      (Spec.nested field (Spec.ofFields es)) := by
  have hname : field ≠ "name" := by
    rintro rfl
    simp [nestedFields] at hfield
  rw [Spec.nested_eq, Spec.present?, Spec.field?_ofFields hname]
  cases hv : Value.field? field es with
  | none => exact .ok none
  | some v =>
    obtain ⟨ds, rfl⟩ := hshape v hv
    rw [Option.map_some, Spec.ofField_nested hfield]
    exact (Concurs.rules (h ds hv)).map some

end Concurs

theorem member_ofRule {es : List (Datum × Datum)} {name : String}
    (hname : Value.field? "name" es = some (.str name)) (hne : name ≠ "") :
    Spec.member (Spec.ofRule (.mapping es)) = do
      let base ← Spec.settings name (Spec.ofFields es)
      let included ← Spec.nested "include" (Spec.ofFields es)
      let replacement ← Spec.nested "rules" (Spec.ofFields es)
      return { base with included := included.getD [], replacement := replacement } := by
  rw [Spec.ofRule, hname, Option.map_some, Option.getD_some, Spec.member, Spec.rule, Spec.ofDatum,
    Value.map, Spec.ruleName, if_neg hne]
  rfl

/-- Rules concur if those that stand inline in them do, down to those that have none. -/
theorem SelfContained.concurs {d : Datum} (h : SelfContained d) (resolve : Datum → Load RuleSet) :
    Concurs (rule resolve d) (Spec.member (Spec.ofRule d)) := by
  induction h with
  | @intro es name hname hne hflags hexclude hshape _ ih =>
    have hnested : ∀ field ∈ nestedFields, ∀ context, Concurs
        (nestedValue resolve context (Value.field? field es))
        (Spec.nested field (Spec.ofFields es)) :=
      fun field hfield => .nestedValue hfield (hshape field hfield) (ih field hfield)
    rw [rule_mapping, member_ofRule hname hne]
    refine (Concurs.lift fun r => ruleHead_eq_ok_iff_settings hname hflags hexclude).bind
      fun head => ?_
    refine (hnested "include" (by decide) head.name).bind fun included => ?_
    exact (hnested "rules" (by decide) head.name).bind fun replacement => .ok _

/-! ## Rulesets -/

/-- The ruleset extends nothing, and `ds` is the list of its rules. -/
inductive Lists : Datum → List Datum → Prop
  | blank {d : Datum} : d.truthy = false → Lists d []
  | bare {es : List (Datum × Datum)} :
      Value.field? "extends" es = none → truth (Value.field? "rules" es) = false →
      Lists (.mapping es) []
  | listed {es : List (Datum × Datum)} {ds : List Datum} :
      Value.field? "extends" es = none → Value.field? "rules" es = some (.list ds) →
      Lists (.mapping es) ds

theorem Lists.fields {d : Datum} {ds : List Datum} (h : Lists d ds) (name : Datum) :
    ∃ es, rulesetFields name d = .ok es ∧ Value.field? "extends" es = none ∧
      ownRules name (Value.field? "rules" es) = .ok ds := by
  cases h with
  | blank hd =>
    refine ⟨[], ?_, rfl, rfl⟩
    unfold rulesetFields
    rw [hd]
    rfl
  | @bare es hextends hrules =>
    refine ⟨es, rulesetFields_mapping name es, hextends, ?_⟩
    cases hv : Value.field? "rules" es with
    | none => rfl
    | some v =>
      rw [hv] at hrules
      have hfalse : v.truthy = false := hrules
      unfold ownRules
      simp only [hfalse]
      rfl
  | @listed es ds hextends hrules =>
    refine ⟨es, rulesetFields_mapping name es, hextends, ?_⟩
    rw [hrules]
    exact ownRules_list name ds

theorem liftM_ok_bind {α β : Type} (a : α) (f : α → Load β) :
    (liftM (.ok a : Except LoadError α) >>= f) = f a := rfl

theorem Lists.ruleset_eq {d : Datum} {ds : List Datum} (h : Lists d ds)
    (resolve : Datum → Load RuleSet) (name : Datum) :
    ruleset resolve name d = rules resolve ds := by
  obtain ⟨es, hes, hextends, hown⟩ := h.fields name
  rw [ruleset, hes, liftM_ok_bind, inherited, hextends, pure_bind, hown, liftM_ok_bind]
  simp only [List.nil_append, bind_pure]

theorem load_eq_ok_iff_run {data name : Datum} {sets : List (Datum × Datum)} {rules : RuleSet}
    (hdata : rulesets data = .ok sets) : load data name = .ok rules ↔
      ∃ memo, (resolve sets sets.length [] name).run [] = .ok (rules, memo) := by
  rw [load, hdata]
  constructor
  · intro h
    obtain ⟨_, hsets, h⟩ := bind_eq_ok.mp h
    cases hsets
    obtain ⟨⟨rs, memo⟩, hrun, h⟩ := bind_eq_ok.mp h
    cases h
    exact ⟨memo, hrun⟩
  · rintro ⟨memo, hrun⟩
    exact bind_eq_ok.mpr ⟨sets, rfl, bind_eq_ok.mpr ⟨(rules, memo), hrun, rfl⟩⟩

/-- A ruleset that extends nothing and holds only rules that refer to nothing is loaded exactly if it
can be built from the specifications of its rules, and the rules are the same. -/
theorem load_eq_ok_iff_ruleset {data name d : Datum} {sets : List (Datum × Datum)}
    {ds : List Datum} (hdata : rulesets data = .ok sets) (hname : name.hashable = true)
    (hd : Value.lookup? name sets = some d) (hlists : Lists d ds) (h : ∀ r ∈ ds, SelfContained r)
    (rules : RuleSet) :
    load data name = .ok rules ↔ Spec.ruleset (.list (ds.map Spec.ofRule)) = .ok rules := by
  obtain ⟨depth, hdepth⟩ : ∃ depth, sets.length = depth + 1 := by
    cases sets with
    | nil => cases hd
    | cons e sets => exact ⟨sets.length, rfl⟩
  have hconcurs : Concurs (RuleFile.rules (resolve sets depth [name]) ds)
      (Spec.rules (ds.map Spec.ofRule)) := .rules fun r hr => (h r hr).concurs _
  rw [load_eq_ok_iff_run hdata, hdepth, resolve_entered hname rfl rfl hd, hlists.ruleset_eq,
    Spec.ruleset]
  rcases hconcurs [] with ⟨rs, hrun, hrs⟩ | ⟨e, e', hrun, he⟩
  · rw [hrun, hrs]
    simp [bind, Except.bind]
  · rw [hrun, he]
    simp [bind, Except.bind]

namespace Shelf

/-- A rule with an option, null. -/
def item : Datum :=
  .mapping [(.str "name", .str "item"), (.str "match", .str "x"), (.str "option", .null)]

/-- A rule with excluders of three forms, a rule to include, and no rules to replace the others. -/
def group : Datum :=
  .mapping [(.str "name", .str "group"), (.str "match", .str "\\((.*)\\)"),
    (.str "capture", .int 1), (.str "format", .null), (.str "skip", .int 1),
    (.str "exclude", .list [.str "word",
      .mapping [(.str "name", .str "item")],
      .mapping [(.str "name", .str "item"), (.str "option", .int 1)]]),
    (.str "include", .list [item]), (.str "rules", .list [])]

/-- A ruleset of both. -/
def main : Datum := .mapping [(.str "rules", .list [group, item])]

def data : Datum := .mapping [(.str "rulesets", .mapping [(.str "main", main)])]

theorem selfContained_item : SelfContained item := by
  refine .intro rfl (by decide) rfl ?_ ?_ ?_
  · simp [Value.field?]
  · simp [nestedFields, Value.field?]
  · simp [nestedFields, Value.field?]

theorem selfContained_group : SelfContained group := by
  refine .intro rfl (by decide) rfl ?_ ?_ ?_
  · rintro d ⟨⟩
    constructor
    · simp [NamedExcluder]
    · simp [NamedExcluder, Value.field?]
  · simp [nestedFields, Value.field?]
  · simp [nestedFields, Value.field?, selfContained_item]

end Shelf

theorem load_shelf_eq_ruleset :
    Lists Shelf.main [Shelf.group, Shelf.item] ∧
    (∀ r ∈ [Shelf.group, Shelf.item], SelfContained r) ∧
    ∃ rules, load Shelf.data (.str "main") = .ok rules ∧
      Spec.ruleset (.list ([Shelf.group, Shelf.item].map Spec.ofRule)) = .ok rules ∧
      rules.map (·.name) = ["group", "item"] := by
  have hdata : rulesets Shelf.data = .ok [(.str "main", Shelf.main)] := rfl
  have hlookup : Value.lookup? (.str "main") [(.str "main", Shelf.main)] = some Shelf.main := by
    simp [Value.lookup?, same_str]
  have hlists : Lists Shelf.main [Shelf.group, Shelf.item] := .listed rfl rfl
  have hself : ∀ r ∈ [Shelf.group, Shelf.item], SelfContained r := by
    simp [Shelf.selfContained_group, Shelf.selfContained_item]
  have hiff := load_eq_ok_iff_ruleset hdata rfl hlookup hlists hself
  have hnames : (load Shelf.data (.str "main")).toOption.map (·.map (·.name)) =
      some ["group", "item"] := by decide +kernel
  refine ⟨hlists, hself, ?_⟩
  cases hload : load Shelf.data (.str "main") with
  | error e =>
    rw [hload] at hnames
    cases hnames
  | ok rules =>
    rw [hload] at hnames
    exact ⟨rules, rfl, (hiff rules).mp hload, Option.some.inj hnames⟩

end RuleTree.RuleFile
