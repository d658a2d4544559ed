import RuleTree.Proofs.RuleFile.InlineRules

/-!
# Rules of a file as specifications

A rule of a file that refers to no ruleset says nothing that a specification cannot say. `Spec.ofRule`
is the specification it stands for: the pair of its name and its other fields, in which the rules that
stand inline, and the excluders, are turned likewise.

What the builder makes of settings is put here into the form of one list of conditions, each about a
single setting, so that it can be held against what the loader makes of the same fields.
-/

namespace RuleTree

/-! ## Data without objects of its own -/

namespace Value

variable {α β : Type} {f : α → β} {g : β → α}

mutual

theorem map_map_of_leftInverse (h : ∀ a, g (f a) = a) : ∀ v : Value α, (v.map f).map g = v
  | .null | .bool _ | .int _ | .float _ | .str _ | .bytes _ | .date _ | .moment _ | .span _ => rfl
  | .list xs | .tuple xs | .set xs | .stream xs => by
    rw [map, map, mapList_mapList_of_leftInverse h xs]
  | .mapping es => by rw [map, map, mapEntries_mapEntries_of_leftInverse h es]
  | .object a => by rw [map, map, h]

theorem mapList_mapList_of_leftInverse (h : ∀ a, g (f a) = a) :
    ∀ xs : List (Value α), mapList g (mapList f xs) = xs
  | [] => rfl
  | x :: xs => by
    rw [mapList, mapList, map_map_of_leftInverse h x, mapList_mapList_of_leftInverse h xs]

theorem mapEntries_mapEntries_of_leftInverse (h : ∀ a, g (f a) = a) :
    ∀ es : List (Value α × Value α), mapEntries g (mapEntries f es) = es
  | [] => rfl
  | (k, v) :: es => by
    rw [mapEntries, mapEntries, map_map_of_leftInverse h k, map_map_of_leftInverse h v,
      mapEntries_mapEntries_of_leftInverse h es]

end

theorem truthy_map (f : α → β) (v : Value α) : (v.map f).truthy = v.truthy := by
  cases v with
  | list xs | tuple xs | set xs => cases xs <;> rfl
  | mapping es => rcases es with _ | ⟨⟨k, v⟩, es⟩ <;> rfl
  | _ => rfl

end Value

namespace Spec

theorem toDatum_ofDatum (d : Datum) : toDatum (ofDatum d) = d :=
  Value.map_map_of_leftInverse (fun _ => rfl) d

/-- Data holds no functions, so an option that comes from a file is a literal. -/
theorem option_ofDatum (d : Datum) : option (ofDatum d) = .literal d := by
  cases d with
  | object a => rfl
  | _ => exact congrArg RuleOption.literal (toDatum_ofDatum _)

/-! ## The specification of a rule -/

/-- An excluder with a name and an option is a pair of them, one with a name alone is the name. -/
def ofExcluder : Datum → Spec
  | .mapping es =>
    match Value.field? "name" es, Value.field? "option" es with
    | some name, some option => .tuple [ofDatum name, ofDatum option]
    | some name, none => ofDatum name
    | none, _ => ofDatum (.mapping es)
  | d => ofDatum d

def ofExclude : Datum → Spec
  | .list ds => .list (ds.map ofExcluder)
  | d => ofExcluder d

/-- The value of a field that does not hold a list of rules. -/
def ofSetting (key : String) (d : Datum) : Spec :=
  if key = "exclude" then ofExclude d else ofDatum d

mutual

/-- A rule is a pair of its name and its other fields. -/
def ofRule : Datum → Spec
  | .mapping es => .tuple [((Value.field? "name" es).map ofDatum).getD .null, .mapping (ofFields es)]
  | d => ofDatum d

def ofFields : List (Datum × Datum) → List (Spec × Spec)
  | [] => []
  | (.str k, v) :: es =>
    if k = "name" then ofFields es else (.str k, ofField k v) :: ofFields es
  | (k, v) :: es => (ofDatum k, ofDatum v) :: ofFields es

def ofField (key : String) : Datum → Spec
  | .list ds =>
    if key ∈ RuleFile.nestedFields then .list (ofRules ds) else ofSetting key (.list ds)
  | d => ofSetting key d

def ofRules : List Datum → List Spec
  | [] => []
  | d :: ds => ofRule d :: ofRules ds

end

theorem ofRules_eq_map (ds : List Datum) : ofRules ds = ds.map ofRule := by
  induction ds with
  | nil => rfl
  | cons d ds ih => rw [ofRules, ih, List.map_cons]

theorem field?_ofFields {key : String} (hkey : key ≠ "name") (es : List (Datum × Datum)) :
    Value.field? key (ofFields es) = (Value.field? key es).map (ofField key) := by
  induction es with
  | nil => rfl
  | cons e es ih =>
    obtain ⟨k, v⟩ := e
    cases k with
    | str k =>
      rw [ofFields, Value.field?]
      by_cases hname : k = "name"
      · rw [if_pos hname, if_neg fun h => hkey (h.symm.trans hname), ih]
      · rw [if_neg hname, Value.field?, ih]
        split
        · next hk => rw [hk, Option.map_some]
        · rfl
    | _ => exact ih

/-- A field that keeps the form it has in the file. -/
theorem field?_ofFields_plain (key : String)
    (hkey : key ∉ "name" :: "exclude" :: RuleFile.nestedFields) (es : List (Datum × Datum)) :
    Value.field? key (ofFields es) = (Value.field? key es).map ofDatum := by
  rw [List.mem_cons, List.mem_cons, not_or, not_or] at hkey
  obtain ⟨hname, hexclude, hnested⟩ := hkey
  have hform : ofField key = ofDatum := by
    funext d
    cases d with
    | list ds => rw [ofField, if_neg hnested, ofSetting, if_neg hexclude]
    | _ => exact if_neg hexclude
  rw [field?_ofFields hname, hform]

theorem ofField_exclude : ofField "exclude" = ofExclude := by
  funext d
  cases d <;> rfl

theorem ofField_nested {key : String} (hkey : key ∈ RuleFile.nestedFields) (ds : List Datum) :
    ofField key (.list ds) = .list (ds.map ofRule) := by
  rw [ofField, if_pos hkey, ofRules_eq_map]

/-- The name is no longer a field and `flags` never was a setting; all else is known to both sides or
to neither. -/
theorem unknownKeys_ofFields {es : List (Datum × Datum)} (hflags : Value.field? "flags" es = none) :
    unknownKeys settingNames (ofFields es) = unknownKeys RuleFile.fieldNames es := by
  induction es with
  | nil => rfl
  | cons e es ih =>
    obtain ⟨k, v⟩ := e
    cases k with
    | str k =>
      rw [Value.field?] at hflags
      split at hflags
      · cases hflags
      next hflag =>
      rw [ofFields]
      by_cases hname : k = "name"
      · subst hname
        rw [if_pos rfl, ih hflags]
        rfl
      · have hknown : settingNames.contains k = RuleFile.fieldNames.contains k := by
          simp [settingNames, RuleFile.fieldNames, hname, hflag]
        rw [if_neg hname, unknownKeys, unknownKeys, ih hflags, hknown]
    | _ =>
      have hflags : Value.field? "flags" es = none := hflags
      simp only [ofFields, unknownKeys, ofDatum, Value.map, ih hflags]

/-! ## What is built from settings -/

section

variable {name : String} {entries : List (Spec × Spec)} {r : Rule}

theorem checkKeys_eq_ok {u : Unit} :
    checkKeys name entries = .ok u ↔ unknownKeys settingNames entries = ([], false) := by
  rw [checkKeys]
  rcases unknownKeys settingNames entries with ⟨_ | ⟨k, ks⟩, _ | _⟩ <;>
    simp [reject, throw_ne_ok, pure_eq_ok]

/-- The matcher of a rule, by the value of the setting. -/
def givenMatcher (name : String) : Option Spec → Build Matcher
  | none => reject (.missingMatch name)
  | some s => matcher s

/-- The excluders of a rule, by the value of the setting. -/
def givenExcluders : Option Spec → Build (Option (List Excluder))
  | none => return none
  | some .null => return some []
  | some s => some <$> excluders s

theorem settings_eq_ok : settings name entries = .ok r ↔
    unknownKeys settingNames entries = ([], false) ∧
    ∃ m c f x, givenMatcher name (Value.field? "match" entries) = .ok m ∧
      (present? "capture" entries).mapM (capture name) = .ok c ∧
      (present? "format" entries).mapM formatter = .ok f ∧
      givenExcluders (Value.field? "exclude" entries) = .ok x ∧
      { name := name
        matcher := m
        capture := c
        formatter := f
        option := (Value.field? "option" entries).map option
        ignore := ((Value.field? "ignore" entries).map Value.truthy).getD false
        skip := ((Value.field? "skip" entries).map Value.truthy).getD false
        exclude := x : Rule } = r := by
  have hsettings : settings name entries = (do
      checkKeys name entries
      let m ← givenMatcher name (Value.field? "match" entries)
      let c ← (present? "capture" entries).mapM (capture name)
      let f ← (present? "format" entries).mapM formatter
      let x ← givenExcluders (Value.field? "exclude" entries)
      return {
        name := name
        matcher := m
        capture := c
        formatter := f
        option := (Value.field? "option" entries).map option
        ignore := ((Value.field? "ignore" entries).map Value.truthy).getD false
        skip := ((Value.field? "skip" entries).map Value.truthy).getD false
        exclude := x }) := by
    rw [settings]
    cases Value.field? "match" entries with
    | none => rfl
    | some m =>
      -- An absent value, null and all others are told apart.
      rcases Value.field? "exclude" entries with _ | ⟨_ | _⟩ <;> rfl
  rw [hsettings]
  simp only [bind_eq_ok, pure_eq_ok, checkKeys_eq_ok, exists_and_left, exists_const]

/-- The rules under a key are those of its value, unless that is null. -/
theorem nested_eq (key : String) (entries : List (Spec × Spec)) :
    nested key entries = (present? key entries).mapM ruleset := by
  induction entries with
  | nil => rfl
  | cons e entries ih =>
    obtain ⟨k, v⟩ := e
    cases k with
    | str k =>
      by_cases hk : k = key
      · subst hk
        cases v <;> simp [nested, present?, Value.field?]
      · cases v <;> simp only [nested, present?, Value.field?, hk, ih, ↓reduceIte]
    | _ => exact ih

end

end Spec

end RuleTree
