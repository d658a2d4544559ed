import RuleTree.Proofs.RuleFile.Dependency

/-!
# What a load does not look at

Loading a ruleset asks for the rulesets that it depends on, for those that these depend on, and for no
others. Two files that agree on all of them, on which are defined and on how, give the same rules or the
same error, whatever else they hold and in whatever order. Only the report that a ruleset is not found
tells more, since it lists the names of the file.

Names of rulesets are texts here, as in the expansion of rulesets, on which the proof rests.
-/

namespace RuleTree.RuleFile

/-! ## Errors up to the list of names -/

def Malformed.unlisted : Malformed → Malformed
  | notFound name _ => notFound name []
  | m => m

/-- The error without the list of the rulesets that there are. -/
def LoadError.unlisted : LoadError → LoadError
  | malformed m => malformed m.unlisted
  | e => e

/-- The computations give the same, or fail with the same error up to a list of names. -/
def Alike {α : Type} (x y : Except LoadError α) : Prop :=
  x.mapError LoadError.unlisted = y.mapError LoadError.unlisted

namespace Alike

variable {α β : Type} {x y : Except LoadError α}

theorem refl (x : Except LoadError α) : Alike x x := rfl

theorem bind {f g : α → Except LoadError β} (hx : Alike x y) (hf : ∀ a, Alike (f a) (g a)) :
    Alike (x >>= f) (y >>= g) := by
  cases x with
  | ok a =>
    cases y with
    | ok b =>
      cases hx
      exact hf a
    | error e => cases hx
  | error e =>
    cases y with
    | ok b => cases hx
    | error e' =>
      have he : e.unlisted = e'.unlisted := Except.error.inj hx
      exact congrArg Except.error he

/-- What comes first is the same, and its result may be used for what follows. -/
theorem bind_of_ok {f g : α → Except LoadError β} (hf : ∀ a, x = .ok a → Alike (f a) (g a)) :
    Alike (x >>= f) (x >>= g) := by
  cases x with
  | ok a => exact hf a rfl
  | error e => exact .refl _

theorem map (g : α → β) (hx : Alike x y) : Alike (g <$> x) (g <$> y) := by
  simp only [map_eq_pure_bind]
  exact hx.bind fun a => .refl _

end Alike

theorem notFound_alike {rulesets rulesets' : List (Datum × Datum)} (hr : TextNames rulesets)
    (hr' : TextNames rulesets') (name : Datum) :
    Alike (notFound rulesets name : Except LoadError RuleSet) (notFound rulesets' name) := by
  have hlisted : ∀ sets : List (Datum × Datum), TextNames sets →
      ∃ available, names? (sets.map (·.1)) = some available := by
    intro sets hsets
    induction sets with
    | nil => exact ⟨[], rfl⟩
    | cons e es ih =>
      obtain ⟨s, hs⟩ := hsets e List.mem_cons_self
      obtain ⟨available, havailable⟩ := ih fun x hx => hsets x (List.mem_cons_of_mem e hx)
      exact ⟨s :: available, by rw [List.map_cons, hs, names?, havailable, Option.map_some]⟩
  obtain ⟨available, h⟩ := hlisted rulesets hr
  obtain ⟨available', h'⟩ := hlisted rulesets' hr'
  rw [notFound, notFound, h, h']
  rfl

/-! ## Reading with two ways to find rulesets -/

section

variable {named named' : Datum → Except LoadError RuleSet}

theorem rules_alike {ds : List Datum} (h : ∀ d ∈ ds, Alike (rule named d) (rule named' d)) :
    Alike (rules named ds) (rules named' ds) := by
  induction ds with
  | nil =>
    simp only [rules]
    exact .refl _
  | cons d ds ih =>
    simp only [rules]
    refine (h d List.mem_cons_self).bind fun r => ?_
    exact (ih fun x hx => h x (List.mem_cons_of_mem d hx)).bind fun rs => .refl _

/-- A rule is read alike if the rulesets that it mentions are found alike. -/
theorem rule_alike (d : Datum) :
    (∀ s, Mentions s d → Alike (named (.str s)) (named' (.str s))) →
      Alike (rule named d) (rule named' d) := by
  induction d using inline_induction with
  | h d ih =>
    intro h
    by_cases hd : ∃ es, d = .mapping es
    · obtain ⟨es, rfl⟩ := hd
      have hnested : ∀ field ∈ nestedFields, ∀ context,
          Alike (nestedValue named context (Value.field? field es))
            (nestedValue named' context (Value.field? field es)) := by
        intro field hfield context
        cases hv : Value.field? field es with
        | none => exact .refl _
        | some v =>
          cases v with
          | str s => exact (h s (.named hfield hv)).map some
          | list ds =>
            refine (rules_alike fun r hr => ?_).map some
            exact ih es field ds rfl hv r hr fun s hs => h s (.inline hfield hv hr hs)
          | _ => exact .refl _
      rw [rule_mapping, rule_mapping]
      refine (Alike.refl (ruleHead es)).bind fun head => ?_
      refine (hnested "include" (by decide) head.name).bind fun included => ?_
      exact (hnested "rules" (by decide) head.name).bind fun replacement => .refl _
    · have hd : ∀ es, d ≠ .mapping es := fun es he => hd ⟨es, he⟩
      rw [rule_of_not_mapping named hd, rule_of_not_mapping named' hd]
      exact .refl _

/-- A ruleset is read alike if the rulesets that it depends on are found alike. -/
theorem ruleset_alike {rulesets : List (Datum × Datum)} {a d : Datum}
    (hd : Value.lookup? a rulesets = some d)
    (h : ∀ b, DependsOn rulesets a b → Alike (named b) (named' b)) :
    Alike (ruleset named a d) (ruleset named' a d) := by
  refine Alike.bind_of_ok (x := rulesetFields a d) fun es hes => ?_
  have hmapping : ∀ {field v}, Value.field? field es = some v →
      Value.lookup? a rulesets = some (.mapping es) := by
    intro field v hv
    rcases rulesetFields_ok hes with rfl | rfl
    · cases hv
    · exact hd
  have hinherited : Alike (inherited named es) (inherited named' es) := by
    unfold inherited
    cases hbase : Value.field? "extends" es with
    | none => exact .refl _
    | some base => exact h base (.inherits (hmapping hbase) hbase)
  refine hinherited.bind fun extended => ?_
  refine Alike.bind_of_ok (x := ownRules a (Value.field? "rules" es)) fun ds hds => ?_
  have hrules : Alike (rules named ds) (rules named' ds) := by
    refine rules_alike fun r hr => rule_alike r fun s hs => ?_
    rcases ownRules_ok hds with rfl | hlist
    · cases hr
    · exact h (.str s) (.mentions (hmapping hlist) hlist hr hs)
  exact hrules.bind fun own => .refl _

end

/-! ## Expansion in two files -/

/-- All rulesets that `name` leads to in the first file are undefined in both, or are the same. -/
def AgreeFrom (rulesets rulesets' : List (Datum × Datum)) (name : Datum) : Prop :=
  ∀ a, Relation.ReflTransGen (DependsOn rulesets) name a →
    Value.lookup? a rulesets = Value.lookup? a rulesets'

section

variable {rulesets rulesets' : List (Datum × Datum)}

theorem AgreeFrom.dependsOn {a b : Datum} (h : AgreeFrom rulesets rulesets' a)
    (hdep : DependsOn rulesets a b) : AgreeFrom rulesets rulesets' b :=
  fun c hc => h c (.head hdep hc)

/-- Expansion stays among the rulesets that a name leads to, on whatever path it has come there. -/
theorem expand_alike (hr : TextNames rulesets) (hr' : TextNames rulesets') (size : Nat) :
    ∀ (path : List String) (name : Datum), (offPath rulesets path).length ≤ size →
      AgreeFrom rulesets rulesets' name →
      Alike (expand rulesets path name) (expand rulesets' path name) := by
  induction size using Nat.strongRecOn with
  | ind size ih =>
    intro path name hsize hagree
    by_cases htext : ∃ s, name = .str s
    · obtain ⟨s, rfl⟩ := htext
      by_cases hs : s ∈ path
      · rw [expand_of_mem hs, expand_of_mem hs]
        exact .refl _
      have hsame := hagree (.str s) .refl
      cases hd : Value.lookup? (.str s) rulesets with
      | none =>
        rw [expand_of_undefined hs hd, expand_of_undefined hs (hsame.symm.trans hd)]
        exact notFound_alike hr hr' _
      | some d =>
        have hlt := offPath_cons_lt hs hd
        rw [expand_of_defined hs hd, expand_of_defined hs (hsame.symm.trans hd)]
        refine ruleset_alike hd fun b hdep => ?_
        exact ih (offPath rulesets (s :: path)).length (by omega) (s :: path) b (Nat.le_refl _)
          (hagree.dependsOn hdep)
    · have hnot : ∀ s, name ≠ .str s := fun s hs => htext ⟨s, hs⟩
      rw [expand_of_not_text hnot, expand_of_not_text hnot]
      split
      · exact notFound_alike hr hr' name
      · exact .refl _

/-- The rules that the resolver comes to are those of the expansion. -/
theorem resolve_rules_eq_expand (hr : TextNames rulesets) (name : Datum) :
    Prod.fst <$> (resolve rulesets rulesets.length [] name).run [] = expand rulesets [] name := by
  rcases resolve_run_nil hr (Nat.le_refl _) name with ⟨rules, memo, hrun, he⟩ | ⟨e, hrun, he⟩
  · rw [hrun, he]
    rfl
  · rw [hrun, he]
    rfl

theorem load_eq_resolve {data : Datum} (hdata : RuleFile.rulesets data = .ok rulesets)
    (name : Datum) :
    load data name = Prod.fst <$> (resolve rulesets rulesets.length [] name).run [] := by
  rw [load, hdata, map_eq_pure_bind]
  rfl

end

/-- Loading depends only on what is referred to. Let two files agree on all rulesets that a name leads
to. They may hold any other rulesets, malformed ones and cycles among them, in any order. Then both give
the same rules for the name, or both fail with the same error, up to the list of the rulesets that there
are in the report of one that is not found. -/
theorem load_eq_of_agreeFrom {data data' : Datum} {rs rs' : List (Datum × Datum)}
    (hdata : rulesets data = .ok rs) (hdata' : rulesets data' = .ok rs') (hnames : TextNames rs)
    (hnames' : TextNames rs') (name : Datum) (hagree : AgreeFrom rs rs' name) :
    (load data name).mapError LoadError.unlisted =
      (load data' name).mapError LoadError.unlisted := by
  rw [load_eq_resolve hdata, load_eq_resolve hdata', resolve_rules_eq_expand hnames,
    resolve_rules_eq_expand hnames']
  exact expand_alike hnames hnames' rs.length [] name (Nat.le_refl _) hagree

namespace Attic

/-- A rule that includes a ruleset which no file defines. -/
def item : Datum :=
  .mapping [(.str "name", .str "item"), (.str "match", .str "x"), (.str "include", .str "lost")]

/-- A ruleset that extends another one. -/
def main : Datum := .mapping [(.str "extends", .str "base")]

def base : Datum := .mapping [(.str "rules", .list [item])]

def rulesets : List (Datum × Datum) := [(.str "main", main), (.str "base", base)]

/-- The same two in another order, with a malformed ruleset and a cycle beside them. -/
def crowded : List (Datum × Datum) :=
  [(.str "junk", .int 7), (.str "base", base), (.str "loop", .mapping [(.str "extends", .str "loop")]),
    (.str "main", main)]

def data : Datum := .mapping [(.str "rulesets", .mapping rulesets)]

def crowdedData : Datum := .mapping [(.str "rulesets", .mapping crowded)]

theorem lookup?_main : Value.lookup? (.str "main") rulesets = some main := by
  simp [rulesets, Value.lookup?, same_str]

theorem lookup?_base : Value.lookup? (.str "base") rulesets = some base := by
  simp [rulesets, Value.lookup?, same_str]

theorem lookup?_lost : Value.lookup? (.str "lost") rulesets = none := by
  simp [rulesets, Value.lookup?, same_str]

theorem mentions_item {s : String} : Mentions s item ↔ s = "lost" := by
  simp [item, mentions_mapping, nestedFields, Value.field?, eq_comm]

theorem reachable_cases {a : Datum}
    (h : Relation.ReflTransGen (DependsOn rulesets) (.str "main") a) :
    a = .str "main" ∨ a = .str "base" ∨ a = .str "lost" := by
  induction h with
  | refl => exact Or.inl rfl
  | tail _ hdep ih =>
    rcases ih with rfl | rfl | rfl
    · cases hdep with
      | inherits hd hbase =>
        cases lookup?_main.symm.trans hd
        cases hbase
        exact Or.inr (Or.inl rfl)
      | mentions hd hlist _ _ =>
        cases lookup?_main.symm.trans hd
        cases hlist
    · cases hdep with
      | inherits hd hbase =>
        cases lookup?_base.symm.trans hd
        cases hbase
      | mentions hd hlist hr hm =>
        cases lookup?_base.symm.trans hd
        cases hlist
        cases List.mem_singleton.mp hr
        rw [mentions_item.mp hm]
        exact Or.inr (Or.inr rfl)
    · cases hdep with
      | inherits hd _ => cases lookup?_lost.symm.trans hd
      | mentions hd _ _ _ => cases lookup?_lost.symm.trans hd

theorem agreeFrom : AgreeFrom rulesets crowded (.str "main") := by
  intro a ha
  rcases reachable_cases ha with rfl | rfl | rfl
  all_goals simp [rulesets, crowded, Value.lookup?, same_str]

end Attic

/-- The included ruleset is missing from both files. They report it in the same way, except that each
lists its own rulesets. -/
theorem load_attic_eq :
    rulesets Attic.data = .ok Attic.rulesets ∧ rulesets Attic.crowdedData = .ok Attic.crowded ∧
    TextNames Attic.rulesets ∧ TextNames Attic.crowded ∧
    AgreeFrom Attic.rulesets Attic.crowded (.str "main") ∧
    (load Attic.data (.str "main")).mapError LoadError.unlisted =
      .error (.malformed (.notFound "lost" [])) ∧
    (load Attic.crowdedData (.str "main")).mapError LoadError.unlisted =
      .error (.malformed (.notFound "lost" [])) := by
  have hnames : TextNames Attic.rulesets := by simp [TextNames, Attic.rulesets]
  have hnames' : TextNames Attic.crowded := by simp [TextNames, Attic.crowded]
  have hload : (load Attic.data (.str "main")).mapError LoadError.unlisted =
      .error (.malformed (.notFound "lost" [])) :=
    (map_eq_error (g := fun _ => ())).mp (by decide +kernel)
  have hboth : (load Attic.data (.str "main")).mapError LoadError.unlisted =
      (load Attic.crowdedData (.str "main")).mapError LoadError.unlisted :=
    load_eq_of_agreeFrom rfl rfl hnames hnames' (.str "main") Attic.agreeFrom
  exact ⟨rfl, rfl, hnames, hnames', Attic.agreeFrom, hload, hboth.symm.trans hload⟩

end RuleTree.RuleFile
