import Mathlib.Data.List.Chain
import Mathlib.Data.List.Nodup
import Mathlib.Logic.Relation
import RuleTree.Proofs.RuleFile.Expansion

/-!
# Dependencies between rulesets

A ruleset depends on the one it extends and on those that its rules mention. Where all rulesets that a
name leads to are defined and well formed by themselves, the only thing that can go wrong is a cycle:
resolving succeeds if none can be reached, and otherwise reports a chain of dependencies that runs
into itself. Two ways to the same ruleset are not a cycle.
-/

namespace RuleTree.RuleFile

/-- The ruleset `a` extends `b`, or one of its rules mentions `b` at some depth. -/
inductive DependsOn (rulesets : List (Datum × Datum)) (a : Datum) : Datum → Prop
  | inherits {es : List (Datum × Datum)} {b : Datum} :
      Value.lookup? a rulesets = some (.mapping es) → Value.field? "extends" es = some b →
      DependsOn rulesets a b
  | mentions {es : List (Datum × Datum)} {ds : List Datum} {r : Datum} {s : String} :
      Value.lookup? a rulesets = some (.mapping es) → Value.field? "rules" es = some (.list ds) →
      r ∈ ds → Mentions s r → DependsOn rulesets a (.str s)

/-- The ruleset is defined, and its rules are well formed by themselves. -/
def InOrder (rulesets : List (Datum × Datum)) (a : Datum) : Prop :=
  ∃ d es ds, Value.lookup? a rulesets = some d ∧ rulesetFields a d = .ok es ∧
    ownRules a (Value.field? "rules" es) = .ok ds ∧ ∀ r ∈ ds, WellFormed r

/-! ## Reading one ruleset -/

theorem rulesetFields_mapping (name : Datum) (es : List (Datum × Datum)) :
    rulesetFields name (.mapping es) = .ok es := by
  cases es with
  | nil => rfl
  | cons e es => rfl

theorem rulesetFields_ok {name d : Datum} {es : List (Datum × Datum)}
    (h : rulesetFields name d = .ok es) : es = [] ∨ d = .mapping es := by
  unfold rulesetFields at h
  split at h
  · cases h
    exact Or.inl rfl
  · split at h
    · cases h
      exact Or.inr rfl
    · cases h

theorem ownRules_list (name : Datum) (ds : List Datum) :
    ownRules name (some (.list ds)) = .ok ds := by
  cases ds with
  | nil => rfl
  | cons d ds => rfl

theorem ownRules_ok {name : Datum} {v : Option Datum} {ds : List Datum}
    (h : ownRules name v = .ok ds) : ds = [] ∨ v = some (.list ds) := by
  unfold ownRules at h
  split at h
  · cases h
    exact Or.inl rfl
  · split at h
    · cases h
      exact Or.inl rfl
    · split at h
      · cases h
        exact Or.inr rfl
      · cases h

section

variable {rulesets : List (Datum × Datum)} {named : Datum → Except LoadError RuleSet} {a b d : Datum}

/-- A ruleset is read only if every ruleset that it depends on is found. -/
theorem DependsOn.found {rs : RuleSet} (hdep : DependsOn rulesets a b)
    (hd : Value.lookup? a rulesets = some d) (h : ruleset named a d = .ok rs) :
    ∃ rs', named b = .ok rs' := by
  obtain ⟨es, hes, h⟩ := bind_eq_ok.mp h
  obtain ⟨extended, hextended, h⟩ := bind_eq_ok.mp h
  obtain ⟨ds, hds, h⟩ := bind_eq_ok.mp h
  obtain ⟨own, hown, _⟩ := bind_eq_ok.mp h
  cases hdep with
  | inherits hlookup hfield =>
    cases hd.symm.trans hlookup
    cases hes.symm.trans (rulesetFields_mapping a _)
    rw [inherited, hfield] at hextended
    exact ⟨extended, hextended⟩
  | mentions hlookup hfield hr hm =>
    cases hd.symm.trans hlookup
    cases hes.symm.trans (rulesetFields_mapping a _)
    rw [hfield] at hds
    cases hds.symm.trans (ownRules_list a _)
    obtain ⟨r', hr'⟩ := rules_ok hown _ hr
    exact hm.found hr'

/-- A ruleset in order fails only because one that it depends on is not found. -/
theorem InOrder.not_found {e : LoadError} (ho : InOrder rulesets a)
    (hd : Value.lookup? a rulesets = some d) (h : ruleset named a d = .error e) :
    ∃ b, DependsOn rulesets a b ∧ named b = .error e := by
  obtain ⟨d', es, ds, hd', hes, hds, hwell⟩ := ho
  cases hd.symm.trans hd'
  have hmapping : ∀ {field v}, Value.field? field es = some v →
      Value.lookup? a rulesets = some (.mapping es) := by
    intro field v hfield
    rcases rulesetFields_ok hes with rfl | rfl
    · cases hfield
    · exact hd
  rcases bind_eq_error.mp h with h | ⟨es', hes', h⟩
  · cases hes.symm.trans h
  cases hes.symm.trans hes'
  rcases bind_eq_error.mp h with h | ⟨_, _, h⟩
  · unfold inherited at h
    split at h
    · next base hbase => exact ⟨base, .inherits (hmapping hbase) hbase, h⟩
    · cases h
  rcases bind_eq_error.mp h with h | ⟨ds', hds', h⟩
  · cases hds.symm.trans h
  cases hds.symm.trans hds'
  rcases bind_eq_error.mp h with h | ⟨_, _, h⟩
  · obtain ⟨r, hr, he⟩ := rules_error h
    obtain ⟨s, hs, hnamed⟩ := (hwell r hr).not_found he
    rcases ownRules_ok hds with rfl | hlist
    · cases hr
    · exact ⟨.str s, .mentions (hmapping hlist) hlist hr hs, hnamed⟩
  · cases h

end

/-! ## Expansion along dependencies -/

section

variable {rulesets : List (Datum × Datum)} {path : List String}

theorem expand_ok_cases {name : Datum} {rs : RuleSet} (h : expand rulesets path name = .ok rs) :
    ∃ s d, name = .str s ∧ s ∉ path ∧ Value.lookup? name rulesets = some d ∧
      ruleset (expand rulesets (s :: path)) name d = .ok rs := by
  by_cases htext : ∃ s, name = .str s
  · obtain ⟨s, rfl⟩ := htext
    by_cases hs : s ∈ path
    · cases h.symm.trans (expand_of_mem hs)
    cases hd : Value.lookup? (.str s) rulesets with
    | none =>
      obtain ⟨e, he⟩ := notFound_eq_error rulesets (.str s)
      rw [expand_of_undefined hs hd, he] at h
      cases h
    | some d =>
      rw [expand_of_defined hs hd] at h
      exact ⟨s, d, rfl, hs, rfl, h⟩
  · rw [expand_of_not_text fun s hs => htext ⟨s, hs⟩] at h
    obtain ⟨e, he⟩ := notFound_eq_error rulesets name
    split at h
    · rw [he] at h
      cases h
    · cases h

/-- What a ruleset leads to was expanded inside it, so it is none of the rulesets around. -/
theorem expand_ok_of_dependsOn {a b : Datum} {rs : RuleSet} (h : expand rulesets path a = .ok rs)
    (hdep : Relation.TransGen (DependsOn rulesets) a b) :
    ∃ inner rs', expand rulesets inner b = .ok rs' ∧ ∃ s, a = .str s ∧ s ∈ inner := by
  induction hdep with
  | single hab =>
    obtain ⟨s, d, rfl, _, hd, hrs⟩ := expand_ok_cases h
    obtain ⟨rs', hrs'⟩ := hab.found hd hrs
    exact ⟨s :: path, rs', hrs', s, rfl, List.mem_cons_self⟩
  | tail _ hbc ih =>
    obtain ⟨inner, rs', hb, s, hs, hin⟩ := ih
    obtain ⟨s', d, rfl, _, hd, hrs⟩ := expand_ok_cases hb
    obtain ⟨rs'', hrs''⟩ := hbc.found hd hrs
    exact ⟨s' :: inner, rs'', hrs'', s, hs, List.mem_cons_of_mem s' hin⟩

theorem not_cyclic_of_expand_ok {a : Datum} {rs : RuleSet} (h : expand rulesets path a = .ok rs) :
    ¬ Relation.TransGen (DependsOn rulesets) a a := by
  intro hcycle
  obtain ⟨inner, rs', hagain, s, rfl, hin⟩ := expand_ok_of_dependsOn h hcycle
  cases hagain.symm.trans (expand_of_mem hin)

/-- No cycle is reached from a ruleset that can be expanded. -/
theorem acyclic_of_expand_ok {a b : Datum} {rs : RuleSet} (h : expand rulesets path a = .ok rs)
    (hreach : Relation.ReflTransGen (DependsOn rulesets) a b) :
    ¬ Relation.TransGen (DependsOn rulesets) b b := by
  rcases Relation.reflTransGen_iff_eq_or_transGen.mp hreach with rfl | hreach
  · exact not_cyclic_of_expand_ok h
  · obtain ⟨inner, rs', hb, _⟩ := expand_ok_of_dependsOn h hreach
    exact not_cyclic_of_expand_ok hb

/-- Names that depend on one another from right to left: the innermost ruleset first. -/
def Chained (rulesets : List (Datum × Datum)) : List String → Prop :=
  List.IsChain fun inner outer => DependsOn rulesets (.str outer) (.str inner)

/-- If only rulesets in order are reached, expansion fails by running into the path that led to it. -/
theorem expand_error_cases (hr : TextNames rulesets) {e : LoadError} (size : Nat) :
    ∀ (path : List String) (s : String), (offPath rulesets path).length ≤ size →
      (∀ a, Relation.ReflTransGen (DependsOn rulesets) (.str s) a → InOrder rulesets a) →
      Chained rulesets (s :: path) → path.Nodup → expand rulesets path (.str s) = .error e →
      ∃ last trail, e = .malformed (.circular last (trail.reverse ++ [last])) ∧
        s :: path <:+ last :: trail ∧ Chained rulesets (last :: trail) ∧ trail.Nodup ∧
        last ∈ trail := by
  induction size using Nat.strongRecOn with
  | ind size ih =>
    intro path s hsize horder hchain hnodup h
    by_cases hs : s ∈ path
    · rw [expand_of_mem hs] at h
      cases h
      exact ⟨s, path, rfl, List.suffix_refl _, hchain, hnodup, hs⟩
    · have ho := horder (.str s) .refl
      have hdefined := ho
      obtain ⟨d, _, _, hd, _⟩ := hdefined
      rw [expand_of_defined hs hd] at h
      obtain ⟨b, hdep, hb⟩ := ho.not_found hd h
      obtain ⟨_, _, _, hdefined, _⟩ := horder b (.single hdep)
      obtain ⟨s', rfl⟩ := hr.of_lookup? hdefined
      -- The dependency that failed continues the chain by one name, and fewer are left off the path.
      have hlt := offPath_cons_lt hs hd
      obtain ⟨last, trail, he, hsuffix, hrest⟩ := ih (offPath rulesets (s :: path)).length
        (by omega) (s :: path) s' (Nat.le_refl _) (fun a ha => horder a (.head hdep ha))
        (.cons_cons hdep hchain) (List.nodup_cons.mpr ⟨hs, hnodup⟩) hb
      exact ⟨last, trail, he, (List.suffix_cons s' _).trans hsuffix, hrest⟩

theorem Chained.transGen {s s' : String} {names : List String}
    (h : Chained rulesets (s :: names)) (hs : s' ∈ names) :
    Relation.TransGen (DependsOn rulesets) (.str s') (.str s) := by
  induction names generalizing s with
  | nil => cases hs
  | cons n names ih =>
    obtain ⟨hdep, hrest⟩ := List.isChain_cons_cons.mp h
    rcases List.mem_cons.mp hs with rfl | hs
    · exact .single hdep
    · exact (ih hrest hs).tail hdep

/-! ## Enough depth -/

section

variable {outer : List Datum} {name : Datum}

theorem resolve_undefined (hd : Value.lookup? name rulesets = none) (depth depth' : Nat) :
    resolve rulesets depth outer name = resolve rulesets depth' outer name := by
  rw [resolve.eq_def, resolve.eq_def rulesets depth']
  simp only [hd]

theorem resolve_on_path (hp : outer.any (·.same name) = true) (depth depth' : Nat) :
    resolve rulesets depth outer name = resolve rulesets depth' outer name := by
  rw [resolve.eq_def, resolve.eq_def rulesets depth']
  simp only [hp, if_true]

end

/-- More depth than there are rulesets off the path is never used. -/
theorem resolve_depth_succ (hr : TextNames rulesets) (depth : Nat) :
    ∀ path : List String, (offPath rulesets path).length ≤ depth → ∀ name,
      resolve rulesets (depth + 1) (path.map .str) name =
        resolve rulesets depth (path.map .str) name := by
  induction depth using Nat.strongRecOn with
  | ind depth ih =>
    intro path hdepth name
    cases hd : Value.lookup? name rulesets with
    | none => exact resolve_undefined hd _ _
    | some d =>
      obtain ⟨s, rfl⟩ := hr.of_lookup? hd
      by_cases hs : s ∈ path
      · exact resolve_on_path (any_same_map_str.mpr hs) _ _
      · have hlt := offPath_cons_lt hs hd
        obtain ⟨k, rfl⟩ := Nat.exists_eq_succ_of_ne_zero (n := depth) (by omega)
        have hinner := funext (ih k (Nat.lt_succ_self k) (s :: path) (by omega))
        rw [List.map_cons] at hinner
        rw [resolve.eq_def, resolve.eq_def rulesets (k + 1)]
        simp only [hd, hinner]

theorem resolve_depth_eq (hr : TextNames rulesets) {depth : Nat} (hdepth : rulesets.length ≤ depth) :
    resolve rulesets depth [] = resolve rulesets rulesets.length [] := by
  induction depth, hdepth using Nat.le_induction with
  | base => rfl
  | succ depth hdepth ih => exact (funext (resolve_depth_succ hr depth [] hdepth)).trans ih

end

/-! ## Cycles -/

/-- The chain follows dependencies from `name` until it comes to `last`, where it has been before. -/
structure Loops (rulesets : List (Datum × Datum)) (name : String) (chain : List String)
    (last : String) : Prop where
  start : chain.head? = some name
  step : (chain ++ [last]).IsChain fun a b => DependsOn rulesets (.str a) (.str b)
  distinct : chain.Nodup
  again : last ∈ chain

section

variable {rulesets : List (Datum × Datum)} {name last : String}

theorem Loops.of_trail {trail : List String} (hsuffix : [name] <:+ last :: trail)
    (hchained : Chained rulesets (last :: trail)) (hnodup : trail.Nodup) (hlast : last ∈ trail) :
    Loops rulesets name trail.reverse last := by
  obtain ⟨front, hfront⟩ := hsuffix
  cases front with
  | nil =>
    cases hfront
    cases hlast
  | cons n front =>
    rw [List.cons_append] at hfront
    obtain ⟨rfl, rfl⟩ := List.cons.inj hfront
    refine ⟨?_, ?_, List.nodup_reverse.mpr hnodup, List.mem_reverse.mpr hlast⟩
    · rw [List.reverse_append]
      rfl
    · rw [← List.reverse_cons, List.isChain_reverse]
      exact hchained

/-- A loop leads from the name to a cycle. -/
theorem Loops.cyclic {chain : List String} (h : Loops rulesets name chain last) :
    Relation.ReflTransGen (DependsOn rulesets) (.str name) (.str last) ∧
      Relation.TransGen (DependsOn rulesets) (.str last) (.str last) := by
  have hchained : Chained rulesets (last :: chain.reverse) := by
    rw [Chained, ← List.isChain_reverse, List.reverse_cons, List.reverse_reverse]
    exact h.step
  have hname := List.mem_of_mem_head? h.start
  exact ⟨(hchained.transGen (List.mem_reverse.mpr hname)).to_reflTransGen,
    hchained.transGen (List.mem_reverse.mpr h.again)⟩

/-- Among rulesets in order, what goes wrong in the expansion of a name is a loop. -/
theorem loops_of_expand_error (hr : TextNames rulesets) {e : LoadError}
    (horder : ∀ a, Relation.ReflTransGen (DependsOn rulesets) (.str name) a → InOrder rulesets a)
    (h : expand rulesets [] (.str name) = .error e) :
    ∃ chain last, e = .malformed (.circular last (chain ++ [last])) ∧
      Loops rulesets name chain last := by
  obtain ⟨last, trail, he, hsuffix, hchained, hnodup, hlast⟩ :=
    expand_error_cases hr rulesets.length [] name (Nat.le_refl _) horder (.singleton _) .nil h
  exact ⟨trail.reverse, last, he, .of_trail hsuffix hchained hnodup hlast⟩

end

/-- The resolver stops on its own: no depth beyond the number of rulesets makes a difference. Where all
rulesets that a name leads to are in order, it succeeds if and only if none of them is on a cycle, and
otherwise reports a loop of dependencies that starts at the name. -/
theorem resolve_ok_iff_acyclic (rulesets : List (Datum × Datum)) (hnames : TextNames rulesets) :
    (∀ depth, rulesets.length ≤ depth →
      resolve rulesets depth [] = resolve rulesets rulesets.length []) ∧
    ∀ name : String,
      (∀ a, Relation.ReflTransGen (DependsOn rulesets) (.str name) a → InOrder rulesets a) →
      ((∃ rules memo,
          (resolve rulesets rulesets.length [] (.str name)).run [] = .ok (rules, memo)) ↔
        ∀ a, Relation.ReflTransGen (DependsOn rulesets) (.str name) a →
          ¬ Relation.TransGen (DependsOn rulesets) a a) ∧
      ∀ e, (resolve rulesets rulesets.length [] (.str name)).run [] = .error e →
        ∃ chain last, e = .malformed (.circular last (chain ++ [last])) ∧
          Loops rulesets name chain last := by
  refine ⟨fun depth hdepth => resolve_depth_eq hnames hdepth, fun name horder => ?_⟩
  rcases resolve_run_nil hnames (Nat.le_refl _) (.str name) with
    ⟨rules, memo, hrun, hexpand⟩ | ⟨e, hrun, hexpand⟩
  · refine ⟨⟨fun _ a ha => acyclic_of_expand_ok hexpand ha, fun _ => ⟨rules, memo, hrun⟩⟩, ?_⟩
    intro e he
    cases hrun.symm.trans he
  · have hloops := loops_of_expand_error hnames horder hexpand
    refine ⟨⟨?_, fun hacyclic => ?_⟩, ?_⟩
    · rintro ⟨rules, memo, hok⟩
      cases hrun.symm.trans hok
    · obtain ⟨chain, last, _, hloop⟩ := hloops
      exact absurd hloop.cyclic.2 (hacyclic _ hloop.cyclic.1)
    · intro e' he'
      cases hrun.symm.trans he'
      exact hloops

namespace Knot

/-- A rule that includes the ruleset `main`. -/
def item : Datum :=
  .mapping [(.str "name", .str "item"), (.str "match", .str "x"), (.str "include", .str "main")]

/-- A rule with the other one inline. -/
def group : Datum :=
  .mapping [(.str "name", .str "group"), (.str "match", .str "y"), (.str "rules", .list [item])]

/-- Two rulesets that depend on each other: one extends the other, which comes back inline. -/
def rulesets : List (Datum × Datum) :=
  [(.str "main", .mapping [(.str "extends", .str "base")]),
    (.str "base", .mapping [(.str "rules", .list [group])])]

theorem lookup?_main :
    Value.lookup? (.str "main") rulesets = some (.mapping [(.str "extends", .str "base")]) := by
  simp [rulesets, Value.lookup?, same_str]

theorem lookup?_base :
    Value.lookup? (.str "base") rulesets = some (.mapping [(.str "rules", .list [group])]) := by
  simp [rulesets, Value.lookup?, same_str]

theorem wellFormed_item : WellFormed item := by
  refine .intro (rfl : ruleHead _ = .ok _) ?_ ?_
  · simp [nestedFields, Value.field?]
  · simp [nestedFields, Value.field?]

theorem wellFormed_group : WellFormed group := by
  refine .intro (rfl : ruleHead _ = .ok _) ?_ ?_
  · simp [nestedFields, Value.field?]
  · simp [nestedFields, Value.field?, wellFormed_item]

theorem mentions_group {s : String} : Mentions s group ↔ s = "main" := by
  simp [group, item, mentions_mapping, nestedFields, Value.field?, eq_comm]

theorem reachable_cases {a : Datum}
    (h : Relation.ReflTransGen (DependsOn rulesets) (.str "main") a) :
    a = .str "main" ∨ a = .str "base" := by
  induction h with
  | refl => exact Or.inl rfl
  | tail _ hdep ih =>
    rcases ih with rfl | rfl
    · cases hdep with
      | inherits hd hbase =>
        cases lookup?_main.symm.trans hd
        cases hbase
        exact Or.inr rfl
      | mentions hd hlist _ _ =>
        cases lookup?_main.symm.trans hd
        cases hlist
    · cases hdep with
      | inherits hd hbase =>
        cases lookup?_base.symm.trans hd
        cases hbase
      | mentions hd hlist hr hm =>
        cases lookup?_base.symm.trans hd
        cases hlist
        cases List.mem_singleton.mp hr
        rw [mentions_group.mp hm]
        exact Or.inl rfl

theorem inOrder {a : Datum} (h : Relation.ReflTransGen (DependsOn rulesets) (.str "main") a) :
    InOrder rulesets a := by
  rcases reachable_cases h with rfl | rfl
  · exact ⟨_, _, [], lookup?_main, rfl, rfl, nofun⟩
  · refine ⟨_, _, [group], lookup?_base, rfl, rfl, ?_⟩
    simpa using wellFormed_group

theorem cyclic : Relation.TransGen (DependsOn rulesets) (.str "main") (.str "main") := by
  have hbase : DependsOn rulesets (.str "main") (.str "base") := .inherits lookup?_main rfl
  have hmain : DependsOn rulesets (.str "base") (.str "main") :=
    .mentions lookup?_base rfl List.mem_cons_self (mentions_group.mpr rfl)
  exact .tail (.single hbase) hmain

end Knot

theorem resolve_knot_circular :
    TextNames Knot.rulesets ∧
    (∀ a, Relation.ReflTransGen (DependsOn Knot.rulesets) (.str "main") a →
      InOrder Knot.rulesets a) ∧
    ∃ chain last, (resolve Knot.rulesets 2 [] (.str "main")).run [] =
        .error (.malformed (.circular last (chain ++ [last]))) ∧
      Loops Knot.rulesets "main" chain last := by
  have hnames : TextNames Knot.rulesets := by simp [TextNames, Knot.rulesets]
  have horder := fun a => Knot.inOrder (a := a)
  obtain ⟨_, hname⟩ := resolve_ok_iff_acyclic Knot.rulesets hnames
  obtain ⟨hiff, hcircular⟩ := hname "main" horder
  refine ⟨hnames, horder, ?_⟩
  cases hrun : (resolve Knot.rulesets 2 [] (.str "main")).run [] with
  | ok out => exact absurd Knot.cyclic (hiff.mp ⟨out.1, out.2, hrun⟩ _ .refl)
  | error e =>
    obtain ⟨chain, last, rfl, hloop⟩ := hcircular e hrun
    exact ⟨chain, last, rfl, hloop⟩

end RuleTree.RuleFile
