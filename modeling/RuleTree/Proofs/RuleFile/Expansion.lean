import RuleTree.Proofs.RuleFile.InlineRules

/-!
# Rulesets without a memory

`expand` works a ruleset out anew wherever it is referred to. The resolver, which remembers what it has
resolved, comes to the same rules or the same error. The reason is that the memo is faithful: a
ruleset in it refers only to rulesets in it, and none of these is being resolved, so it would come out
the same from any place that can still ask for it.

Names of rulesets are texts here. Names of other kinds are compared by value, and nothing is said of
files that use them as keys.
-/

namespace RuleTree.RuleFile

/-! ## Texts as names -/

theorem same_str {d : Datum} {s : String} : d.same (.str s) = true ↔ d = .str s := by
  cases d <;> simp [Value.same, Value.sameScalar, Value.dyadic?]

theorem str_same {d : Datum} {s : String} : (Value.str s : Datum).same d = true ↔ .str s = d := by
  cases d <;> simp [Value.same, Value.sameScalar, Value.dyadic?]

/-- The names of the rulesets are texts. -/
def TextNames (rulesets : List (Datum × Datum)) : Prop := ∀ e ∈ rulesets, ∃ s, e.1 = .str s

theorem mem_of_lookup?_str {name : String} {rulesets : List (Datum × Datum)} {d : Datum}
    (h : Value.lookup? (.str name) rulesets = some d) : (.str name, d) ∈ rulesets := by
  induction rulesets with
  | nil => cases h
  | cons e es ih =>
    obtain ⟨k, v⟩ := e
    rw [Value.lookup?] at h
    split at h
    · next hk =>
      rw [same_str.mp hk, Option.some.inj h]
      exact List.mem_cons_self
    · exact List.mem_cons_of_mem _ (ih h)

theorem TextNames.of_lookup? {rulesets : List (Datum × Datum)} (hr : TextNames rulesets)
    {name d : Datum} (h : Value.lookup? name rulesets = some d) : ∃ s, name = .str s := by
  induction rulesets with
  | nil => cases h
  | cons e es ih =>
    obtain ⟨k, v⟩ := e
    rw [Value.lookup?] at h
    split at h
    · next hk =>
      obtain ⟨s, hs⟩ := hr (k, v) List.mem_cons_self
      simp only at hs
      subst hs
      exact ⟨s, (str_same.mp hk).symm⟩
    · exact ih (fun e he => hr e (List.mem_cons_of_mem _ he)) h

theorem names?_map_str (names : List String) : names? (names.map .str) = some names := by
  induction names with
  | nil => rfl
  | cons s names ih => rw [List.map_cons, names?, ih, Option.map_some]

theorem circular_texts {α : Type} (path : List String) (s : String) :
    (circular (path.map .str) (.str s) : Except LoadError α) =
      malformed (.circular s (path.reverse ++ [s])) := by
  have hchain : (path.map Value.str).reverse ++ [Value.str s] =
      (path.reverse ++ [s]).map (Value.str : String → Datum) := by simp
  rw [circular, hchain, names?_map_str]
  rfl

theorem notFound_eq_error (rulesets : List (Datum × Datum)) (name : Datum) :
    ∃ e, ∀ α : Type, (notFound rulesets name : Except LoadError α) = .error e := by
  cases h : names? (rulesets.map (·.1)) with
  | none => exact ⟨_, fun α => by rw [notFound, h]; rfl⟩
  | some available => exact ⟨_, fun α => by rw [notFound, h]; rfl⟩

/-! ## Plain expansion -/

/-- The rulesets that are not on the path. -/
def offPath (rulesets : List (Datum × Datum)) : List String → List (Datum × Datum)
  | [] => rulesets
  | p :: path => (offPath rulesets path).filter fun e => !e.1.same (.str p)

theorem mem_offPath {rulesets : List (Datum × Datum)} {path : List String} {name : String} {d : Datum}
    (hn : name ∉ path) (hd : (.str name, d) ∈ rulesets) : (.str name, d) ∈ offPath rulesets path := by
  induction path with
  | nil => exact hd
  | cons p path ih =>
    rw [List.mem_cons, not_or] at hn
    rw [offPath, List.mem_filter]
    refine ⟨ih hn.2, ?_⟩
    rw [Bool.not_eq_true', Bool.eq_false_iff, Ne, same_str, Value.str.injEq]
    exact hn.1

/-- Each ruleset that is entered leaves fewer of them off the path. -/
theorem offPath_cons_lt {rulesets : List (Datum × Datum)} {path : List String} {name : String}
    {d : Datum} (hn : name ∉ path) (hd : Value.lookup? (.str name) rulesets = some d) :
    (offPath rulesets (name :: path)).length < (offPath rulesets path).length := by
  rw [offPath, List.length_filter_lt_length_iff_exists]
  refine ⟨_, mem_offPath hn (mem_of_lookup?_str hd), ?_⟩
  rw [Bool.not_eq_true', same_str.mpr rfl]
  exact Bool.noConfusion

/-- The rules of a ruleset by name, where `path` holds the rulesets around it, innermost first. -/
def expand (rulesets : List (Datum × Datum)) (path : List String) (name : Datum) :
    Except LoadError RuleSet :=
  match name with
  | .str s =>
    if _hs : s ∈ path then malformed (.circular s (path.reverse ++ [s]))
    else match _hd : Value.lookup? (.str s) rulesets with
      | none => notFound rulesets (.str s)
      | some d => ruleset (fun base => expand rulesets (s :: path) base) (.str s) d
  -- Only texts are names of rulesets.
  | other => if other.hashable then notFound rulesets other else throw .unhashableName
termination_by (offPath rulesets path).length
decreasing_by exact offPath_cons_lt _hs _hd

section

variable {rulesets : List (Datum × Datum)} {path : List String} {s : String}

theorem expand_of_mem (h : s ∈ path) :
    expand rulesets path (.str s) = malformed (.circular s (path.reverse ++ [s])) := by
  rw [expand, dif_pos h]

theorem expand_of_undefined (h : s ∉ path) (hd : Value.lookup? (.str s) rulesets = none) :
    expand rulesets path (.str s) = notFound rulesets (.str s) := by
  rw [expand, dif_neg h]
  split
  · rfl
  · next hd' => cases hd.symm.trans hd'

theorem expand_of_defined {d : Datum} (h : s ∉ path)
    (hd : Value.lookup? (.str s) rulesets = some d) :
    expand rulesets path (.str s) = ruleset (expand rulesets (s :: path)) (.str s) d := by
  rw [expand, dif_neg h]
  split
  · next hd' => cases hd.symm.trans hd'
  · next d' hd' =>
    cases hd.symm.trans hd'
    rfl

theorem expand_of_not_text {name : Datum} (h : ∀ s, name ≠ .str s) :
    expand rulesets path name =
      if name.hashable then notFound rulesets name else throw .unhashableName := by
  rw [expand]
  exact h

end

/-! ## Steps of the resolver -/

section

variable {rulesets : List (Datum × Datum)} {depth : Nat} {path : List Datum} {name d : Datum}
  {memo : Memo} {e : LoadError}

theorem lift_run_error {α : Type} {x : Except LoadError α} (h : x = .error e) :
    (liftM x : Load α).run memo = .error e := by
  rw [h]
  rfl

theorem resolve_unhashable (hh : name.hashable = false) :
    (resolve rulesets depth path name).run memo = .error .unhashableName := by
  rw [resolve.eq_def]
  simp only [hh, Bool.false_eq_true, ↓reduceIte]
  rfl

theorem resolve_known {k : Datum} {rs : RuleSet} (hh : name.hashable = true)
    (hm : memo.find? (·.1.same name) = some (k, rs)) :
    (resolve rulesets depth path name).run memo = .ok (rs, memo) := by
  rw [resolve.eq_def]
  simp only [hh, ↓reduceIte, StateT.run_bind, StateT.run_get, pure_bind, hm]
  rfl

theorem resolve_circular (hh : name.hashable = true) (hm : memo.find? (·.1.same name) = none)
    (hp : path.any (·.same name) = true) (he : (circular path name : Except _ RuleSet) = .error e) :
    (resolve rulesets depth path name).run memo = .error e := by
  rw [resolve.eq_def]
  simp only [hh, ↓reduceIte, StateT.run_bind, StateT.run_get, pure_bind, hm, hp]
  exact lift_run_error he

theorem resolve_notFound (hh : name.hashable = true) (hm : memo.find? (·.1.same name) = none)
    (hp : path.any (·.same name) = false) (hd : Value.lookup? name rulesets = none)
    (he : (notFound rulesets name : Except _ RuleSet) = .error e) :
    (resolve rulesets depth path name).run memo = .error e := by
  rw [resolve.eq_def]
  simp only [hh, ↓reduceIte, StateT.run_bind, StateT.run_get, pure_bind, hm, hp, hd,
    Bool.false_eq_true]
  exact lift_run_error he

theorem resolve_entered (hh : name.hashable = true) (hm : memo.find? (·.1.same name) = none)
    (hp : path.any (·.same name) = false) (hd : Value.lookup? name rulesets = some d) :
    (resolve rulesets (depth + 1) path name).run memo =
      (ruleset (resolve rulesets depth (name :: path)) name d).run memo >>= fun p =>
        .ok (p.1, (name, p.1) :: p.2) := by
  rw [resolve.eq_def]
  simp only [hh, ↓reduceIte, StateT.run_bind, StateT.run_get, pure_bind, hm, hp, hd,
    Bool.false_eq_true]
  rfl

end

/-! ## Faithful memos -/

/-- None of the names has been resolved. -/
def Memo.Apart (memo : Memo) (path : List String) : Prop :=
  ∀ s ∈ path, ∀ rs, (.str s, rs) ∉ memo

theorem Memo.Apart.mono {memo more : Memo} {path : List String} (h : more.Apart path)
    (hs : memo ⊆ more) : memo.Apart path :=
  fun s hmem rs hrs => h s hmem rs (hs hrs)

/-- What the memo holds is what expansion gives, from every place that is not within a ruleset of the
memo. The rulesets on the path are being resolved, so they are not in the memo. -/
structure Memo.Faithful (rulesets : List (Datum × Datum)) (path : List String) (memo : Memo) :
    Prop where
  apart : memo.Apart path
  text : ∀ e ∈ memo, ∃ s, e.1 = .str s
  expands : ∀ s rs, (.str s, rs) ∈ memo → ∀ other, memo.Apart other →
    expand rulesets other (.str s) = .ok rs

/-- The remembering computation `x` ends as the plain computation `y` does on the path. If it succeeds,
`y` would have given the same from every place that is not within a ruleset of the new memo. -/
def Agrees (rulesets : List (Datum × Datum)) (path : List String) (x : Load α)
    (y : List String → Except LoadError α) : Prop :=
  ∀ memo, memo.Faithful rulesets path →
    (∃ a more, x.run memo = .ok (a, more) ∧ memo ⊆ more ∧ more.Faithful rulesets path ∧
      ∀ other, more.Apart other → y other = .ok a) ∨
    (∃ e, x.run memo = .error e ∧ y path = .error e)

namespace Agrees

variable {rulesets : List (Datum × Datum)} {path : List String} {α β : Type}

theorem ok (a : α) : Agrees rulesets path (pure a) fun _ => pure a := by
  intro memo hmemo
  exact Or.inl ⟨a, memo, rfl, List.Subset.refl memo, hmemo, fun _ _ => rfl⟩

/-- What does not look at the memo agrees with itself. -/
theorem lift (x : Except LoadError α) : Agrees rulesets path (liftM x) fun _ => x := by
  intro memo hmemo
  cases x with
  | error e => exact Or.inr ⟨e, rfl, rfl⟩
  | ok a => exact Or.inl ⟨a, memo, rfl, List.Subset.refl memo, hmemo, fun _ _ => rfl⟩

theorem bind {x : Load α} {y : List String → Except LoadError α} {f : α → Load β}
    {g : List String → α → Except LoadError β} (hx : Agrees rulesets path x y)
    (hf : ∀ a, Agrees rulesets path (f a) fun other => g other a) :
    Agrees rulesets path (x >>= f) fun other => y other >>= g other := by
  intro memo hmemo
  rcases hx memo hmemo with ⟨a, more, hrun, hsub, hmore, hy⟩ | ⟨e, hrun, hy⟩
  · rcases hf a more hmore with ⟨b, most, hrun', hsub', hmost, hg⟩ | ⟨e, hrun', hg⟩
    · -- The memo has only grown, so a place apart from what it is now was apart from it before.
      refine Or.inl ⟨b, most, ?_, List.Subset.trans hsub hsub', hmost, fun other hother => ?_⟩
      · rw [StateT.run_bind, hrun]
        exact hrun'
      · exact bind_eq_ok.mpr ⟨a, hy other (hother.mono hsub'), hg other hother⟩
    · refine Or.inr ⟨e, ?_, bind_eq_error.mpr (Or.inr ⟨a, hy path hmore.apart, hg⟩)⟩
      rw [StateT.run_bind, hrun]
      exact hrun'
  · refine Or.inr ⟨e, ?_, bind_eq_error.mpr (Or.inl hy)⟩
    rw [StateT.run_bind, hrun]
    rfl

theorem map (g : α → β) {x : Load α} {y : List String → Except LoadError α}
    (hx : Agrees rulesets path x y) : Agrees rulesets path (g <$> x) fun other => g <$> y other := by
  simp only [map_eq_pure_bind]
  exact hx.bind fun a => .ok (g a)

variable {resolve : Datum → Load RuleSet} {named : List String → Datum → Except LoadError RuleSet}

theorem rules {ds : List Datum}
    (h : ∀ d ∈ ds, Agrees rulesets path (RuleFile.rule resolve d) fun other =>
      RuleFile.rule (named other) d) :
    Agrees rulesets path (RuleFile.rules resolve ds) fun other => RuleFile.rules (named other) ds := by
  induction ds with
  | nil =>
    simp only [RuleFile.rules]
    exact .ok []
  | cons d ds ih =>
    simp only [RuleFile.rules]
    refine (h d List.mem_cons_self).bind fun r => ?_
    exact (ih fun x hx => h x (List.mem_cons_of_mem d hx)).bind fun rs => .ok _

/-- If names agree, so do the rules that use them. -/
theorem rule (h : ∀ d, Agrees rulesets path (resolve d) fun other => named other d) (d : Datum) :
    Agrees rulesets path (RuleFile.rule resolve d) fun other => RuleFile.rule (named other) d := by
  induction d using inline_induction with
  | h d ih =>
    by_cases hd : ∃ es, d = .mapping es
    · obtain ⟨es, rfl⟩ := hd
      have hnested : ∀ context field, Agrees rulesets path
          (nestedValue resolve context (Value.field? field es))
          fun other => nestedValue (named other) context (Value.field? field es) := by
        intro context field
        cases hf : Value.field? field es with
        | none => exact .ok none
        | some v =>
          cases v with
          | str s => exact (h (.str s)).map some
          | list ds => exact (Agrees.rules fun r hr => ih es field ds rfl hf r hr).map some
          | _ => exact .lift _
      simp only [rule_mapping]
      refine (Agrees.lift (ruleHead es)).bind fun head => ?_
      refine (hnested head.name "include").bind fun included => ?_
      exact (hnested head.name "rules").bind fun replacement => .ok _
    · have hd : ∀ es, d ≠ .mapping es := fun es he => hd ⟨es, he⟩
      simp only [rule_of_not_mapping _ hd]
      exact .lift _

theorem ruleset (h : ∀ d, Agrees rulesets path (resolve d) fun other => named other d)
    (name d : Datum) :
    Agrees rulesets path (RuleFile.ruleset resolve name d) fun other =>
      RuleFile.ruleset (named other) name d := by
  have hinherited : ∀ es, Agrees rulesets path (inherited resolve es) fun other =>
      inherited (named other) es := by
    intro es
    unfold inherited
    cases Value.field? "extends" es with
    | none => exact .ok []
    | some base => exact h base
  refine (Agrees.lift (rulesetFields name d)).bind fun es => ?_
  refine (hinherited es).bind fun extended => ?_
  refine (Agrees.lift (ownRules name (Value.field? "rules" es))).bind fun ds => ?_
  exact (Agrees.rules fun r _ => Agrees.rule h r).bind fun own => .ok _

end Agrees

section

variable {rulesets : List (Datum × Datum)}

theorem Memo.Faithful.find?_some {path : List String} {memo : Memo} {name k : Datum} {rs : RuleSet}
    (h : memo.Faithful rulesets path) (hm : memo.find? (·.1.same name) = some (k, rs)) :
    ∃ s, name = .str s ∧ (.str s, rs) ∈ memo := by
  have hmem := List.mem_of_find?_eq_some hm
  have hsame := List.find?_some hm
  obtain ⟨s, hs⟩ := h.text (k, rs) hmem
  simp only at hs hsame
  subst hs
  exact ⟨s, (str_same.mp hsame).symm, hmem⟩

/-- A ruleset that has been resolved joins the memo: from wherever it is still asked for, the rulesets
it refers to were in the memo before it. -/
theorem Memo.Faithful.cons {path : List String} {memo : Memo} {s : String} {d : Datum} {rs : RuleSet}
    (h : memo.Faithful rulesets (s :: path)) (hs : s ∉ path)
    (hd : Value.lookup? (.str s) rulesets = some d)
    (hrs : ∀ other, memo.Apart other → ruleset (expand rulesets other) (.str s) d = .ok rs) :
    Memo.Faithful rulesets path ((.str s, rs) :: memo) := by
  have hsub : memo ⊆ (.str s, rs) :: memo := List.subset_cons_self _ _
  constructor
  · intro p hp rs' hmem
    rcases List.mem_cons.mp hmem with he | hmem
    · cases he
      exact hs hp
    · exact h.apart p (List.mem_cons_of_mem s hp) rs' hmem
  · intro e he
    rcases List.mem_cons.mp he with rfl | he
    · exact ⟨s, rfl⟩
    · exact h.text e he
  · intro s' rs' hmem other hother
    rcases List.mem_cons.mp hmem with he | hmem
    · cases he
      have hnot : s ∉ other := fun hin => hother s hin rs List.mem_cons_self
      rw [expand_of_defined hnot hd]
      refine hrs (s :: other) fun p hp rs' hin => ?_
      rcases List.mem_cons.mp hp with rfl | hp
      · exact h.apart p List.mem_cons_self rs' hin
      · exact hother p hp rs' (hsub hin)
    · exact h.expands s' rs' hmem other (hother.mono hsub)

theorem any_same_map_str {path : List String} {s : String} :
    (path.map (Value.str : String → Datum)).any (·.same (.str s)) = true ↔ s ∈ path := by
  rw [List.any_eq_true]
  constructor
  · rintro ⟨d, hd, hsame⟩
    rw [same_str.mp hsame] at hd
    obtain ⟨s', hs', he⟩ := List.mem_map.mp hd
    cases he
    exact hs'
  · intro hs
    exact ⟨.str s, List.mem_map_of_mem hs, same_str.mpr rfl⟩

theorem any_same_map_str_of_not_mem {path : List String} {s : String} (h : s ∉ path) :
    (path.map (Value.str : String → Datum)).any (·.same (.str s)) = false := by
  rw [Bool.eq_false_iff, Ne, any_same_map_str]
  exact h

theorem any_same_map_str_eq_false {path : List String} {name : Datum} (h : ∀ s, name ≠ .str s) :
    (path.map (Value.str : String → Datum)).any (·.same name) = false := by
  rw [List.any_eq_false]
  intro d hd hsame
  obtain ⟨s, _, rfl⟩ := List.mem_map.mp hd
  exact h s (str_same.mp hsame).symm

/-- A ruleset that is not yet known and not on the path is resolved as it is expanded, if the rulesets
that it refers to are. -/
theorem resolve_entered_agrees {depth : Nat} {path : List String} {s : String} {d : Datum}
    {memo : Memo} (hs : s ∉ path) (hd : Value.lookup? (.str s) rulesets = some d)
    (hinner : ∀ name, Agrees rulesets (s :: path)
      (resolve rulesets depth ((s :: path).map .str) name) fun other => expand rulesets other name)
    (hmemo : memo.Faithful rulesets path) (hm : memo.find? (·.1.same (.str s)) = none) :
    (∃ rs more, (resolve rulesets (depth + 1) (path.map .str) (.str s)).run memo = .ok (rs, more) ∧
      memo ⊆ more ∧ more.Faithful rulesets path ∧
      ∀ other, more.Apart other → expand rulesets other (.str s) = .ok rs) ∨
    (∃ e, (resolve rulesets (depth + 1) (path.map .str) (.str s)).run memo = .error e ∧
      expand rulesets path (.str s) = .error e) := by
  have hentered : memo.Faithful rulesets (s :: path) := by
    refine ⟨?_, hmemo.text, hmemo.expands⟩
    intro p hp rs hmem
    rcases List.mem_cons.mp hp with rfl | hp
    · exact List.find?_eq_none.mp hm _ hmem (same_str.mpr rfl)
    · exact hmemo.apart p hp rs hmem
  rw [resolve_entered rfl hm (any_same_map_str_of_not_mem hs) hd, expand_of_defined hs hd]
  rcases Agrees.ruleset hinner (.str s) d memo hentered with
    ⟨rs, more, hrun, hsub, hmore, hrs⟩ | ⟨e, hrun, hrs⟩
  · rw [List.map_cons] at hrun
    have hcons := hmore.cons hs hd hrs
    refine Or.inl ⟨rs, (.str s, rs) :: more, ?_, List.subset_cons_of_subset _ hsub, hcons, ?_⟩
    · rw [hrun]
      rfl
    · exact hcons.expands s rs List.mem_cons_self
  · rw [List.map_cons] at hrun
    refine Or.inr ⟨e, ?_, hrs⟩
    rw [hrun]
    rfl

/-- Nothing but a text is found, with or without a memo. -/
theorem resolve_not_text_agrees (hr : TextNames rulesets) {name : Datum} (hnot : ∀ s, name ≠ .str s)
    (depth : Nat) (path : List String) :
    Agrees rulesets path (resolve rulesets depth (path.map .str) name) fun other =>
      expand rulesets other name := by
  intro memo hmemo
  have hm : memo.find? (·.1.same name) = none := by
    rw [Option.eq_none_iff_forall_ne_some]
    rintro ⟨k, rs⟩ hfound
    obtain ⟨s, hs, _⟩ := hmemo.find?_some hfound
    exact hnot s hs
  have hd : Value.lookup? name rulesets = none := by
    rw [Option.eq_none_iff_forall_ne_some]
    intro d hd
    obtain ⟨s, hs⟩ := hr.of_lookup? hd
    exact hnot s hs
  have hexpand : expand rulesets path name = _ := expand_of_not_text hnot
  cases hh : name.hashable with
  | true =>
    obtain ⟨e, he⟩ := notFound_eq_error rulesets name
    rw [hh, if_pos rfl, he] at hexpand
    exact Or.inr ⟨e, resolve_notFound hh hm (any_same_map_str_eq_false hnot) hd (he _), hexpand⟩
  | false =>
    rw [hh] at hexpand
    exact Or.inr ⟨_, resolve_unhashable hh, hexpand⟩

/-- With as much depth as there are rulesets off the path, the resolver does what expansion does. -/
theorem resolve_agrees (hr : TextNames rulesets) (depth : Nat) :
    ∀ (path : List String) (name : Datum), (offPath rulesets path).length ≤ depth →
      Agrees rulesets path (resolve rulesets depth (path.map .str) name) fun other =>
        expand rulesets other name := by
  induction depth using Nat.strongRecOn with
  | ind depth ih =>
    intro path name hdepth
    by_cases htext : ∃ s, name = .str s
    · obtain ⟨s, rfl⟩ := htext
      intro memo hmemo
      cases hm : memo.find? (·.1.same (.str s)) with
      | some found =>
        obtain ⟨k, rs⟩ := found
        obtain ⟨s', hs', hmem⟩ := hmemo.find?_some hm
        cases hs'
        -- The memo was filled from other paths, but what it holds is the same from this one.
        exact Or.inl ⟨rs, memo, resolve_known rfl hm, List.Subset.refl memo, hmemo,
          hmemo.expands s rs hmem⟩
      | none =>
        by_cases hs : s ∈ path
        · exact Or.inr ⟨_, resolve_circular rfl hm (any_same_map_str.mpr hs) (circular_texts path s),
            expand_of_mem hs⟩
        · cases hd : Value.lookup? (.str s) rulesets with
          | none =>
            obtain ⟨e, he⟩ := notFound_eq_error rulesets (.str s)
            exact Or.inr ⟨e, resolve_notFound rfl hm (any_same_map_str_of_not_mem hs) hd (he _),
              (expand_of_undefined hs hd).trans (he _)⟩
          | some d =>
            have hlt := offPath_cons_lt hs hd
            obtain ⟨depth, rfl⟩ := Nat.exists_eq_succ_of_ne_zero (n := depth) (by omega)
            refine resolve_entered_agrees hs hd (fun name => ?_) hmemo hm
            exact ih depth (Nat.lt_succ_self depth) (s :: path) name (by omega)
    · exact resolve_not_text_agrees hr (fun s hs => htext ⟨s, hs⟩) depth path

theorem Memo.faithful_nil (rulesets : List (Datum × Datum)) : Memo.Faithful rulesets [] [] := by
  constructor
  · intro s hs
    cases hs
  · intro e he
    cases he
  · intro s rs hrs
    cases hrs

/-- The resolver, started with an empty memo and depth enough, ends as expansion does. -/
theorem resolve_run_nil (hr : TextNames rulesets) {depth : Nat} (hdepth : rulesets.length ≤ depth)
    (name : Datum) :
    (∃ rs memo, (resolve rulesets depth [] name).run [] = .ok (rs, memo) ∧
      expand rulesets [] name = .ok rs) ∨
    ∃ e, (resolve rulesets depth [] name).run [] = .error e ∧ expand rulesets [] name = .error e := by
  rcases resolve_agrees hr depth [] name hdepth [] (Memo.faithful_nil rulesets) with
    ⟨rs, memo, hrun, _, hmemo, hrs⟩ | ⟨e, hrun, he⟩
  · exact Or.inl ⟨rs, memo, hrun, hrs [] hmemo.apart⟩
  · exact Or.inr ⟨e, hrun, he⟩

end

/-- Loading a ruleset by name gives what its plain expansion gives: the same rules, or the same error
if the expansion meets one. -/
theorem load_eq_expand {data : Datum} {rs : List (Datum × Datum)} (hdata : rulesets data = .ok rs)
    (hnames : TextNames rs) (name : Datum) : load data name = expand rs [] name := by
  rw [load, hdata]
  rcases resolve_run_nil hnames (Nat.le_refl _) name with ⟨rules, memo, hrun, he⟩ | ⟨e, hrun, he⟩
  · rw [he]
    exact bind_eq_ok.mpr ⟨rs, rfl, bind_eq_ok.mpr ⟨(rules, memo), hrun, rfl⟩⟩
  · rw [he]
    exact bind_eq_error.mpr (Or.inr ⟨rs, rfl, bind_eq_error.mpr (Or.inl hrun)⟩)

/-- The ruleset `top` comes to `base` twice: by extending it, and in a rule that includes it. -/
def diamond : List (Datum × Datum) :=
  [(.str "top", .mapping [(.str "extends", .str "base"), (.str "rules", .list [.mapping
      [(.str "name", .str "group"), (.str "match", .str "y"), (.str "include", .str "base")]])]),
    (.str "base", .mapping [(.str "rules", .list [.mapping
      [(.str "name", .str "item"), (.str "match", .str "x")]])])]

theorem load_diamond_eq_expand :
    rulesets (.mapping [(.str "rulesets", .mapping diamond)]) = .ok diamond ∧ TextNames diamond ∧
    load (.mapping [(.str "rulesets", .mapping diamond)]) (.str "top") =
      expand diamond [] (.str "top") ∧
    (expand diamond [] (.str "top")).toOption.map (·.map (·.name)) = some ["item", "group"] := by
  have hdata : rulesets (.mapping [(.str "rulesets", .mapping diamond)]) = .ok diamond := rfl
  have hnames : TextNames diamond := by simp [TextNames, diamond]
  have h := load_eq_expand hdata hnames (.str "top")
  refine ⟨hdata, hnames, h, ?_⟩
  rw [← h]
  decide +kernel

end RuleTree.RuleFile
