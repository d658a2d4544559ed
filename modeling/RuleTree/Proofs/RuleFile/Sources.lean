import RuleTree.Proofs.Rule.Occurrence
import RuleTree.Proofs.RuleFile.Dependency

/-!
# Where rules and errors come from

Whatever the names of the rulesets are, and whatever refers to what, loading has only two ways to
end. It succeeds, and then every rule that occurs in the result was read from a rule that is written in
the rulesets. Or it fails, and then the error is a report of malformed data, or there is a place in the
data that it comes from. Which of the rules of a file are read is not said here.
-/

namespace RuleTree.RuleFile

variable {rulesets : List (Datum × Datum)}

/-- A rule in the list of one of the rulesets, or one that stands inline in such a rule. -/
inductive Written (rulesets : List (Datum × Datum)) : Datum → Prop
  | listed {a d : Datum} {es : List (Datum × Datum)} {ds : List Datum} :
      (a, .mapping es) ∈ rulesets → Value.field? "rules" es = some (.list ds) → d ∈ ds →
      Written rulesets d
  | inline {d : Datum} {es : List (Datum × Datum)} {field : String} {ds : List Datum} :
      Written rulesets (.mapping es) → field ∈ nestedFields →
      Value.field? field es = some (.list ds) → d ∈ ds → Written rulesets d

/-- The rule is a written one, except that the rules it holds may come from elsewhere. -/
def ReadFrom (rulesets : List (Datum × Datum)) (r : Rule) : Prop :=
  ∃ es head, Written rulesets (.mapping es) ∧ ruleHead es = .ok head ∧
    r = { head with included := r.included, replacement := r.replacement }

/-- The name of a ruleset that is asked for at some point: the one to load, or one to extend. -/
inductive AskedFor (rulesets : List (Datum × Datum)) (name : Datum) : Datum → Prop
  | loaded : AskedFor rulesets name name
  | extended {a base : Datum} {es : List (Datum × Datum)} :
      (a, .mapping es) ∈ rulesets → Value.field? "extends" es = some base →
      AskedFor rulesets name base

/-- The places that an error of loading the ruleset `name` can come from. -/
inductive Blamed (rulesets : List (Datum × Datum)) (name : Datum) : LoadError → Prop
  | reported (m : Malformed) : Blamed rulesets name (.malformed m)
  | asked {base : Datum} :
      AskedFor rulesets name base → base.hashable = false → Blamed rulesets name .unhashableName
  | key {k d : Datum} :
      (k, d) ∈ rulesets → (∀ s, k ≠ .str s) → Blamed rulesets name .unlistableNames
  | rule {es : List (Datum × Datum)} {e : LoadError} :
      Written rulesets (.mapping es) → ruleHead es = .error e → Blamed rulesets name e

/-! ## Reports -/

/-- The computation fails only with errors of a kind, if it fails. -/
def FailsOnly {ε α : Type} (kind : ε → Prop) (x : Except ε α) : Prop := ∀ e, x = .error e → kind e

namespace FailsOnly

variable {ε α β : Type} {kind : ε → Prop}

theorem ok (a : α) : FailsOnly kind (.ok a) := by
  intro e he
  cases he

theorem error {e : ε} (h : kind e) : FailsOnly kind (.error e : Except ε α) := by
  intro e' he
  cases he
  exact h

theorem bind {x : Except ε α} {f : α → Except ε β} (hx : FailsOnly kind x)
    (hf : ∀ a, FailsOnly kind (f a)) : FailsOnly kind (x >>= f) := by
  intro e he
  rcases bind_eq_error.mp he with he | ⟨a, _, he⟩
  · exact hx e he
  · exact hf a e he

theorem map {x : Except ε α} (hx : FailsOnly kind x) (g : α → β) : FailsOnly kind (g <$> x) :=
  fun e he => hx e (map_eq_error.mp he)

theorem mapM {f : α → Except ε β} (hf : ∀ a, FailsOnly kind (f a)) (xs : List α) :
    FailsOnly kind (xs.mapM f) := by
  intro e he
  obtain ⟨x, _, hx⟩ := mapM_eq_error he
  exact hf x e hx

end FailsOnly

/-- Every failure of the computation is a report of malformed data. -/
abbrev Reports {α : Type} (x : Except LoadError α) : Prop :=
  FailsOnly (fun e => ∃ m, e = .malformed m) x

theorem Reports.malformed {α : Type} (m : Malformed) :
    Reports (RuleFile.malformed m : Except LoadError α) :=
  .error ⟨m, rfl⟩

theorem rulesetFields_reports (a d : Datum) : Reports (rulesetFields a d) := by
  unfold rulesetFields
  split
  · exact .ok []
  · split
    · exact .ok _
    · exact .malformed _

theorem ownRules_reports (a : Datum) (v : Option Datum) : Reports (ownRules a v) := by
  unfold ownRules
  split
  · exact .ok []
  · split
    · exact .ok []
    · split
      · exact .ok _
      · exact .malformed _

theorem rulesets_reports (data : Datum) : Reports (RuleFile.rulesets data) := by
  unfold RuleFile.rulesets
  split
  · split
    · exact .malformed _
    · exact .ok _
    · exact .malformed _
  · exact .malformed _

/-! ## Rules read from rulesets -/

/-- All rules that occur in the rule set were read from the rulesets. -/
def AllReadFrom (rulesets : List (Datum × Datum)) (rules : RuleSet) : Prop :=
  ∀ r, RuleSet.Occurs r rules → ReadFrom rulesets r

theorem AllReadFrom.nil : AllReadFrom rulesets [] :=
  fun _ hr => absurd hr RuleSet.not_occurs_nil

theorem AllReadFrom.append {rules others : RuleSet} (hrules : AllReadFrom rulesets rules)
    (hothers : AllReadFrom rulesets others) : AllReadFrom rulesets (rules ++ others) := by
  intro r hr
  rcases RuleSet.occurs_append.mp hr with hr | hr
  · exact hrules r hr
  · exact hothers r hr

theorem AllReadFrom.singleton {r : Rule} (hr : ReadFrom rulesets r)
    (hincluded : AllReadFrom rulesets r.included)
    (hreplacement : ∀ rs, r.replacement = some rs → AllReadFrom rulesets rs) :
    AllReadFrom rulesets [r] := by
  intro s hs
  rcases RuleSet.occurs_cons.mp hs with rfl | hs | ⟨rs, hrs, hs⟩ | hs
  · exact hr
  · exact hincluded s hs
  · exact hreplacement rs hrs s hs
  · exact absurd hs RuleSet.not_occurs_nil

/-! ## Two ways to end -/

/-- All rules that the memo holds were read from the rulesets. -/
def Memo.AllReadFrom (rulesets : List (Datum × Datum)) (memo : Memo) : Prop :=
  ∀ e ∈ memo, RuleFile.AllReadFrom rulesets e.2

/-- The computation ends with a good result, and with a memo of rules from the rulesets if it was given
such a memo; or it ends with an error that comes from somewhere in the data. -/
def Ends (rulesets : List (Datum × Datum)) (name : Datum) (good : α → Prop) (x : Load α) : Prop :=
  ∀ memo : Memo, memo.AllReadFrom rulesets →
    (∃ a more, x.run memo = .ok (a, more) ∧ good a ∧ Memo.AllReadFrom rulesets more) ∨
    (∃ e, x.run memo = .error e ∧ Blamed rulesets name e)

namespace Ends

variable {name : Datum} {α β : Type} {good : α → Prop} {fine : β → Prop}

theorem ok {a : α} (h : good a) : Ends rulesets name good (pure a) := by
  intro memo hmemo
  exact Or.inl ⟨a, memo, rfl, h, hmemo⟩

theorem lift {x : Except LoadError α} (hok : ∀ a, x = .ok a → good a)
    (herror : ∀ e, x = .error e → Blamed rulesets name e) : Ends rulesets name good (liftM x) := by
  intro memo hmemo
  cases x with
  | ok a => exact Or.inl ⟨a, memo, rfl, hok a rfl, hmemo⟩
  | error e => exact Or.inr ⟨e, rfl, herror e rfl⟩

theorem bind {x : Load α} {f : α → Load β} (hx : Ends rulesets name good x)
    (hf : ∀ a, good a → Ends rulesets name fine (f a)) : Ends rulesets name fine (x >>= f) := by
  intro memo hmemo
  rcases hx memo hmemo with ⟨a, more, hrun, ha, hmore⟩ | ⟨e, hrun, he⟩
  · rw [StateT.run_bind, hrun]
    exact hf a ha more hmore
  · refine Or.inr ⟨e, ?_, he⟩
    rw [StateT.run_bind, hrun]
    rfl

theorem map {g : α → β} {x : Load α} (hx : Ends rulesets name good x)
    (hg : ∀ a, good a → fine (g a)) : Ends rulesets name fine (g <$> x) := by
  rw [map_eq_pure_bind]
  exact hx.bind fun a ha => .ok (hg a ha)

/-- What does not look at the memo and reports its failures ends in one of the two ways. -/
theorem of_reports {x : Except LoadError α} (hx : Reports x) (hok : ∀ a, x = .ok a → good a) :
    Ends rulesets name good (liftM x) := by
  refine .lift hok fun e he => ?_
  obtain ⟨m, rfl⟩ := hx e he
  exact .reported m

theorem reported (m : Malformed) : Ends rulesets name good (liftM (malformed m)) :=
  .of_reports (.malformed m) fun _ ha => absurd ha throw_ne_ok

end Ends

/-! ## Single rules -/

section

variable {name : Datum} {resolve : Datum → Load RuleSet}

theorem rules_ends {ds : List Datum}
    (h : ∀ d ∈ ds, Ends rulesets name (fun r => AllReadFrom rulesets [r]) (rule resolve d)) :
    Ends rulesets name (AllReadFrom rulesets) (rules resolve ds) := by
  induction ds with
  | nil =>
    simp only [rules]
    exact .ok .nil
  | cons d ds ih =>
    simp only [rules]
    refine (h d List.mem_cons_self).bind fun r hr => ?_
    exact (ih fun x hx => h x (List.mem_cons_of_mem d hx)).bind fun rs hrs => .ok (hr.append hrs)

/-- A written rule is read into one that comes from it, if names lead to rules of the rulesets. -/
theorem rule_ends (hnamed : ∀ s, Ends rulesets name (AllReadFrom rulesets) (resolve (.str s)))
    (d : Datum) : Written rulesets d →
      Ends rulesets name (fun r => AllReadFrom rulesets [r]) (rule resolve d) := by
  induction d using inline_induction with
  | h d ih =>
    intro hd
    by_cases hmapping : ∃ es, d = .mapping es
    · obtain ⟨es, rfl⟩ := hmapping
      have hnested : ∀ field ∈ nestedFields, ∀ context, Ends rulesets name
          (fun v => AllReadFrom rulesets (v.getD []))
          (nestedValue resolve context (Value.field? field es)) := by
        intro field hfield context
        cases hv : Value.field? field es with
        | none => exact .ok .nil
        | some v =>
          cases v with
          | str s => exact (hnamed s).map fun rs hrs => hrs
          | list ds =>
            refine (rules_ends fun r hr => ?_).map fun rs hrs => hrs
            exact ih es field ds rfl hv r hr (.inline hd hfield hv hr)
          | _ => exact .reported _
      have hhead : Ends rulesets name (fun head => ruleHead es = .ok head) (liftM (ruleHead es)) :=
        .lift (fun _ h => h) fun _ he => .rule hd he
      rw [rule_mapping]
      refine hhead.bind fun head hhead => ?_
      refine (hnested "include" (by decide) head.name).bind fun included hincluded => ?_
      refine (hnested "rules" (by decide) head.name).bind fun replacement hreplacement => .ok ?_
      refine .singleton ⟨es, head, hd, hhead, rfl⟩ hincluded ?_
      rintro rs rfl
      exact hreplacement
    · rw [rule_of_not_mapping resolve fun es he => hmapping ⟨es, he⟩]
      exact .reported _

end

/-! ## Rulesets -/

section

variable {name : Datum} {resolve : Datum → Load RuleSet}

/-- A ruleset is made of the rules that are written in it and of those that it asks for. -/
theorem ruleset_ends {k d : Datum} (hd : (k, d) ∈ rulesets)
    (hnamed : ∀ base, (base.hashable = false → AskedFor rulesets name base) →
      Ends rulesets name (AllReadFrom rulesets) (resolve base)) (a : Datum) :
    Ends rulesets name (AllReadFrom rulesets) (ruleset resolve a d) := by
  have hfields : Ends rulesets name (fun es => es = [] ∨ d = .mapping es)
      (liftM (rulesetFields a d)) :=
    .of_reports (rulesetFields_reports a d) fun es hes => rulesetFields_ok hes
  refine hfields.bind fun es hes => ?_
  have hmapping : ∀ {field v}, Value.field? field es = some v → (k, .mapping es) ∈ rulesets := by
    intro field v hv
    rcases hes with rfl | rfl
    · cases hv
    · exact hd
  have hinherited : Ends rulesets name (AllReadFrom rulesets) (inherited resolve es) := by
    unfold inherited
    cases hbase : Value.field? "extends" es with
    | none => exact .ok .nil
    | some base => exact hnamed base fun _ => .extended (hmapping hbase) hbase
  refine hinherited.bind fun extended hextended => ?_
  have hown : Ends rulesets name (fun ds => ∀ r ∈ ds, Written rulesets r)
      (liftM (ownRules a (Value.field? "rules" es))) := by
    refine .of_reports (ownRules_reports a _) fun ds hds r hr => ?_
    rcases ownRules_ok hds with rfl | hlist
    · cases hr
    · exact .listed (hmapping hlist) hlist hr
  refine hown.bind fun ds hds => ?_
  have htexts : ∀ s, Ends rulesets name (AllReadFrom rulesets) (resolve (.str s)) :=
    fun s => hnamed (.str s) fun h => Bool.noConfusion h
  refine (rules_ends fun r hr => rule_ends htexts r (hds r hr)).bind fun own hown => ?_
  exact .ok (hextended.append hown)

end

/-! ## Names that cannot be listed -/

theorem mem_of_lookup? {a d : Datum} (h : Value.lookup? a rulesets = some d) :
    ∃ k, (k, d) ∈ rulesets ∧ k.same a = true := by
  induction rulesets with
  | nil => cases h
  | cons e es ih =>
    obtain ⟨k, v⟩ := e
    rw [Value.lookup?] at h
    split at h
    · next hk =>
      cases h
      exact ⟨k, List.mem_cons_self, hk⟩
    · obtain ⟨k', hmem, hk'⟩ := ih h
      exact ⟨k', List.mem_cons_of_mem _ hmem, hk'⟩

/-- Not all names of rulesets are texts. -/
def OddName (rulesets : List (Datum × Datum)) : Prop := ∃ k d, (k, d) ∈ rulesets ∧ ∀ s, k ≠ .str s

theorem names?_eq_none {ds : List Datum} (h : names? ds = none) : ∃ d ∈ ds, ∀ s, d ≠ .str s := by
  induction ds with
  | nil => cases h
  | cons d ds ih =>
    by_cases hd : ∃ s, d = .str s
    · obtain ⟨s, rfl⟩ := hd
      rw [names?, Option.map_eq_none_iff] at h
      obtain ⟨x, hx, hne⟩ := ih h
      exact ⟨x, List.mem_cons_of_mem _ hx, hne⟩
    · exact ⟨d, List.mem_cons_self, fun s hs => hd ⟨s, hs⟩⟩

/-- A name that is found and is no text is a name of a ruleset, which is no text either. -/
theorem oddName_of_lookup? {a d : Datum} (h : Value.lookup? a rulesets = some d)
    (ha : ∀ s, a ≠ .str s) : OddName rulesets := by
  obtain ⟨k, hk, hsame⟩ := mem_of_lookup? h
  refine ⟨k, d, hk, ?_⟩
  rintro s rfl
  exact ha s (str_same.mp hsame).symm

section

variable {name : Datum} {depth : Nat} {path : List Datum} {a : Datum}

theorem circular_blamed {α : Type}
    (hnames : ∀ p ∈ a :: path, (∀ s, p ≠ .str s) → OddName rulesets) :
    ∃ e, (circular path a : Except LoadError α) = .error e ∧ Blamed rulesets name e := by
  unfold circular
  split
  · exact ⟨_, rfl, .reported _⟩
  · next hnone =>
    obtain ⟨p, hp, hodd⟩ := names?_eq_none hnone
    rw [List.mem_append, List.mem_reverse, List.mem_singleton] at hp
    obtain ⟨k, d, hk, hne⟩ := hnames p (List.mem_cons.mpr hp.symm) hodd
    exact ⟨_, rfl, .key hk hne⟩

theorem notFound_blamed {α : Type} :
    ∃ e, (notFound rulesets a : Except LoadError α) = .error e ∧ Blamed rulesets name e := by
  unfold notFound
  split
  · exact ⟨_, rfl, .reported _⟩
  · next hnone =>
    obtain ⟨k, hk, hne⟩ := names?_eq_none hnone
    obtain ⟨⟨k, d⟩, hmem, rfl⟩ := List.mem_map.mp hk
    exact ⟨_, rfl, .key hmem hne⟩

theorem resolve_exhausted {memo : Memo} {d : Datum} {e : LoadError} (hh : a.hashable = true)
    (hm : memo.find? (·.1.same a) = none) (hp : path.any (·.same a) = false)
    (hd : Value.lookup? a rulesets = some d) (he : (circular path a : Except _ RuleSet) = .error e) :
    (resolve rulesets 0 path a).run memo = .error e := by
  rw [resolve.eq_def]
  simp only [hh, ↓reduceIte, StateT.run_bind, StateT.run_get, pure_bind, hm, hp, hd,
    Bool.false_eq_true]
  exact lift_run_error he

/-- A name that is on the path and is no text is found among the rulesets there. -/
theorem oddName_of_on_path (hpath : ∀ p ∈ path, (∀ s, p ≠ .str s) → OddName rulesets)
    (hp : path.any (·.same a) = true) (ha : ∀ s, a ≠ .str s) : OddName rulesets := by
  obtain ⟨p, hmem, hsame⟩ := List.any_eq_true.mp hp
  refine hpath p hmem ?_
  rintro s rfl
  exact ha s (str_same.mp hsame).symm

/-- The answers that the resolver gives without entering a ruleset. -/
theorem resolve_ends_of_entered (hasked : a.hashable = false → AskedFor rulesets name a)
    (hpath : ∀ p ∈ path, (∀ s, p ≠ .str s) → OddName rulesets)
    (hentered : ∀ (memo : Memo) (d : Datum), memo.AllReadFrom rulesets → a.hashable = true →
      memo.find? (·.1.same a) = none → path.any (·.same a) = false →
      Value.lookup? a rulesets = some d →
      (∃ rs more, (resolve rulesets depth path a).run memo = .ok (rs, more) ∧
        AllReadFrom rulesets rs ∧ Memo.AllReadFrom rulesets more) ∨
      ∃ e, (resolve rulesets depth path a).run memo = .error e ∧ Blamed rulesets name e) :
    Ends rulesets name (AllReadFrom rulesets) (resolve rulesets depth path a) := by
  intro memo hmemo
  cases hh : a.hashable with
  | false => exact Or.inr ⟨_, resolve_unhashable hh, .asked (hasked hh) hh⟩
  | true =>
    cases hm : memo.find? (·.1.same a) with
    | some found =>
      refine Or.inl ⟨found.2, memo, resolve_known hh hm, ?_, hmemo⟩
      exact hmemo found (List.mem_of_find?_eq_some hm)
    | none =>
      cases hp : path.any (·.same a) with
      | true =>
        obtain ⟨e, he, hblamed⟩ := circular_blamed (α := RuleSet) (List.forall_mem_cons.mpr
          ⟨oddName_of_on_path hpath hp, hpath⟩)
        exact Or.inr ⟨e, resolve_circular hh hm hp he, hblamed⟩
      | false =>
        cases hd : Value.lookup? a rulesets with
        | none =>
          obtain ⟨e, he, hblamed⟩ := notFound_blamed (α := RuleSet)
          exact Or.inr ⟨e, resolve_notFound hh hm hp hd he, hblamed⟩
        | some d => exact hentered memo d hmemo hh hm hp hd

/-- The resolver ends in one of the two ways, on every path of names that have been found. -/
theorem resolve_ends (rulesets : List (Datum × Datum)) (name : Datum) (depth : Nat) :
    ∀ (path : List Datum) (a : Datum), (a.hashable = false → AskedFor rulesets name a) →
      (∀ p ∈ path, (∀ s, p ≠ .str s) → OddName rulesets) →
      Ends rulesets name (AllReadFrom rulesets) (resolve rulesets depth path a) := by
  induction depth with
  | zero =>
    intro path a hasked hpath
    refine resolve_ends_of_entered hasked hpath fun memo d _ hh hm hp hd => ?_
    obtain ⟨e, he, hblamed⟩ := circular_blamed (α := RuleSet) (List.forall_mem_cons.mpr
      ⟨oddName_of_lookup? hd, hpath⟩)
    exact Or.inr ⟨e, resolve_exhausted hh hm hp hd he, hblamed⟩
  | succ depth ih =>
    intro path a hasked hpath
    refine resolve_ends_of_entered hasked hpath fun memo d hmemo hh hm hp hd => ?_
    obtain ⟨k, hk, _⟩ := mem_of_lookup? hd
    have hpath' : ∀ p ∈ a :: path, (∀ s, p ≠ .str s) → OddName rulesets :=
      List.forall_mem_cons.mpr ⟨oddName_of_lookup? hd, hpath⟩
    have hrun : (resolve rulesets (depth + 1) path a).run memo = _ := resolve_entered hh hm hp hd
    rcases ruleset_ends hk (fun base hbase => ih (a :: path) base hbase hpath') a memo hmemo with
      ⟨rs, more, hrs, hall, hmore⟩ | ⟨e, he, hblamed⟩
    · rw [hrs] at hrun
      exact Or.inl ⟨rs, (a, rs) :: more, hrun, hall, List.forall_mem_cons.mpr ⟨hall, hmore⟩⟩
    · rw [he] at hrun
      exact Or.inr ⟨e, hrun, hblamed⟩

end

/-! ## Loading -/

/-- Loading gives rules that were read from the rulesets of the data, or an error that comes from
there. -/
theorem load_cases (data name : Datum) :
    (∃ m, load data name = .error (.malformed m)) ∨
    ∃ sets, RuleFile.rulesets data = .ok sets ∧
      ((∃ rules, load data name = .ok rules ∧ AllReadFrom sets rules) ∨
        ∃ e, load data name = .error e ∧ Blamed sets name e) := by
  cases hdata : RuleFile.rulesets data with
  | error e =>
    obtain ⟨m, rfl⟩ := rulesets_reports data e hdata
    refine Or.inl ⟨m, ?_⟩
    rw [load, hdata]
    rfl
  | ok sets =>
    refine Or.inr ⟨sets, rfl, ?_⟩
    have hends := resolve_ends sets name sets.length [] name (fun _ => .loaded)
      (fun p hp => absurd hp List.not_mem_nil) [] (fun e he => absurd he List.not_mem_nil)
    rcases hends with ⟨rules, memo, hrun, hall, _⟩ | ⟨e, hrun, hblamed⟩
    · refine Or.inl ⟨rules, ?_, hall⟩
      rw [load, hdata]
      exact bind_eq_ok.mpr ⟨sets, rfl, bind_eq_ok.mpr ⟨(rules, memo), hrun, rfl⟩⟩
    · refine Or.inr ⟨e, ?_, hblamed⟩
      rw [load, hdata]
      exact bind_eq_error.mpr (Or.inr ⟨sets, rfl, bind_eq_error.mpr (Or.inl hrun)⟩)

end RuleTree.RuleFile
