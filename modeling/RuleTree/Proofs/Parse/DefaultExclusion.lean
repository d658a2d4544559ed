import Mathlib.Data.Finset.Card
import RuleTree.Proofs.Parse.DepthLimit
import RuleTree.Proofs.Parse.LiteralText
import RuleTree.Proofs.Parse.Success

/-!
# Default exclusion

A rule that does not set `exclude`, includes nothing and replaces nothing takes its own name out of
the rules for the text that it captures. If all rules are of this kind, fewer names are left at every
level. Hence no branch stands below another one of its name, and no match nests deeper than there are
names. Rule sets with a single rule of another kind are not covered.
-/

namespace RuleTree

/-! ## Names along a path -/

namespace Node

/-- The paths through a branch with these paths below it. Without any the branch is a leaf. -/
def pathsUnder (name : String) : List (List String) → List (List String)
  | [] => [[name]]
  | below => below.map (name :: ·)

mutual

/-- The names of the branches on the way from the node to each leaf, the outermost first. -/
def paths : Node → List (List String)
  | text _ => [[]]
  | branch name cs => pathsUnder name (pathsAll cs)
  | tagged name cs _ => pathsUnder name (pathsAll cs)

def pathsAll : List Node → List (List String)
  | [] => []
  | n :: ns => paths n ++ pathsAll ns

end

theorem mem_pathsUnder {name : String} {below : List (List String)} {path : List String}
    (h : path ∈ pathsUnder name below) :
    ∃ rest, path = name :: rest ∧ (rest = [] ∨ rest ∈ below) := by
  cases below with
  | nil => exact ⟨[], List.mem_singleton.mp h, Or.inl rfl⟩
  | cons first others =>
    obtain ⟨rest, hrest, rfl⟩ := List.mem_map.mp h
    exact ⟨rest, rfl, Or.inr hrest⟩

theorem pathsAll_append (ns ms : List Node) : pathsAll (ns ++ ms) = pathsAll ns ++ pathsAll ms := by
  induction ns with
  | nil => rfl
  | cons n ns ih => rw [List.cons_append, pathsAll, ih, pathsAll, List.append_assoc]

theorem eq_nil_of_mem_pathsAll_ofRun {run : Text} {path : List String}
    (h : path ∈ pathsAll (ofRun run)) : path = [] := by
  cases run with
  | nil => cases h
  | cons ch rest => simpa [ofRun, pathsAll, paths] using h

end Node

/-- The path has no name twice, and only names from a given set. -/
structure DistinctIn (names : Finset String) (path : List String) : Prop where
  nodup : path.Nodup
  mem : ∀ name ∈ path, name ∈ names

namespace DistinctIn

variable {names : Finset String} {name : String} {path : List String}

theorem nil (names : Finset String) : DistinctIn names [] := ⟨List.nodup_nil, by simp⟩

theorem of_erase (h : DistinctIn (names.erase name) path) : DistinctIn names path :=
  ⟨h.nodup, fun other ho => Finset.mem_of_mem_erase (h.mem other ho)⟩

/-- A name may stand in front of a path that does without it. -/
theorem cons (hn : name ∈ names) (h : DistinctIn (names.erase name) path) :
    DistinctIn names (name :: path) := by
  constructor
  · rw [List.nodup_cons]
    exact ⟨fun hp => Finset.ne_of_mem_erase (h.mem name hp) rfl, h.nodup⟩
  · intro other ho
    rcases List.mem_cons.mp ho with rfl | ho
    · exact hn
    · exact h.of_erase.mem other ho

theorem length_le (h : DistinctIn names path) : path.length ≤ names.card := by
  rw [← List.toFinset_card_of_nodup h.nodup]
  apply Finset.card_le_card
  intro name hn
  exact h.mem name (List.mem_toFinset.mp hn)

end DistinctIn

/-- A path of what a match adds comes from the captured text, below the name of the match unless this
makes no branch. -/
theorem Construction.mem_pathsAll_shape {c : Construction} {children : List Node} {s : Shaped}
    {path : List String} (h : c.shape children = .ok s) (hp : path ∈ Node.pathsAll s.nodes) :
    path ∈ Node.pathsAll children ∨
      ∃ rest, path = c.found.rule.name :: rest ∧ (rest = [] ∨ rest ∈ Node.pathsAll children) := by
  rcases shape_cases h with ⟨_, rfl⟩ | ⟨_, _, rfl⟩ | ⟨_, _, _, _, _, rfl⟩
  · exact Or.inl hp
  · rw [Shaped.nodes, Node.pathsAll, Node.pathsAll, List.append_nil] at hp
    exact Or.inr (Node.mem_pathsUnder hp)
  · rw [Shaped.nodes, Node.pathsAll, Node.pathsAll, List.append_nil] at hp
    exact Or.inr (Node.mem_pathsUnder hp)

/-! ## Rules that only exclude themselves -/

/-- The rule takes nothing but its own name out of its child rules, and puts nothing in. -/
structure Rule.Plain (r : Rule) : Prop where
  exclude : r.exclude = none
  included : r.included = []
  replacement : r.replacement = none

/-- The names of the rules, each once. -/
def RuleSet.names (rules : RuleSet) : Finset String := (rules.map (·.name)).toFinset

theorem RuleSet.mem_names {rules : RuleSet} {name : String} :
    name ∈ rules.names ↔ ∃ r ∈ rules, r.name = name := by
  rw [names, List.mem_toFinset, List.mem_map]

namespace Rule.Plain

variable {r : Rule}

theorem childRules_eq (h : r.Plain) (rules : RuleSet) :
    r.childRules rules = rules.filter fun s => r.name ≠ s.name := by
  simp only [childRules, h.replacement, h.included, RuleSet.including_nil, RuleSet.without, excluders,
    h.exclude]
  apply List.filter_congr
  intro s _
  simp [Excluder.selects, Excluder.isNamed, Excluder.ofName, beq_eq_decide]

theorem names_childRules (h : r.Plain) (rules : RuleSet) :
    (r.childRules rules).names = rules.names.erase r.name := by
  ext name
  rw [h.childRules_eq, Finset.mem_erase, RuleSet.mem_names, RuleSet.mem_names]
  constructor
  · rintro ⟨s, hs, rfl⟩
    obtain ⟨hs, hne⟩ := List.mem_filter.mp hs
    exact ⟨(of_decide_eq_true hne).symm, s, hs, rfl⟩
  · rintro ⟨hne, s, hs, rfl⟩
    exact ⟨s, List.mem_filter.mpr ⟨hs, decide_eq_true hne.symm⟩, rfl⟩

theorem of_mem_childRules {rules : RuleSet} (hrules : ∀ s ∈ rules, s.Plain) (hr : r ∈ rules) :
    ∀ s ∈ r.childRules rules, s.Plain := by
  intro s hs
  rw [(hrules r hr).childRules_eq] at hs
  exact hrules s (List.mem_filter.mp hs).1

end Rule.Plain

/-- Opening a region takes a name away. -/
theorem Region.Opens.names_card_lt {limit : Option Int} {outer inner : Region}
    (hplain : ∀ r ∈ outer.rules, r.Plain) (h : Opens limit outer inner) :
    (∀ r ∈ inner.rules, r.Plain) ∧ inner.rules.names.card < outer.rules.names.card := by
  cases h with
  | @intro rest c _ ha _ _ =>
    have hmem := ha.answers.mem
    rw [ha.childRules_eq]
    refine ⟨Rule.Plain.of_mem_childRules hplain hmem, ?_⟩
    rw [(hplain _ hmem).names_childRules]
    exact Finset.card_erase_lt_of_mem (RuleSet.mem_names.mpr ⟨_, hmem, rfl⟩)

/-- The rules for a captured text have lost the name that is put in front of its paths. -/
theorem Yields.paths_distinct {limit : Option Int} {depth : Nat} {rules : RuleSet}
    {pending rest : Text} {nodes : List Node} (h : Yields limit depth rules pending rest nodes)
    (hplain : ∀ r ∈ rules, r.Plain) :
    ∀ path ∈ Node.pathsAll nodes, DistinctIn rules.names path := by
  have hrun : ∀ {rules : RuleSet} {run : Text} {path : List String},
      path ∈ Node.pathsAll (Node.ofRun run) → DistinctIn rules.names path := by
    intro rules run path hp
    rw [Node.eq_nil_of_mem_pathsAll_ofRun hp]
    exact .nil _
  induction h with
  | done => exact fun path hp => hrun hp
  | literal _ _ ih => exact ih hplain
  | ignored _ _ _ ih =>
    intro path hp
    rw [Node.pathsAll_append, List.mem_append] at hp
    rcases hp with hp | hp
    · exact hrun hp
    · exact ih hplain path hp
  | @nested depth rules _ _ c children _ _ ha _ _ _ hs _ ih ihrest =>
    have hmem := ha.answers.mem
    have hname : c.found.rule.name ∈ rules.names := RuleSet.mem_names.mpr ⟨_, hmem, rfl⟩
    have hin := ih (Rule.Plain.of_mem_childRules hplain hmem)
    rw [(hplain _ hmem).names_childRules] at hin
    intro path hp
    rw [Node.pathsAll_append, Node.pathsAll_append, List.mem_append, List.mem_append] at hp
    rcases hp with (hp | hp) | hp
    · exact hrun hp
    · -- A skipped match adds the paths of its text as they are, a branch its own name in front.
      rcases Construction.mem_pathsAll_shape hs hp with hp | ⟨below, rfl, rfl | hbelow⟩
      · exact (hin path hp).of_erase
      · exact .cons hname (.nil _)
      · exact .cons hname (hin below hbelow)
    · exact ihrest hplain path hp

/-! ## Depth -/

theorem Machine.Reaches.depth_le_names {limit : Option Int} {text : Text} {rules : RuleSet}
    {m : Machine} (hplain : ∀ r ∈ rules, r.Plain) (h : Reaches limit (start text rules) m) :
    m.depth ≤ rules.names.card := by
  have hle := (Region.depth_add_rank_le (fun region => ∀ r ∈ region.rules, r.Plain)
    (fun region => region.rules.names.card) (fun _ _ hp ho => ho.names_card_lt hp)
    (Stacked.of_reaches h).opened hplain).2
  rw [depth]
  simp only at hle
  omega

/-- Let every rule leave `exclude` unset, include nothing and replace nothing. Then no name occurs
twice among the branches on a path down to a leaf, so that branches nest no deeper than the rules have
names, and with a limit of at least so many a parse halts and refuses no match. -/
theorem parse_paths_nodup (text : Text) (rules : RuleSet) (hplain : ∀ r ∈ rules, r.Plain) :
    (∀ (limit : Option Int) (steps : Nat) (nodes : List Node),
      parse steps limit text rules = some (.ok nodes) →
      ∀ path ∈ Node.pathsAll nodes, path.Nodup ∧ path.length ≤ rules.names.card) ∧
    (∀ most : Int, (rules.names.card : Int) ≤ most →
      (∃ steps out, parse steps (some most) text rules = some out) ∧
      ∀ steps out, parse steps (some most) text rules = some out → out.NotTooDeep) := by
  constructor
  · intro limit steps nodes h path hp
    have hd := (parse_ok_iff_yields.mp ⟨steps, h⟩).paths_distinct hplain path hp
    exact ⟨hd.nodup, hd.length_le⟩
  · intro most hmost
    constructor
    · apply parse_halts_of_acc
      exact Region.acc_of_rank Nat.lt_wfRel.wf (fun region => ∀ r ∈ region.rules, r.Plain)
        (fun region => region.rules.names.card) (fun _ _ hp ho => ho.names_card_lt hp) hplain
    · intro steps out h
      refine Machine.Halts.notTooDeep ⟨steps, h⟩ fun m hm => ?_
      have hle := hm.depth_le_names hplain
      omega

/-- A word is all of the text or, after the letters in order of priority, one character. -/
def RuleSet.wordsAndLetters : RuleSet :=
  [.taking "word" List.length [], .taking "letter" (fun _ => 1) [], .taking "word" (fun _ => 1) []]

theorem parse_paths_wordsAndLetters :
    (∀ r ∈ RuleSet.wordsAndLetters, r.Plain) ∧
    parse 20 none ['a', 'b'] .wordsAndLetters =
      some (.ok [.branch "word" [.branch "letter" [.text ['a']], .branch "letter" [.text ['b']]]]) ∧
    (∀ path ∈ Node.pathsAll
        [.branch "word" [.branch "letter" [.text ['a']], .branch "letter" [.text ['b']]]],
      path.Nodup ∧ path.length ≤ 2) ∧
    ∀ steps out, parse steps (some 2) ['a', 'b'] .wordsAndLetters = some out → out.NotTooDeep := by
  have hplain : ∀ r ∈ RuleSet.wordsAndLetters, r.Plain := by
    intro r hr
    simp only [RuleSet.wordsAndLetters, List.mem_cons, List.not_mem_nil, or_false] at hr
    rcases hr with rfl | rfl | rfl <;> exact ⟨rfl, rfl, rfl⟩
  obtain ⟨hpaths, hdepth⟩ := parse_paths_nodup ['a', 'b'] .wordsAndLetters hplain
  exact ⟨hplain, rfl, hpaths none 20 _ rfl, (hdepth 2 (by decide)).2⟩

end RuleTree
