import Mathlib.Data.List.Chain
import RuleTree.Proofs.Parse.Pruning

/-!
# Literal runs

A run of literal text begins with a character that no rule matches, and it lasts until the next match
or the end of the text. So no literal is empty, even where a formatter leaves nothing of a captured
text, and between two literals there was a match. A match leaves no branch behind only if its rule is
ignored or skipped; without such rules no two literals stand side by side.
-/

namespace RuleTree

namespace Node

/-- Of two neighbours in the list at least one is a branch. -/
def Parted (ns : List Node) : Prop := ns.IsChain fun n m => n.isBranch = true ∨ m.isBranch = true

theorem parted_ofRun (run : Text) : Parted (ofRun run) := by
  cases run with
  | nil => exact .nil
  | cons ch rest => exact .singleton _

/-- A branch parts whatever stands on its two sides. -/
theorem Parted.append_branch {ns ms : List Node} {n : Node} (hns : Parted ns)
    (hn : n.isBranch = true) (hms : Parted ms) : Parted (ns ++ [n] ++ ms) := by
  rw [List.append_assoc, List.singleton_append]
  have hbehind : Parted (n :: ms) := hms.cons fun _ _ => Or.inl hn
  refine hns.append hbehind ?_
  intro before _ after hafter
  obtain rfl := Option.some.inj hafter
  exact Or.inr hn

theorem throughout_ofRun {P : Node → Prop} {run : Text}
    (h : run ≠ [] → P (.text run)) : Throughout P (ofRun run) := by
  by_cases hrun : run = []
  · subst hrun
    intro p hp
    cases hp
  · rw [ofRun_of_ne_nil hrun, throughout_singleton]
    refine ⟨h hrun, ?_⟩
    intro p hp
    cases hp

end Node

variable {limit : Option Int} {depth : Nat} {rules : RuleSet} {pending rest : Text}
  {nodes : List Node}

/-- No literal is empty, at any depth. -/
theorem Yields.literal_ne_nil (h : Yields limit depth rules pending rest nodes) :
    Node.Throughout (· ≠ .text []) nodes := by
  have hrun : ∀ run : Text, Node.Throughout (· ≠ .text []) (Node.ofRun run) := by
    intro run
    apply Node.throughout_ofRun
    intro hne he
    exact hne (Node.text.inj he)
  induction h with
  | done => exact hrun _
  | literal _ _ ih => exact ih
  | ignored _ _ _ ih => exact Node.throughout_append.mpr ⟨hrun _, ih⟩
  | nested _ _ _ _ hs _ ih ihrest =>
    refine Node.throughout_append.mpr ⟨Node.throughout_append.mpr ⟨hrun _, ?_⟩, ihrest⟩
    refine Construction.throughout_shape hs ?_ ih
    intro n hn _ he
    rw [he] at hn
    cases hn

/-- The run in front of a match is parted from what comes behind it by the branch of the match. -/
theorem Yields.parted (h : Yields limit depth rules pending rest nodes)
    (hrules : ∀ r, RuleSet.Occurs r rules → r.ignore = false ∧ r.skip = false) :
    Node.Parted nodes ∧ Node.Throughout (fun n => Node.Parted n.children) nodes := by
  have hrun : ∀ run : Text, Node.Throughout (fun n => Node.Parted n.children) (Node.ofRun run) :=
    fun run => Node.throughout_ofRun fun _ => .nil
  induction h with
  | done => exact ⟨Node.parted_ofRun _, hrun _⟩
  | literal _ _ ih => exact ih hrules
  | ignored ha hi _ _ =>
    rw [(hrules _ (.member ha.answers.mem)).1] at hi
    cases hi
  | nested ha _ _ _ hs _ ih ihrest =>
    have hmem := ha.answers.mem
    obtain ⟨hchildren, hbelow⟩ := ih fun r hr => hrules r (hr.of_childRules hmem)
    obtain ⟨hbehind, hafter⟩ := ihrest hrules
    constructor
    · -- The match is not skipped, so what it adds is one branch.
      rcases Construction.shape_cases hs with ⟨hskip, _⟩ | ⟨_, _, rfl⟩ | ⟨_, _, _, _, _, rfl⟩
      · rw [(hrules _ (.member hmem)).2] at hskip
        cases hskip
      · exact (Node.parted_ofRun _).append_branch rfl hbehind
      · exact (Node.parted_ofRun _).append_branch rfl hbehind
    · refine Node.throughout_append.mpr ⟨Node.throughout_append.mpr ⟨hrun _, ?_⟩, hafter⟩
      refine Construction.throughout_shape hs ?_ hbelow
      rintro n _ rfl
      exact hchildren

/-- Whatever the rules are, no literal that a parse returns is empty, at any depth. If no rule that
occurs is ignored or skipped, no two literals stand side by side, neither at the top nor among the
children of a branch. -/
theorem parse_literals_maximal (limit : Option Int) (text : Text) (rules : RuleSet) (steps : Nat)
    (nodes : List Node) (h : parse steps limit text rules = some (.ok nodes)) :
    Node.Throughout (· ≠ .text []) nodes ∧
    ((∀ r, RuleSet.Occurs r rules → r.ignore = false ∧ r.skip = false) →
      Node.Parted nodes ∧ Node.Throughout (fun n => Node.Parted n.children) nodes) := by
  have hyields := parse_ok_iff_yields.mp ⟨steps, h⟩
  exact ⟨hyields.literal_ne_nil, hyields.parted⟩

/-- A bracket with marks in it, of which nothing is left. -/
def Rule.blotted : Rule :=
  { Rule.bracket with included := [{ Rule.mark with formatter := some (.literal []) }] }

/-- The mark leaves a branch without a literal in it, which parts the runs on its two sides. -/
theorem parse_literals_blotted :
    (∀ r, RuleSet.Occurs r [Rule.blotted] → r.ignore = false ∧ r.skip = false) ∧
    parse 20 none ['a', '(', 'b', 'c', 'x', 'd'] [Rule.blotted] = some (.ok [.text ['a'],
      .branch "bracket" [.text ['b', 'c'], .branch "mark" [], .text ['d']]]) ∧
    Node.Throughout (· ≠ .text [])
      [.text ['a'], .branch "bracket" [.text ['b', 'c'], .branch "mark" [], .text ['d']]] ∧
    Node.Throughout (fun n => Node.Parted n.children)
      [.text ['a'], .branch "bracket" [.text ['b', 'c'], .branch "mark" [], .text ['d']]] := by
  have hrules : ∀ r, RuleSet.Occurs r [Rule.blotted] → r.ignore = false ∧ r.skip = false := by
    intro r hr
    simp only [RuleSet.occurs_cons, Rule.blotted, Rule.bracket, Rule.mark, RuleSet.not_occurs_nil,
      reduceCtorEq, false_and, exists_const, or_false] at hr
    rcases hr with rfl | rfl <;> exact ⟨rfl, rfl⟩
  have h : parse 20 none ['a', '(', 'b', 'c', 'x', 'd'] [Rule.blotted] = some (.ok [.text ['a'],
      .branch "bracket" [.text ['b', 'c'], .branch "mark" [], .text ['d']]]) := rfl
  obtain ⟨hne, hparted⟩ := parse_literals_maximal none _ _ 20 _ h
  exact ⟨hrules, h, hne, (hparted hrules).2⟩

end RuleTree
