import RuleTree.Proofs.Node.Replacement
import RuleTree.Proofs.Parse.Success
import RuleTree.Proofs.Parse.Termination

/-!
# Ignored rules

An ignored match consumes the same text and closes the same literal run as one that makes a branch;
its captured text is not parsed. Ignoring the rules of a name therefore deletes the branches of that
name from the nodes. It is only said of a parse that returns nodes without ignoring them: where that
one fails within such a branch, the parse that ignores the branch may well succeed.
-/

namespace RuleTree

/-- The rules of the name are ignored, or none of them is. They are not skipped in either case. -/
def Treatment.ignoring (name : String) (ignore : Bool) : Treatment :=
  ⟨name, fun _ => ignore, fun _ => false⟩

theorem Treatment.ignoring_overrides (name : String) (ignore ignore' : Bool) :
    (ignoring name ignore).Overrides (ignoring name ignore') :=
  ⟨rfl, fun _ => rfl, fun _ => rfl⟩

variable {limit : Option Int} {depth : Nat} {rules : RuleSet} {pending rest : Text}
  {nodes children : List Node} {name : String} {c : Construction} {s : Shaped}

/-- What a match of the name adds is deleted as a whole, unless it is skipped. -/
theorem Construction.pruned_shape (h : c.shape children = .ok s) (hname : c.found.rule.name = name)
    (hskip : c.found.rule.skip = false) : Node.pruned name s.nodes = [] := by
  rcases shape_cases h with ⟨hs, _⟩ | ⟨_, _, rfl⟩ | ⟨_, _, _, _, _, rfl⟩
  · rw [hskip] at hs
    cases hs
  · rw [Shaped.nodes, Node.pruned, Node.replacedAll_branch, if_pos hname]
  · rw [Shaped.nodes, Node.pruned, Node.replacedAll_tagged, if_pos hname]

/-- A match of another name adds the same nodes up to what is deleted below. -/
theorem Construction.shape_pruned (h : c.shape children = .ok s) (hname : c.found.rule.name ≠ name) :
    ∃ s', (c.treated (.ignoring name true)).shape (Node.pruned name children) = .ok s' ∧
      s'.nodes = Node.pruned name s.nodes := by
  have hshape := shape_treated_of_ne (t := .ignoring name true) hname (fun _ => []) children
  rw [h] at hshape
  exact map_eq_ok.mp hshape

/-- A parse that makes the branches is turned into one that ignores their rules. -/
theorem Yields.pruned (h : Yields limit depth rules pending rest nodes)
    (hrules : ∀ r, RuleSet.Occurs r rules → r.name = name → r.skip = false) :
    Yields limit depth (rules.treated (.ignoring name true)) pending rest
      (Node.pruned name nodes) := by
  induction h with
  | done =>
    rw [Node.pruned, Node.replacedAll_ofRun]
    exact .done
  | literal hs _ ih => exact .literal (hs.treated _) (ih hrules)
  | @ignored _ _ _ _ c _ ha hi _ ih =>
    have hignore : (c.treated (.ignoring name true)).found.rule.ignore = true := by
      rw [c.treated_rule, Rule.treated_ignore, hi]
      exact ite_self _
    rw [Node.pruned, Node.replacedAll_append, Node.replacedAll_ofRun]
    exact .ignored (ha.treated _) hignore (ih hrules)
  | @nested _ rules _ _ c _ _ s ha hi hl _ hs _ ih ihrest =>
    have hmem := ha.answers.mem
    rw [Node.pruned, Node.replacedAll_append, Node.replacedAll_append, Node.replacedAll_ofRun]
    by_cases hname : c.found.rule.name = name
    · -- What the captured text has become is of no use: the ignored match goes on right behind itself.
      have hignore : (c.treated (.ignoring name true)).found.rule.ignore = true := by
        rw [c.treated_rule, Rule.treated_ignore]
        exact if_pos hname
      have hgone := Construction.pruned_shape hs hname (hrules _ (.member hmem) hname)
      rw [Node.pruned] at hgone
      rw [hgone, List.append_nil]
      exact .ignored (ha.treated _) hignore (ihrest hrules)
    · have hignore : (c.treated (.ignoring name true)).found.rule.ignore = false := by
        rw [c.treated_rule, Rule.treated_ignore, hi]
        exact if_neg hname
      obtain ⟨s', hs', hnodes⟩ := Construction.shape_pruned hs hname
      have hchild := ih fun r hr => hrules r (hr.of_childRules hmem)
      rw [← Rule.childRules_treated] at hchild
      rw [Node.pruned] at hnodes
      rw [← hnodes]
      exact .nested (ha.treated _) hignore hl hchild hs' (ihrest hrules)

/-- Ignoring all rules of a name prunes the branches of that name, and does nothing else. If a parse
that makes these branches returns nodes, the parse that ignores their rules returns the same nodes
without every branch of the name and all that is below it. -/
theorem parse_ignore_eq_pruned (limit : Option Int) (text : Text) (rules : RuleSet) (name : String)
    (steps : Nat) (nodes : List Node)
    (h : parse steps limit text (rules.treated (.ignoring name false)) = some (.ok nodes)) :
    ∃ steps', parse steps' limit text (rules.treated (.ignoring name true)) =
      some (.ok (Node.pruned name nodes)) := by
  have hrules : ∀ r, RuleSet.Occurs r (rules.treated (.ignoring name false)) → r.name = name →
      r.skip = false := by
    intro r hr hname
    obtain ⟨s, _, rfl⟩ := hr.of_treated
    rw [Rule.treated_name] at hname
    rw [Rule.treated_skip]
    exact if_pos hname
  have hyields := (parse_ok_iff_yields.mp ⟨steps, h⟩).pruned hrules
  rw [RuleSet.treated_treated (Treatment.ignoring_overrides name true false)] at hyields
  exact parse_ok_iff_yields.mpr hyields

/-- An `x` at the front of the text. -/
def Rule.mark : Rule where
  name := "mark"
  matcher := .function ⟨.named "mark", fun
    | 'x' :: _ => .ok (.list [.tuple [.int 0, .int 1]])
    | _ => .ok .null⟩

/-- Brackets with marks in them, which the bracket includes, and marks outside. -/
def RuleSet.marksInBrackets : RuleSet :=
  [{ Rule.bracket with exclude := some [⟨.str "mark", none⟩], included := [Rule.mark] }, Rule.mark]

/-- The marks go inside and outside of the bracket, and the literal runs around them stay apart. -/
theorem parse_ignore_marksInBrackets :
    parse 20 none ['a', 'x', 'b', '(', 'c', 'x', 'd']
        (RuleSet.marksInBrackets.treated (.ignoring "mark" false)) =
      some (.ok [.text ['a'], .branch "mark" [.text ['x']], .text ['b'],
        .branch "bracket" [.text ['c'], .branch "mark" [.text ['x']], .text ['d']]]) ∧
    ∃ steps, parse steps none ['a', 'x', 'b', '(', 'c', 'x', 'd']
        (RuleSet.marksInBrackets.treated (.ignoring "mark" true)) =
      some (.ok [.text ['a'], .text ['b'], .branch "bracket" [.text ['c'], .text ['d']]]) := by
  have h : parse 20 none ['a', 'x', 'b', '(', 'c', 'x', 'd']
        (RuleSet.marksInBrackets.treated (.ignoring "mark" false)) =
      some (.ok [.text ['a'], .branch "mark" [.text ['x']], .text ['b'],
        .branch "bracket" [.text ['c'], .branch "mark" [.text ['x']], .text ['d']]]) := rfl
  exact ⟨h, parse_ignore_eq_pruned none _ _ "mark" 20 _ h⟩

end RuleTree
