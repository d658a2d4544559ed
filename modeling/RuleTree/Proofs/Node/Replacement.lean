import RuleTree.Proofs.Node.Contents
import RuleTree.Proofs.Rule.Treatment

/-!
# Branches that give way

In a list of nodes, all branches of one name give way to something made of their children: to the
children themselves (`spliced`) or to nothing (`pruned`). Literal nodes stay as they are, so two that
come to stand side by side remain two.
-/

namespace RuleTree

namespace Node

mutual

/-- What is left in the place of a node if every branch of the name, in it and below it, gives way to
what `f` makes of its children. -/
def replaced (name : String) (f : List Node → List Node) : Node → List Node
  | text t => [text t]
  | branch n cs =>
    if n = name then f (replacedAll name f cs) else [branch n (replacedAll name f cs)]
  | tagged n cs v =>
    if n = name then f (replacedAll name f cs) else [tagged n (replacedAll name f cs) v]

def replacedAll (name : String) (f : List Node → List Node) : List Node → List Node
  | [] => []
  | n :: ns => replaced name f n ++ replacedAll name f ns

end

/-- Every branch of the name is replaced in place by its children. -/
def spliced (name : String) : List Node → List Node := replacedAll name id

/-- Every branch of the name is deleted with all that is below it. -/
def pruned (name : String) : List Node → List Node := replacedAll name fun _ => []

variable {name : String} {f : List Node → List Node}

@[simp] theorem replacedAll_append (ns ms : List Node) :
    replacedAll name f (ns ++ ms) = replacedAll name f ns ++ replacedAll name f ms := by
  induction ns with
  | nil => rfl
  | cons n ns ih => rw [List.cons_append, replacedAll, ih, replacedAll, List.append_assoc]

@[simp] theorem replacedAll_text (t : Text) : replacedAll name f [.text t] = [.text t] := rfl

@[simp] theorem replacedAll_ofRun (run : Text) : replacedAll name f (ofRun run) = ofRun run := by
  cases run <;> rfl

theorem replacedAll_branch (n : String) (cs : List Node) :
    replacedAll name f [.branch n cs] =
      if n = name then f (replacedAll name f cs) else [.branch n (replacedAll name f cs)] := by
  rw [replacedAll, replacedAll, List.append_nil, replaced]

theorem replacedAll_tagged (n : String) (cs : List Node) (v : Datum) :
    replacedAll name f [.tagged n cs v] =
      if n = name then f (replacedAll name f cs) else [.tagged n (replacedAll name f cs) v] := by
  rw [replacedAll, replacedAll, List.append_nil, replaced]

end Node

/-- A rule of another name than the treated ones makes the same of its captured text as before. -/
theorem Construction.shape_treated_of_ne {t : Treatment} {c : Construction}
    (hne : c.found.rule.name ≠ t.name) (f : List Node → List Node) (children : List Node) :
    Shaped.nodes <$> (c.treated t).shape (Node.replacedAll t.name f children) =
      (fun s => Node.replacedAll t.name f s.nodes) <$> c.shape children := by
  have hskip : (c.treated t).found.rule.skip = c.found.rule.skip := by
    rw [c.treated_rule, Rule.treated_skip, if_neg hne]
  have hoption : (c.treated t).found.rule.option = c.found.rule.option := Rule.treated_option _
  cases hs : c.found.rule.skip with
  | true =>
    rw [shape_of_skip hs, shape_of_skip (hskip.trans hs)]
    rfl
  | false =>
    cases ho : c.found.rule.option with
    | none =>
      rw [shape_of_branch hs ho, shape_of_branch (hskip.trans hs) (hoption.trans ho),
        c.treated_rule, Rule.treated_name]
      change Except.ok [_] = Except.ok (Node.replacedAll t.name f [_])
      rw [Node.replacedAll_branch, if_neg hne]
    | some o =>
      rw [shape_of_tagged hs ho, shape_of_tagged (hskip.trans hs) (hoption.trans ho),
        c.treated_rule, Rule.treated_name, c.treated_source, c.treated_spans]
      cases o.value c.source c.found.spans with
      | error e => rfl
      | ok v =>
        change Except.ok [_] = Except.ok (Node.replacedAll t.name f [_])
        rw [Node.replacedAll_tagged, if_neg hne]

end RuleTree
