import RuleTree.Console.Outline
import RuleTree.Proofs.Node.Contents

/-!
# The outline of a forest

The outline that grows round by round is the one that recursion over the nodes gives, whatever waits
in between. The invariant is what a growth will have become: every pending node, the next one first,
stands for its whole outline, to be added at the place of its parent. A round replaces a node by its
label alone and leaves the children to later rounds, which find the vertex at the place that was
free before.
-/

namespace RuleTree

namespace Outline

/-! ## By recursion -/

mutual

/-- A literal is a leaf, and a branch has the outlines of its children below it. -/
def ofNode : Node → Outline
  | .text t => item (label (.text t)) []
  | .branch name cs => item (label (.branch name cs)) (ofNodes cs)
  | .tagged name cs v => item (label (.tagged name cs v)) (ofNodes cs)

def ofNodes : List Node → List Outline
  | [] => []
  | n :: ns => ofNode n :: ofNodes ns

end

theorem ofNode_eq (n : Node) : ofNode n = item (label n) (ofNodes n.children) := by
  cases n <;> rfl

mutual

theorem lines_ofNode (depth : Nat) :
    (n : Node) → lines depth (ofNode n) = (n.preorder depth).map fun p => (p.1, label p.2)
  | .text t => rfl
  | .branch name cs => by
    simp only [ofNode, lines, Node.preorder, List.map_cons, linesAll_ofNodes (depth + 1) cs]
  | .tagged name cs v => by
    simp only [ofNode, lines, Node.preorder, List.map_cons, linesAll_ofNodes (depth + 1) cs]

/-- The lines of the outlines are the labels of the nodes in reading order. -/
theorem linesAll_ofNodes (depth : Nat) :
    (ns : List Node) →
      linesAll depth (ofNodes ns) = (Node.preorders depth ns).map fun p => (p.1, label p.2)
  | [] => rfl
  | n :: ns => by
    simp only [ofNodes, linesAll, Node.preorders, List.map_append, lines_ofNode depth n,
      linesAll_ofNodes depth ns]

end

mutual

theorem size_eq_length (depth : Nat) : (n : Node) → size n = (n.preorder depth).length
  | .text t => rfl
  | .branch name cs => by
    rw [size, Node.preorder, List.length_cons, sizes_eq_length (depth + 1) cs, Nat.add_comm]
  | .tagged name cs v => by
    rw [size, Node.preorder, List.length_cons, sizes_eq_length (depth + 1) cs, Nat.add_comm]

theorem sizes_eq_length (depth : Nat) :
    (ns : List Node) → sizes ns = (Node.preorders depth ns).length
  | [] => rfl
  | n :: ns => by
    rw [sizes, Node.preorders, List.length_append, size_eq_length depth n, sizes_eq_length depth ns]

end

/-! ## At a place -/

/-- What is added at the place of the vertex that was added last becomes its last child. Where there
is no such place, nothing is added at all. -/
theorem add_add_last (o new : Outline) (l : String) (cs : List Outline) (p : Place) :
    (o.add p (item l cs)).add (p ++ [o.width p]) new = o.add p (item l (cs ++ [new])) := by
  induction p generalizing o with
  | nil =>
    obtain ⟨m, os⟩ := o
    have hlast : os.length < (os ++ [item l cs]).length := by simp
    simp only [List.nil_append, add, width]
    rw [List.modify_eq_take_cons_drop hlast]
    simp [add]
  | cons i p ih =>
    obtain ⟨m, os⟩ := o
    simp only [List.cons_append, add, width, List.modify_modify_eq]
    cases hi : os[i]? with
    | none =>
      have hbeyond : os.length ≤ i := List.getElem?_eq_none_iff.mp hi
      rw [List.modify_eq_self hbeyond, List.modify_eq_self hbeyond]
    | some c =>
      obtain ⟨hlt, rfl⟩ := List.getElem?_eq_some_iff.mp hi
      rw [List.modify_eq_take_cons_drop hlt, List.modify_eq_take_cons_drop hlt,
        Function.comp_apply, ih]

/-- Where an addition at a place adds to a list of children, several of them add to it in order. -/
theorem foldl_add {f : List Outline → Outline} {p : Place}
    (h : ∀ cs new, (f cs).add p new = f (cs ++ [new])) (ns : List Node) (cs : List Outline) :
    ns.foldl (fun o n => o.add p (ofNode n)) (f cs) = f (cs ++ ofNodes ns) := by
  induction ns generalizing cs with
  | nil => rw [List.foldl_nil, ofNodes, List.append_nil]
  | cons n ns ih => rw [List.foldl_cons, h, ih, ofNodes, List.append_assoc, List.singleton_append]

namespace Growth

variable {g next : Growth}

/-! ## Rounds -/

theorem pending_of_done (h : g.step = none) : g.pending = #[] := by
  unfold step at h
  split at h
  · next hback => exact Array.back?_eq_none_iff.mp hback
  · cases h

/-- The outline with everything that is pending added to it. -/
def completed (g : Growth) : Outline :=
  g.pending.toList.reverse.foldl (fun o e => o.add e.1 (ofNode e.2)) g.outline

theorem completed_start (title : String) (nodes : List Node) :
    (start title nodes).completed = item (titleLabel title) (ofNodes nodes) := by
  have hroot (cs : List Outline) (new : Outline) :
      (item (titleLabel title) cs).add [] new = item (titleLabel title) (cs ++ [new]) := rfl
  simp only [completed, start, List.map_reverse, List.reverse_reverse, List.foldl_map]
  exact foldl_add hroot nodes []

theorem completed_of_step (h : g.step = some next) : next.completed = g.completed := by
  obtain ⟨rest, parent, n, hpending, houtline, hnext⟩ := step_cases h
  -- The children stand on top of what was pending before, the first of them uppermost.
  have hstack : next.pending.toList.reverse =
      n.children.map (parent ++ [g.outline.width parent], ·) ++ rest.toList.reverse := by
    rw [hnext, Array.toList_append, List.reverse_append, List.map_reverse, List.reverse_reverse]
  rw [completed, hstack, houtline, List.foldl_append, List.foldl_map,
    foldl_add (fun cs new => add_add_last g.outline new (label n) cs parent), List.nil_append,
    ← ofNode_eq n, completed, hpending, Array.toList_push, List.reverse_append]
  rfl

theorem completed_of_done (h : g.step = none) : g.completed = g.outline := by
  rw [completed, pending_of_done h]
  rfl

theorem run_eq_completed (g : Growth) : g.run = g.completed := by
  fun_induction run g with
  | case1 g h => exact (completed_of_done h).symm
  | case2 g next h ih => rw [ih, completed_of_step h]

/-- The growth after a number of rounds, if so many can be made. -/
def after : Nat → Growth → Option Growth
  | 0, g => some g
  | rounds + 1, g => g.step.bind (after rounds)

theorem remaining_start (title : String) (nodes : List Node) :
    (start title nodes).remaining = (Node.preorders 0 nodes).length := by
  rw [← sizes_eq_length 0 nodes, remaining, start, nodes_at, sizes_reverse]

/-- There are as many rounds as nodes to be added. -/
theorem after_remaining (g : Growth) :
    ∃ last, g.after g.remaining = some last ∧ last.step = none ∧ last.outline = g.run := by
  fun_induction run g with
  | case1 g h =>
    have hzero : g.remaining = 0 := by
      rw [remaining, pending_of_done h]
      rfl
    exact ⟨g, by rw [hzero, after], h, rfl⟩
  | case2 g next h ih =>
    obtain ⟨last, hafter, hdone, houtline⟩ := ih
    refine ⟨last, ?_, hdone, houtline⟩
    rw [remaining_of_step h, after, h]
    exact hafter

end Growth

/-- The outline mirrors the nodes. Its root has the title, the outlines of the nodes stand below it
in order, and line by line it shows the nodes in reading order, one level deeper than they are. It
is finished after as many rounds as there are nodes. -/
theorem build_mirrors_nodes (title : String) (nodes : List Node) :
    build title nodes = item (titleLabel title) (ofNodes nodes) ∧
    (build title nodes).lines 0 =
      (0, titleLabel title) ::
        (Node.preorders 0 nodes).map (fun p => (p.1 + 1, label p.2)) ∧
    ∃ last, (Growth.start title nodes).after (Node.preorders 0 nodes).length = some last ∧
      last.step = none ∧ last.outline = build title nodes := by
  have hbuild : build title nodes = item (titleLabel title) (ofNodes nodes) := by
    rw [build, Growth.run_eq_completed, Growth.completed_start]
  refine ⟨hbuild, ?_, ?_⟩
  · rw [hbuild, lines, linesAll_ofNodes, Node.preorders_succ, List.map_map]
    rfl
  · rw [← Growth.remaining_start title nodes]
    exact Growth.after_remaining _

end Outline

end RuleTree
