import RuleTree.Proofs.Parse.FrameView

/-!
# What nodes hold

Two views of a list of nodes: its branches with their depths, and its literal text in reading order.
A match adds one level around its nodes, or none if its rule is skipped, and never any text.
-/

namespace RuleTree

namespace Node

def isBranch : Node → Bool
  | text _ => false
  | branch _ _ => true
  | tagged _ _ _ => true

mutual

/-- The literal text of a node, in reading order. -/
def literal : Node → Text
  | text t => t
  | branch _ cs => literals cs
  | tagged _ cs _ => literals cs

def literals : List Node → Text
  | [] => []
  | n :: ns => literal n ++ literals ns

end

theorem preorders_append (depth : Nat) (ns ms : List Node) :
    preorders depth (ns ++ ms) = preorders depth ns ++ preorders depth ms := by
  induction ns with
  | nil => rfl
  | cons n ns ih => rw [List.cons_append, preorders, ih, preorders, List.append_assoc]

mutual

theorem preorder_succ (depth : Nat) :
    (n : Node) → preorder (depth + 1) n = (preorder depth n).map fun p => (p.1 + 1, p.2)
  | text t => by simp only [preorder, List.map_cons, List.map_nil]
  | branch name cs => by simp only [preorder, List.map_cons, preorders_succ (depth + 1) cs]
  | tagged name cs v => by simp only [preorder, List.map_cons, preorders_succ (depth + 1) cs]

/-- One level more around nodes puts everything in them one level deeper. -/
theorem preorders_succ (depth : Nat) :
    (ns : List Node) → preorders (depth + 1) ns = (preorders depth ns).map fun p => (p.1 + 1, p.2)
  | [] => rfl
  | n :: ns => by
    simp only [preorders, List.map_append, preorder_succ depth n, preorders_succ depth ns]

end

theorem preorder_eq_cons (depth : Nat) (n : Node) :
    preorder depth n = (depth, n) :: preorders (depth + 1) n.children := by
  cases n <;> rfl

/-- The property holds of every node in the list and below it. -/
def Throughout (P : Node → Prop) (ns : List Node) : Prop := ∀ p ∈ preorders 0 ns, P p.2

theorem throughout_append {P : Node → Prop} {ns ms : List Node} :
    Throughout P (ns ++ ms) ↔ Throughout P ns ∧ Throughout P ms := by
  rw [Throughout, preorders_append, List.forall_mem_append]
  rfl

theorem throughout_singleton {P : Node → Prop} {n : Node} :
    Throughout P [n] ↔ P n ∧ Throughout P n.children := by
  rw [Throughout, preorders, preorders, List.append_nil, preorder_eq_cons, preorders_succ,
    List.forall_mem_cons, List.forall_mem_map]
  rfl

/-- A pending run holds no branch. -/
theorem isBranch_of_mem_preorders_ofRun {depth level : Nat} {run : Text} {n : Node}
    (h : (level, n) ∈ preorders depth (ofRun run)) : n.isBranch = false := by
  cases run with
  | nil => cases h
  | cons ch rest =>
    simp only [ofRun, preorders, preorder, List.append_nil, List.mem_singleton, Prod.mk.injEq] at h
    rw [h.2, isBranch]

theorem literal_of_isBranch {n : Node} (h : n.isBranch = true) : n.literal = literals n.children := by
  cases n with
  | text t => cases h
  | branch name cs => rfl
  | tagged name cs v => rfl

@[simp] theorem literals_append (ns ms : List Node) :
    literals (ns ++ ms) = literals ns ++ literals ms := by
  induction ns with
  | nil => rfl
  | cons n ns ih => rw [List.cons_append, literals, ih, literals, List.append_assoc]

@[simp] theorem literals_ofRun (run : Text) : literals (ofRun run) = run := by
  cases run with
  | nil => rfl
  | cons ch rest => simp only [ofRun, literals, literal, List.append_nil]

end Node

namespace Construction

variable {c : Construction} {children : List Node} {s : Shaped}

theorem shape_of_skip (hs : c.found.rule.skip = true) (children : List Node) :
    c.shape children = .ok (.splice children) := by
  simp only [shape, hs, ↓reduceIte]
  rfl

theorem shape_of_branch (hs : c.found.rule.skip = false) (ho : c.found.rule.option = none)
    (children : List Node) :
    c.shape children = .ok (.node (.branch c.found.rule.name children)) := by
  simp only [shape, hs, ho, Bool.false_eq_true, ↓reduceIte]
  rfl

theorem shape_of_tagged {o : RuleOption} (hs : c.found.rule.skip = false)
    (ho : c.found.rule.option = some o) (children : List Node) :
    c.shape children =
      (fun v => .node (.tagged c.found.rule.name children v)) <$> o.value c.source c.found.spans := by
  simp only [shape, hs, ho, Bool.false_eq_true, ↓reduceIte]
  cases o.value c.source c.found.spans <;> rfl

/-- Everything that a match can have made of the nodes of its captured text. -/
theorem shape_cases (h : c.shape children = .ok s) :
    (c.found.rule.skip = true ∧ s = .splice children) ∨
    (c.found.rule.skip = false ∧ c.found.rule.option = none ∧
      s = .node (.branch c.found.rule.name children)) ∨
    (c.found.rule.skip = false ∧ ∃ o v, c.found.rule.option = some o ∧
      o.value c.source c.found.spans = .ok v ∧ s = .node (.tagged c.found.rule.name children v)) := by
  cases hs : c.found.rule.skip with
  | true =>
    rw [shape_of_skip hs] at h
    exact Or.inl ⟨rfl, (Except.ok.inj h).symm⟩
  | false =>
    refine Or.inr ?_
    cases ho : c.found.rule.option with
    | none =>
      rw [shape_of_branch hs ho] at h
      exact Or.inl ⟨rfl, rfl, (Except.ok.inj h).symm⟩
    | some o =>
      rw [shape_of_tagged hs ho] at h
      cases hv : o.value c.source c.found.spans with
      | error e =>
        rw [hv] at h
        cases h
      | ok v =>
        rw [hv] at h
        exact Or.inr ⟨rfl, o, v, rfl, hv, (Except.ok.inj h).symm⟩

/-- A match adds the nodes of its captured text themselves, or one branch around them. -/
theorem shape_ok (h : c.shape children = .ok s) :
    s = .splice children ∨ ∃ n, s = .node n ∧ n.isBranch = true ∧ n.children = children := by
  rcases shape_cases h with ⟨_, rfl⟩ | ⟨_, _, rfl⟩ | ⟨_, _, _, _, _, rfl⟩
  · exact Or.inl rfl
  · exact Or.inr ⟨_, rfl, rfl, rfl⟩
  · exact Or.inr ⟨_, rfl, rfl, rfl⟩

theorem shape_literals (h : c.shape children = .ok s) :
    Node.literals s.nodes = Node.literals children := by
  rcases shape_ok h with rfl | ⟨n, rfl, hb, rfl⟩
  · rfl
  · rw [Shaped.nodes, Node.literals, Node.literals, List.append_nil, Node.literal_of_isBranch hb]

/-- A property of all nodes of the captured text is one of all nodes that the match adds, if a branch
around these nodes has it. -/
theorem throughout_shape {P : Node → Prop} (h : c.shape children = .ok s)
    (hbranch : ∀ n, n.isBranch = true → n.children = children → P n)
    (hchildren : Node.Throughout P children) : Node.Throughout P s.nodes := by
  rcases shape_ok h with rfl | ⟨n, rfl, hb, rfl⟩
  · exact hchildren
  · exact Node.throughout_singleton.mpr ⟨hbranch n hb rfl, hchildren⟩

/-- What a match adds is the branch that it makes, or it comes from the captured text and lies one
level less deep than there, if the match makes no branch. -/
theorem mem_preorders_shape {depth level : Nat} {n : Node} (h : c.shape children = .ok s)
    (hn : (level, n) ∈ Node.preorders depth s.nodes) :
    level = depth ∨ ∃ inner, level ≤ inner ∧ (inner, n) ∈ Node.preorders (depth + 1) children := by
  rcases shape_ok h with rfl | ⟨node, rfl, _, rfl⟩
  · refine Or.inr ⟨level + 1, Nat.le_succ level, ?_⟩
    rw [Node.preorders_succ]
    exact List.mem_map_of_mem hn
  · rw [Shaped.nodes, Node.preorders, Node.preorders, List.append_nil, Node.preorder_eq_cons] at hn
    rcases List.mem_cons.mp hn with hn | hn
    · exact Or.inl (congrArg Prod.fst hn)
    · exact Or.inr ⟨level, Nat.le_refl level, hn⟩

end Construction

end RuleTree
