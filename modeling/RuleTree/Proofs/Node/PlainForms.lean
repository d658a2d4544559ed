import RuleTree.Proofs.Node.Contents

/-!
# Plain forms of nodes

As nested tuples and as nested mappings, nodes are equal exactly if they are equal as nodes. An
option may look like the form of a node, but it stands where no child does, and a form tells by
itself what kind of node it comes from: it is a text, a pair or a triple in one case, a text or a
mapping of two or three entries in the other.

Equality here is that of values, so an option that differs from itself makes a node that does, in
every form.
-/

namespace RuleTree

namespace Node

inductive Kind where
  | literal
  | branch
  | tagged
deriving DecidableEq

def kind : Node → Kind
  | text _ => .literal
  | branch _ _ => .branch
  | tagged _ _ _ => .tagged

/-- The kinds of a node and of all below it in reading order, each with its depth. -/
def kinds (depth : Nat) (n : Node) : List (Nat × Kind) :=
  (n.preorder depth).map fun p => (p.1, p.2.kind)

def kindsAll (depth : Nat) (ns : List Node) : List (Nat × Kind) :=
  (preorders depth ns).map fun p => (p.1, p.2.kind)

theorem kinds_eq_cons (depth : Nat) (n : Node) :
    n.kinds depth = (depth, n.kind) :: kindsAll (depth + 1) n.children := by
  rw [kinds, preorder_eq_cons, List.map_cons, kindsAll]

mutual

/-- Equal nodes are of the same kinds at every depth. -/
theorem kinds_of_same (depth : Nat) :
    (a b : Node) → a.same b = true → a.kinds depth = b.kinds depth
  | .text _, .text _, _ => rfl
  | .branch n cs, .branch m ds, h => by
    rw [same, Bool.and_eq_true] at h
    rw [kinds_eq_cons, kinds_eq_cons, children, children, kindsAll_of_same (depth + 1) cs ds h.2]
    rfl
  | .tagged n cs v, .tagged m ds w, h => by
    rw [same, Bool.and_eq_true, Bool.and_eq_true] at h
    rw [kinds_eq_cons, kinds_eq_cons, children, children, kindsAll_of_same (depth + 1) cs ds h.1.2]
    rfl
  | .text _, .branch _ _, h => nomatch h
  | .text _, .tagged _ _ _, h => nomatch h
  | .branch _ _, .text _, h => nomatch h
  | .branch _ _, .tagged _ _ _, h => nomatch h
  | .tagged _ _ _, .text _, h => nomatch h
  | .tagged _ _ _, .branch _ _, h => nomatch h

theorem kindsAll_of_same (depth : Nat) :
    (as bs : List Node) → sameAll as bs = true → kindsAll depth as = kindsAll depth bs
  | [], [], _ => rfl
  | a :: as, b :: bs, h => by
    rw [sameAll, Bool.and_eq_true] at h
    have hhead := kinds_of_same depth a b h.1
    have htail := kindsAll_of_same depth as bs h.2
    rw [kinds, kinds] at hhead
    rw [kindsAll, kindsAll] at htail ⊢
    rw [preorders, preorders, List.map_append, List.map_append, hhead, htail]
  | [], _ :: _, h => nomatch h
  | _ :: _, [], h => nomatch h

end

/-- A form that keeps apart what nodes keep apart. -/
structure PlainForm (form : Node → Datum) : Prop where
  text (s t : Text) : (form (.text s)).same (form (.text t)) = (s == t)
  branch (n m : String) (cs ds : List Node) :
    (form (.branch n cs)).same (form (.branch m ds)) =
      (n == m && Value.sameItems (cs.map form) (ds.map form))
  tagged (n m : String) (cs ds : List Node) (v w : Datum) :
    (form (.tagged n cs v)).same (form (.tagged m ds w)) =
      (n == m && Value.sameItems (cs.map form) (ds.map form) && v.same w)
  apart {a b : Node} : a.kind ≠ b.kind → (form a).same (form b) = false

namespace PlainForm

variable {form : Node → Datum}

mutual

/-- In such a form nodes are equal exactly if they are equal as nodes. -/
theorem same_eq (hf : PlainForm form) : (a b : Node) → (form a).same (form b) = a.same b
  | .text s, .text t => hf.text s t
  | .branch n cs, .branch m ds => by rw [hf.branch, hf.sameItems_eq cs ds, Node.same]
  | .tagged n cs v, .tagged m ds w => by rw [hf.tagged, hf.sameItems_eq cs ds, Node.same]
  | .text _, .branch _ _ => hf.apart nofun
  | .text _, .tagged _ _ _ => hf.apart nofun
  | .branch _ _, .text _ => hf.apart nofun
  | .branch _ _, .tagged _ _ _ => hf.apart nofun
  | .tagged _ _ _, .text _ => hf.apart nofun
  | .tagged _ _ _, .branch _ _ => hf.apart nofun

theorem sameItems_eq (hf : PlainForm form) : (as bs : List Node) →
    Value.sameItems (as.map form) (bs.map form) = sameAll as bs
  | [], [] => by simp [Value.sameItems, sameAll]
  | [], _ :: _ => by simp [Value.sameItems, sameAll]
  | _ :: _, [] => by simp [Value.sameItems, sameAll]
  | a :: as, b :: bs => by
    rw [List.map_cons, List.map_cons, Value.sameItems, hf.same_eq a b, hf.sameItems_eq as bs,
      sameAll]

end

end PlainForm

theorem toTuples_eq_map (ns : List Node) : toTuples ns = ns.map toTuple := by
  induction ns with
  | nil => rfl
  | cons n ns ih => rw [toTuples, ih, List.map_cons]

theorem toDatas_eq_map (ns : List Node) : toDatas ns = ns.map toData := by
  induction ns with
  | nil => rfl
  | cons n ns ih => rw [toDatas, ih, List.map_cons]

theorem beq_ofList (s t : Text) : (String.ofList s == String.ofList t) = (s == t) := by
  rw [Bool.eq_iff_iff, beq_iff_eq, beq_iff_eq, String.ofList_inj]

theorem plainForm_toTuple : PlainForm toTuple where
  text s t := by simp [toTuple, Value.same, Value.sameScalar, beq_ofList]
  branch n m cs ds := by
    simp [toTuple, Value.same, Value.sameItems, Value.sameScalar, toTuples_eq_map]
  tagged n m cs ds v w := by
    simp [toTuple, Value.same, Value.sameItems, Value.sameScalar, toTuples_eq_map, Bool.and_assoc]
  apart {a b} h := by
    cases a with
    | text s =>
      cases b with
      | text t => exact absurd rfl h
      | _ => simp [toTuple, Value.same, Value.sameScalar, Value.dyadic?]
    | branch n cs =>
      cases b with
      | branch m ds => exact absurd rfl h
      | text t => simp [toTuple, Value.same, Value.sameScalar, Value.dyadic?]
      | tagged m ds w => simp [toTuple, Value.same, Value.sameItems]
    | tagged n cs v =>
      cases b with
      | tagged m ds w => exact absurd rfl h
      | text t => simp [toTuple, Value.same, Value.sameScalar, Value.dyadic?]
      | branch m ds => simp [toTuple, Value.same, Value.sameItems]

theorem plainForm_toData : PlainForm toData where
  text s t := by simp [toData, Value.same, Value.sameScalar, beq_ofList]
  branch n m cs ds := by
    simp [toData, Value.same, Value.coveredEntries, Value.sameScalar, toDatas_eq_map]
  tagged n m cs ds v w := by
    simp [toData, Value.same, Value.coveredEntries, Value.sameScalar, toDatas_eq_map,
      Bool.and_assoc]
  apart {a b} h := by
    cases a with
    | text s =>
      cases b with
      | text t => exact absurd rfl h
      | _ => simp [toData, Value.same, Value.sameScalar, Value.dyadic?]
    | branch n cs =>
      cases b with
      | branch m ds => exact absurd rfl h
      | text t => simp [toData, Value.same, Value.sameScalar, Value.dyadic?]
      | tagged m ds w => simp [toData, Value.same]
    | tagged n cs v =>
      cases b with
      | tagged m ds w => exact absurd rfl h
      | text t => simp [toData, Value.same, Value.sameScalar, Value.dyadic?]
      | branch m ds => simp [toData, Value.same]

/-- Plain forms are faithful. Nodes are equal exactly if their tuples are, and exactly if their
mappings are, whatever values their options have; and forms are equal only of nodes that are
literals, branches and tagged branches in the same places. -/
theorem same_iff_plainForms (a b : Node) :
    (a.same b = true ↔ a.toTuple.same b.toTuple = true) ∧
    (a.same b = true ↔ a.toData.same b.toData = true) ∧
    (a.toTuple.same b.toTuple = true ∨ a.toData.same b.toData = true → a.kinds 0 = b.kinds 0) := by
  rw [plainForm_toTuple.same_eq, plainForm_toData.same_eq]
  exact ⟨Iff.rfl, Iff.rfl, fun h => kinds_of_same 0 a b (or_self_iff.mp h)⟩

end Node

end RuleTree
