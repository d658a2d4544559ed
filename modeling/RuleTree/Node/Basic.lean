import RuleTree.Text
import RuleTree.Value.Equality

/-!
# Nodes

The result of parsing: runs of literal text, branches named after the rule that matched, and tagged
branches, which also carry an option value.
-/

namespace RuleTree

inductive Node where
  | text (t : Text)
  | branch (name : String) (children : List Node)
  | tagged (name : String) (children : List Node) (option : Datum)

instance : Inhabited Node := ⟨.text []⟩

namespace Node

def children : Node → List Node
  | text _ => []
  | branch _ cs => cs
  | tagged _ cs _ => cs

mutual

/-- Nodes are equal if they are of one kind and their fields are. -/
def same : Node → Node → Bool
  | text s, text t => s == t
  | branch n cs, branch m ds => n == m && sameAll cs ds
  | tagged n cs v, tagged m ds w => n == m && sameAll cs ds && v.same w
  | _, _ => false

def sameAll : List Node → List Node → Bool
  | [], [] => true
  | n :: ns, m :: ms => same n m && sameAll ns ms
  | _, _ => false

end

mutual

/-- A node as nested tuples. -/
def toTuple : Node → Datum
  | text t => .str (String.ofList t)
  | branch n cs => .tuple [.str n, .list (toTuples cs)]
  | tagged n cs v => .tuple [.str n, .list (toTuples cs), v]

def toTuples : List Node → List Datum
  | [] => []
  | n :: ns => toTuple n :: toTuples ns

end

mutual

/-- A node as nested mappings. -/
def toData : Node → Datum
  | text t => .str (String.ofList t)
  | branch n cs => .mapping [(.str "name", .str n), (.str "children", .list (toDatas cs))]
  | tagged n cs v =>
    .mapping [(.str "name", .str n), (.str "children", .list (toDatas cs)), (.str "option", v)]

def toDatas : List Node → List Datum
  | [] => []
  | n :: ns => toData n :: toDatas ns

end

mutual

/-- The node and all below it in reading order, each with its depth. -/
def preorder (depth : Nat) : Node → List (Nat × Node)
  | text t => [(depth, text t)]
  | branch n cs => (depth, branch n cs) :: preorders (depth + 1) cs
  | tagged n cs v => (depth, tagged n cs v) :: preorders (depth + 1) cs

def preorders (depth : Nat) : List Node → List (Nat × Node)
  | [] => []
  | n :: ns => preorder depth n ++ preorders depth ns

end

end Node

end RuleTree
