import RuleTree.Node.Basic

/-!
# Drafts of nodes

What a caller may hand over to be made into a node. A branch checks its name and its children when
it is made: a child is a text, a node, or a mapping with a name and perhaps children, which becomes a
branch whatever else it holds.
-/

namespace RuleTree

inductive Draft where
  | branch (name : Datum) (children : List Draft)
  | tagged (name : Datum) (children : List Draft) (option : Datum)
  | raw (d : Datum)

instance : Inhabited Draft := ⟨.raw .null⟩

/-- Why no node was made. -/
inductive NodeFault where
  /-- The fields of the outermost branch that do not fit, in ascending order. -/
  | invalid (fields : List String)
  /-- A mapping given as a child has no name. -/
  | nameless
  /-- A mapping given as a child has a key that is not a text. -/
  | oddKey
deriving DecidableEq, Repr

namespace Node

def isFieldKey : Datum → Bool
  | .str _ => true
  | _ => false

def nameOf? : Datum → Option String
  | .str s => some s
  | _ => none

/-- A branch from a checked name and checked children, naming the fields that fail. -/
def assemble (name : Option String) (children : Option (List Node))
    (make : String → List Node → Node) : Except NodeFault Node :=
  match name, children with
  | some n, some cs => return make n cs
  | none, some _ => throw (.invalid ["name"])
  | some _, none => throw (.invalid ["children"])
  | none, none => throw (.invalid ["children", "name"])

mutual

/-- A child given as data; nothing where it does not fit. -/
def child? : Datum → Except NodeFault (Option Node)
  | .str s => return some (.text s.toList)
  | .mapping es => do
    unless es.all fun e => isFieldKey e.1 do throw .oddKey
    let some name := Value.field? "name" es | throw .nameless
    let children ← childEntries es
    match nameOf? name, children with
    | some n, some cs => return some (.branch n cs)
    | _, _ => return none
  | _ => return none

/-- The children of a mapping given as a child. -/
def childEntries : List (Datum × Datum) → Except NodeFault (Option (List Node))
  | [] => return some []
  | (.str k, v) :: es =>
    if k = "children" then
      match v with
      | .list xs => children? xs
      | .tuple xs => children? xs
      | .set xs => children? xs
      | .stream xs => children? xs
      | _ => return none
    else childEntries es
  | _ :: es => childEntries es

def children? : List Datum → Except NodeFault (Option (List Node))
  | [] => return some []
  | x :: xs => do
    let c ← child? x
    let cs ← children? xs
    match c, cs with
    | some c, some cs => return some (c :: cs)
    | _, _ => return none

end

end Node

namespace Draft

mutual

def node : Draft → Except NodeFault Node
  | branch name cs => do
    let cs ← nodes? cs
    Node.assemble (Node.nameOf? name) cs .branch
  | tagged name cs option => do
    let cs ← nodes? cs
    Node.assemble (Node.nameOf? name) cs fun n cs => .tagged n cs option
  | raw d => do
    match ← Node.child? d with
    | some n => return n
    | none => throw (.invalid [])

/-- Children of a branch; branches among them are made first. -/
def nodes? : List Draft → Except NodeFault (Option (List Node))
  | [] => return some []
  | raw d :: ds => do
    let c ← Node.child? d
    let cs ← nodes? ds
    match c, cs with
    | some c, some cs => return some (c :: cs)
    | _, _ => return none
  | d :: ds => do
    let n ← node d
    let cs ← nodes? ds
    return cs.map (n :: ·)

end

end Draft

end RuleTree
