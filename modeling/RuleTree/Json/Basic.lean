import RuleTree.Value.Equality

/-!
# JSON values

Members of an object stand in order.
-/

namespace RuleTree

inductive Json where
  | null
  | bool (b : Bool)
  | int (i : Int)
  | float (x : Binary64)
  | str (s : String)
  | arr (items : List Json)
  | obj (members : List (String × Json))

instance : Inhabited Json := ⟨.null⟩

namespace Json

def member? (key : String) : Json → Option Json
  | obj ms => ms.lookup key
  | _ => none

/-- Puts a member: an equal key keeps its place and takes the new value. -/
def insertMember (key : String) (value : Json) : List (String × Json) → List (String × Json)
  | [] => [(key, value)]
  | (k, v) :: ms => if k = key then (k, value) :: ms else (k, v) :: insertMember key value ms

mutual

/-- The value that a JSON text stands for. -/
def toDatum : Json → Datum
  | null => .null
  | bool b => .bool b
  | int i => .int i
  | float x => .float x
  | str s => .str s
  | arr xs => .list (toDatums xs)
  | obj ms => .mapping (toEntries ms)

def toDatums : List Json → List Datum
  | [] => []
  | x :: xs => toDatum x :: toDatums xs

def toEntries : List (String × Json) → List (Datum × Datum)
  | [] => []
  | (k, v) :: ms => (.str k, toDatum v) :: toEntries ms

end

end Json

end RuleTree
