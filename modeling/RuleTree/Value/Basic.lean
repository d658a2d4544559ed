import RuleTree.Calendar
import RuleTree.Number.Binary64
import RuleTree.Span

/-!
# Values

`Value α` is what rule settings, options and data files are made of: scalars, containers and, as
leaves, objects of a type `α` of their own. Entries of a mapping and members of a set stand in
insertion order and, when built by `insertEntry`, have pairwise different keys.

`Datum` is the plain case, in which an object is only known by its text.
-/

namespace RuleTree

inductive Value (α : Type) where
  | null
  | bool (b : Bool)
  | int (i : Int)
  | float (x : Binary64)
  | str (s : String)
  | bytes (bs : List UInt8)
  | date (d : Date)
  | moment (m : Moment)
  | span (s : Span)
  | list (items : List (Value α))
  | tuple (items : List (Value α))
  | mapping (entries : List (Value α × Value α))
  | set (items : List (Value α))
  /-- Items that can be read once, in order. Reading neither fails nor goes on without end, so an object
  that breaks off with an error after some items is none of these values. -/
  | stream (items : List (Value α))
  | object (a : α)

instance {α : Type} : Inhabited (Value α) := ⟨.null⟩

/-- An object that is only known by its text. -/
structure Foreign where
  text : String
deriving DecidableEq, Repr, Inhabited

abbrev Datum := Value Foreign

namespace Value

variable {α β : Type}

def whole : Whole → Value α
  | .int i => .int i
  | .truth b => .bool b

mutual

/-- Replaces every object. -/
def map (f : α → β) : Value α → Value β
  | null => null
  | bool b => bool b
  | int i => int i
  | float x => float x
  | str s => str s
  | bytes bs => bytes bs
  | date d => date d
  | moment m => moment m
  | span s => span s
  | list xs => list (mapList f xs)
  | tuple xs => tuple (mapList f xs)
  | mapping es => mapping (mapEntries f es)
  | set xs => set (mapList f xs)
  | stream xs => stream (mapList f xs)
  | object a => object (f a)

def mapList (f : α → β) : List (Value α) → List (Value β)
  | [] => []
  | x :: xs => map f x :: mapList f xs

def mapEntries (f : α → β) : List (Value α × Value α) → List (Value β × Value β)
  | [] => []
  | (k, v) :: es => (map f k, map f v) :: mapEntries f es

end

/-- Whether a value counts as true where a truth value is asked for. -/
def truthy : Value α → Bool
  | null => false
  | bool b => b
  | int i => i != 0
  | float x => !x.isZero
  | str s => s != ""
  | bytes bs => !bs.isEmpty
  | list xs | tuple xs | set xs => !xs.isEmpty
  | mapping es => !es.isEmpty
  | _ => true

/-- The items of a value that can be read item by item. -/
def items? : Value α → Option (List (Value α))
  | str s => some (s.toList.map fun c => str c.toString)
  | bytes bs => some (bs.map fun b => int b.toNat)
  | span s => some [whole s.offset, whole s.length]
  | list xs | tuple xs | set xs | stream xs => some xs
  | mapping es => some (es.map (·.1))
  | _ => none

/-- An integer, also one given as a truth value. -/
def whole? : Value α → Option Whole
  | int i => some (.int i)
  | bool b => some (.truth b)
  | _ => none

end Value

end RuleTree
