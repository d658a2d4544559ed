import RuleTree.Value.Basic

/-!
# Equality of values

Numbers are compared by value whatever their kind, so 1, 1.0 and `True` are equal. Lists and tuples
differ, the order of a mapping does not matter, a span equals the pair of its coordinates, and a
NaN differs from everything. Streams are never equal.
-/

namespace RuleTree.Value

variable {α : Type}

/-- The value of a finite number as `m * 2 ^ e`. -/
def dyadic? : Value α → Option (Int × Int)
  | bool b => some (if b then 1 else 0, 0)
  | int i => some (i, 0)
  | float x => x.dyadic?
  | _ => none

/-- Equality of values that are not containers. -/
def sameScalar [BEq α] : Value α → Value α → Bool
  | null, null => true
  | str s, str t => s == t
  | bytes s, bytes t => s == t
  | date s, date t => s == t
  | moment s, moment t => s.same t
  | object a, object b => a == b
  | float x, float y => x.same y
  | x, y => match x.dyadic?, y.dyadic? with
    | some (a, d), some (b, e) => Binary64.sameDyadic a d b e
    | _, _ => false

/-- A span against the items of a tuple. -/
def sameAsSpan [BEq α] (s : Span) : List (Value α) → Bool
  | [x, y] => sameScalar (whole s.offset) x && sameScalar (whole s.length) y
  | _ => false

mutual

def same [BEq α] : Value α → Value α → Bool
  | list xs, list ys => sameItems xs ys
  | tuple xs, tuple ys => sameItems xs ys
  | span s, span t => s.start == t.start && s.size == t.size
  | span s, tuple ys => sameAsSpan s ys
  | tuple xs, span t => sameAsSpan t xs
  | mapping es, mapping fs => es.length == fs.length && coveredEntries es fs
  | set xs, set ys => xs.length == ys.length && coveredItems xs ys
  | x, y => sameScalar x y

def sameItems [BEq α] : List (Value α) → List (Value α) → Bool
  | [], [] => true
  | x :: xs, y :: ys => same x y && sameItems xs ys
  | _, _ => false

/-- Every entry on the left has an equal one on the right. -/
def coveredEntries [BEq α] : List (Value α × Value α) → List (Value α × Value α) → Bool
  | [], _ => true
  | (k, v) :: es, fs => fs.any (fun f => same k f.1 && same v f.2) && coveredEntries es fs

def coveredItems [BEq α] : List (Value α) → List (Value α) → Bool
  | [], _ => true
  | x :: xs, ys => ys.any (fun y => same x y) && coveredItems xs ys

end

/-- The value under a key. -/
def lookup? [BEq α] (key : Value α) : List (Value α × Value α) → Option (Value α)
  | [] => none
  | (k, v) :: es => if same k key then some v else lookup? key es

/-- Puts an entry: an equal key keeps its place and spelling and takes the new value. -/
def insertEntry [BEq α] (key value : Value α) :
    List (Value α × Value α) → List (Value α × Value α)
  | [] => [(key, value)]
  | (k, v) :: es => if same k key then (k, value) :: es else (k, v) :: insertEntry key value es

/-- The value under a textual key. -/
def field? (key : String) : List (Value α × Value α) → Option (Value α)
  | [] => none
  | (str s, v) :: es => if s = key then some v else field? key es
  | _ :: es => field? key es

end RuleTree.Value
