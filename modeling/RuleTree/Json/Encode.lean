import RuleTree.Json.Writer
import RuleTree.Node.Basic
import RuleTree.Value.Printer

/-!
# Values and nodes as JSON

Tuples and spans become arrays, and values that JSON does not know become their text. Keys of
mappings must be texts, numbers, truth values or null; with any other key there is no JSON form.
-/

namespace RuleTree.Json

/-- The member name that a key of a mapping becomes. -/
def keyText? : Datum → Option String
  | .str s => some s
  | .null => some "null"
  | .bool b => some (if b then "true" else "false")
  | .int i => some (toString i)
  | .float x => some (floatText x)
  | _ => none

def ofWhole : Whole → Json
  | .int i => int i
  | .truth b => bool b

mutual

def ofDatum? : Datum → Option Json
  | .null => some null
  | .bool b => some (bool b)
  | .int i => some (int i)
  | .float x => some (float x)
  | .str s => some (str s)
  | .span s => some (arr [ofWhole s.offset, ofWhole s.length])
  | .list xs => (ofDatums? xs).map arr
  | .tuple xs => (ofDatums? xs).map arr
  | .mapping es => (ofEntries? es).map obj
  | .bytes bs => some (str (Text.quotedBytes bs))
  | .date d => some (str d.iso)
  | .moment m => some (str m.iso)
  | .set xs => some (str (Datum.text (.set xs)))
  | .stream xs => some (str (Datum.text (.stream xs)))
  | .object f => some (str f.text)

def ofDatums? : List Datum → Option (List Json)
  | [] => some []
  | x :: xs => do
    let j ← ofDatum? x
    let js ← ofDatums? xs
    return j :: js

def ofEntries? : List (Datum × Datum) → Option (List (String × Json))
  | [] => some []
  | (k, v) :: es => do
    let name ← keyText? k
    let j ← ofDatum? v
    let ms ← ofEntries? es
    return (name, j) :: ms

end

end RuleTree.Json

namespace RuleTree.Node

/-- Nodes as a JSON text: literal runs are strings, branches objects with `name`, `children` and,
where tagged, `option`. -/
def renderJson? (layout : Json.Layout) (nodes : List Node) : Option String :=
  (Json.ofDatums? (toDatas nodes)).map fun js => (Json.arr js).render layout

end RuleTree.Node
