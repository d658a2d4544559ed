import RuleTree.Proofs.Node.Decoding
import RuleTree.Value.HashKey

/-!
# Which nodes have a JSON text

A value that JSON does not know is written as its text, so it may stand anywhere in an option but in
one place: as a key of a mapping. Texts, numbers, truth values and null have names there, and no
other key is turned into one. Such a key is harmless only inside a value that is written as its text
as a whole.
-/

namespace RuleTree

/-! ## Values -/

namespace Datum

/-- Values that JSON can turn into the name of a member. -/
def isName : Datum → Bool
  | .null => true
  | .bool _ => true
  | .int _ => true
  | .float _ => true
  | .str _ => true
  | _ => false

mutual

/-- All keys are names, in the value and in its items. The items of a set or of a stream do not
count: these are written as texts. -/
def encodable : Datum → Bool
  | .list xs => encodableAll xs
  | .tuple xs => encodableAll xs
  | .mapping es => encodableEntries es
  | _ => true

def encodableAll : List Datum → Bool
  | [] => true
  | x :: xs => encodable x && encodableAll xs

def encodableEntries : List (Datum × Datum) → Bool
  | [] => true
  | (k, v) :: es => isName k && encodable v && encodableEntries es

end

/-- The name that a key should have: its own or, for want of one, its text. -/
def name (k : Datum) : String := (Json.keyText? k).getD k.plain

mutual

/-- The JSON value that a value should have: what JSON does not know is rendered as its text. -/
def shown : Datum → Json
  | .null => .null
  | .bool b => .bool b
  | .int i => .int i
  | .float x => .float x
  | .str s => .str s
  | .span s => .arr [Json.ofWhole s.offset, Json.ofWhole s.length]
  | .list xs => .arr (shownAll xs)
  | .tuple xs => .arr (shownAll xs)
  | .mapping es => .obj (shownEntries es)
  | d => .str d.plain

def shownAll : List Datum → List Json
  | [] => []
  | x :: xs => shown x :: shownAll xs

def shownEntries : List (Datum × Datum) → List (String × Json)
  | [] => []
  | (k, v) :: es => (name k, shown v) :: shownEntries es

end

end Datum

namespace Json

theorem keyText?_eq (k : Datum) : keyText? k = if k.isName then some k.name else none := by
  cases k <;> rfl

mutual

/-- A value has a JSON form exactly if its keys are names, and then the form that it should have. -/
theorem ofDatum?_eq : (d : Datum) → ofDatum? d = if d.encodable then some d.shown else none
  | .list xs => by
    rw [ofDatum?, ofDatums?_eq xs, Datum.encodable, Datum.shown]
    cases Datum.encodableAll xs <;> rfl
  | .tuple xs => by
    rw [ofDatum?, ofDatums?_eq xs, Datum.encodable, Datum.shown]
    cases Datum.encodableAll xs <;> rfl
  | .mapping es => by
    rw [ofDatum?, ofEntries?_eq es, Datum.encodable, Datum.shown]
    cases Datum.encodableEntries es <;> rfl
  | .null => rfl
  | .bool _ => rfl
  | .int _ => rfl
  | .float _ => rfl
  | .str _ => rfl
  | .span _ => rfl
  | .bytes _ => rfl
  | .date _ => rfl
  | .moment _ => rfl
  | .set _ => rfl
  | .stream _ => rfl
  | .object _ => rfl

theorem ofDatums?_eq : (xs : List Datum) →
    ofDatums? xs = if Datum.encodableAll xs then some (Datum.shownAll xs) else none
  | [] => rfl
  | x :: xs => by
    rw [ofDatums?, ofDatum?_eq x, ofDatums?_eq xs, Datum.encodableAll, Datum.shownAll]
    cases x.encodable <;> cases Datum.encodableAll xs <;> rfl

theorem ofEntries?_eq : (es : List (Datum × Datum)) →
    ofEntries? es = if Datum.encodableEntries es then some (Datum.shownEntries es) else none
  | [] => rfl
  | (k, v) :: es => by
    rw [ofEntries?, keyText?_eq k, ofDatum?_eq v, ofEntries?_eq es, Datum.encodableEntries,
      Datum.shownEntries]
    cases k.isName <;> cases v.encodable <;> cases Datum.encodableEntries es <;> rfl

end

end Json

/-! ## Nodes -/

namespace Node

mutual

/-- The JSON value of a node. -/
def json : Node → Json
  | text t => .str (String.ofList t)
  | branch name cs => .obj [("name", .str name), ("children", .arr (jsons cs))]
  | tagged name cs v =>
    .obj [("name", .str name), ("children", .arr (jsons cs)), ("option", v.shown)]

def jsons : List Node → List Json
  | [] => []
  | n :: ns => json n :: jsons ns

end

mutual

theorem shown_toData : (n : Node) → (toData n).shown = n.json
  | text t => by rw [toData, Datum.shown, json]
  | branch name cs => by
    simp only [toData, Datum.shown, Datum.shownEntries, shownAll_toDatas cs, json]
    rfl
  | tagged name cs v => by
    simp only [toData, Datum.shown, Datum.shownEntries, shownAll_toDatas cs, json]
    rfl

theorem shownAll_toDatas : (ns : List Node) → Datum.shownAll (toDatas ns) = jsons ns
  | [] => rfl
  | n :: ns => by rw [toDatas, Datum.shownAll, shown_toData n, shownAll_toDatas ns, jsons]

end

mutual

theorem encodable_toData : (n : Node) →
    ((toData n).encodable = true ↔ Throughout (OptionIs (Datum.encodable · = true)) [n])
  | text t => by
    rw [throughout_singleton]
    exact iff_of_true rfl ⟨trivial, nofun⟩
  | branch name cs => by
    rw [throughout_singleton, children, ← encodableAll_toDatas cs]
    simp [toData, Datum.encodable, Datum.encodableEntries, Datum.isName, OptionIs]
  | tagged name cs v => by
    rw [throughout_singleton, children, ← encodableAll_toDatas cs]
    simp [toData, Datum.encodable, Datum.encodableEntries, Datum.isName, OptionIs, and_comm]

/-- The mappings that nodes become have names for keys; what counts is the options. -/
theorem encodableAll_toDatas : (ns : List Node) →
    (Datum.encodableAll (toDatas ns) = true ↔ Throughout (OptionIs (Datum.encodable · = true)) ns)
  | [] => iff_of_true rfl nofun
  | n :: ns => by
    rw [toDatas, Datum.encodableAll, Bool.and_eq_true, encodable_toData n, encodableAll_toDatas ns,
      ← throughout_append, List.singleton_append]

end

/-- Nodes have a JSON text in either layout exactly if all keys in their options are names. It is
the text of the nodes as objects, in which all else that JSON does not know is rendered as text. -/
theorem renderJson_eq_some_iff_encodable (layout : Json.Layout) (nodes : List Node) (s : String) :
    renderJson? layout nodes = some s ↔
      Throughout (OptionIs (Datum.encodable · = true)) nodes ∧
        s = (Json.arr (jsons nodes)).render layout := by
  rw [← encodableAll_toDatas nodes, renderJson?, Json.ofDatums?_eq, shownAll_toDatas]
  cases Datum.encodableAll (toDatas nodes) with
  | false => simp
  | true => simp [eq_comm]

/-- A branch whose option is a mapping from a pair. -/
def pairKeyed : Node := .tagged "a" [] (.mapping [(.tuple [.int 1, .int 2], .int 3)])

/-- A pair can be a key, but nodes with such a key have no JSON text, although the pair has a text
that could serve as a name. -/
theorem renderJson_pairKeyed :
    (Value.tuple [.int 1, .int 2] : Datum).hashable = true ∧
    Datum.plain (.tuple [.int 1, .int 2]) = "(1, 2)" ∧
    renderJson? .pretty [pairKeyed] = none ∧ renderJson? .compact [pairKeyed] = none := by
  decide +kernel

end Node

end RuleTree
