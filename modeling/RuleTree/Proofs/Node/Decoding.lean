import RuleTree.Json.Encode
import RuleTree.Proofs.Json.RoundTrip
import RuleTree.Proofs.Node.Contents

/-!
# Nodes from JSON

Nodes are read back from their JSON text in either layout. A text is a literal run, an object with a
name and children is a branch, and one that has an option besides is a tagged branch, with the option
as it stands in the text.

Options come back only if JSON has them as they are. Tuples and spans are written as arrays, and
values that JSON does not know as their text, so they are left out; and so are doubles.
-/

namespace RuleTree

/-! ## Options -/

/-- JSON has the value as it is: it is made of null, truth values, integers, texts, lists, and
mappings from distinct texts. -/
inductive Datum.InJson : Datum → Prop
  | null : InJson .null
  | bool (b : Bool) : InJson (.bool b)
  | int (i : Int) : InJson (.int i)
  | str (s : String) : InJson (.str s)
  | list {items : List Datum} : (∀ x ∈ items, InJson x) → InJson (.list items)
  | mapping {entries : List (String × Datum)} : (entries.map Prod.fst).Nodup →
      (∀ e ∈ entries, InJson e.2) → InJson (.mapping (entries.map fun e => (.str e.1, e.2)))

/-- The value becomes a JSON value that is exact and stands for it. -/
def Datum.Kept (d : Datum) : Prop := ∃ j, Json.ofDatum? d = some j ∧ j.Exact ∧ j.toDatum = d

namespace Json

theorem ofDatums?_kept {xs : List Datum} (h : ∀ x ∈ xs, Datum.Kept x) :
    ∃ js, ofDatums? xs = some js ∧ (∀ j ∈ js, j.Exact) ∧ toDatums js = xs := by
  induction xs with
  | nil => exact ⟨[], rfl, by simp, rfl⟩
  | cons x xs ih =>
    obtain ⟨j, hj, hexact, hback⟩ := h x List.mem_cons_self
    obtain ⟨js, hjs, hexacts, hbacks⟩ := ih fun y hy => h y (List.mem_cons_of_mem _ hy)
    refine ⟨j :: js, ?_, List.forall_mem_cons.mpr ⟨hexact, hexacts⟩, ?_⟩
    · rw [ofDatums?, hj, hjs]
      rfl
    · rw [toDatums, hback, hbacks]

theorem ofEntries?_kept {es : List (String × Datum)} (h : ∀ e ∈ es, Datum.Kept e.2) :
    ∃ ms, ofEntries? (es.map fun e => (.str e.1, e.2)) = some ms ∧
      ms.map Prod.fst = es.map Prod.fst ∧ (∀ m ∈ ms, m.2.Exact) ∧
      toEntries ms = es.map fun e => (.str e.1, e.2) := by
  induction es with
  | nil => exact ⟨[], rfl, rfl, by simp, rfl⟩
  | cons e es ih =>
    obtain ⟨j, hj, hexact, hback⟩ := h e List.mem_cons_self
    obtain ⟨ms, hms, hnames, hexacts, hbacks⟩ := ih fun y hy => h y (List.mem_cons_of_mem _ hy)
    refine ⟨(e.1, j) :: ms, ?_, ?_, List.forall_mem_cons.mpr ⟨hexact, hexacts⟩, ?_⟩
    · rw [List.map_cons, ofEntries?, hj, hms]
      rfl
    · rw [List.map_cons, List.map_cons, hnames]
    · rw [toEntries, hback, hbacks, List.map_cons]

end Json

theorem Datum.InJson.kept {d : Datum} (h : d.InJson) : d.Kept := by
  induction h with
  | null => exact ⟨.null, rfl, .null, rfl⟩
  | bool b => exact ⟨.bool b, rfl, .bool b, rfl⟩
  | int i => exact ⟨.int i, rfl, .int i, rfl⟩
  | str s => exact ⟨.str s, rfl, .str s, rfl⟩
  | list _ ih =>
    obtain ⟨js, hjs, hexact, hback⟩ := Json.ofDatums?_kept ih
    refine ⟨.arr js, ?_, .arr hexact, ?_⟩
    · rw [Json.ofDatum?, hjs]
      rfl
    · rw [Json.toDatum, hback]
  | mapping hnodup _ ih =>
    obtain ⟨ms, hms, hnames, hexact, hback⟩ := Json.ofEntries?_kept ih
    refine ⟨.obj ms, ?_, .obj (hnames ▸ hnodup) hexact, ?_⟩
    · rw [Json.ofDatum?, hms]
      rfl
    · rw [Json.toDatum, hback]

/-! ## Nodes -/

namespace Node

mutual

/-- The node that a JSON value describes. -/
def ofJson? : Json → Option Node
  | .str s => some (.text s.toList)
  | .obj [("name", .str name), ("children", .arr cs)] => (ofJsons? cs).map (branch name)
  | .obj [("name", .str name), ("children", .arr cs), ("option", v)] =>
    (ofJsons? cs).map (tagged name · v.toDatum)
  | _ => none

def ofJsons? : List Json → Option (List Node)
  | [] => some []
  | j :: js => do
    let n ← ofJson? j
    let ns ← ofJsons? js
    return n :: ns

end

/-- Reads a JSON text as a list of nodes. -/
def readJson? (s : String) : Option (List Node) :=
  match Json.read? s.toList with
  | some (.arr js) => ofJsons? js
  | _ => none

/-- The option of the node, if it has one, has the property. -/
def OptionIs (P : Datum → Prop) : Node → Prop
  | tagged _ _ v => P v
  | _ => True

mutual

/-- A node becomes an exact JSON value, which describes that node. -/
theorem ofJson?_toData : (n : Node) → Throughout (OptionIs Datum.InJson) [n] →
    ∃ j, Json.ofDatum? (toData n) = some j ∧ j.Exact ∧ ofJson? j = some n
  | text t, _ => by
    refine ⟨.str (String.ofList t), rfl, .str _, ?_⟩
    rw [ofJson?, String.toList_ofList]
  | branch name cs, h => by
    obtain ⟨js, hjs, hexact, hback⟩ := ofJsons?_toDatas cs (throughout_singleton.mp h).2
    have hnames : ["name", "children"].Nodup := by decide
    refine ⟨.obj [("name", .str name), ("children", .arr js)], ?_, .obj hnames ?_, ?_⟩
    · simp only [toData, Json.ofDatum?, Json.ofEntries?, hjs]
      rfl
    · simp only [List.mem_cons, List.not_mem_nil, or_false, forall_eq_or_imp, forall_eq]
      exact ⟨.str name, .arr hexact⟩
    · rw [ofJson?, hback]
      rfl
  | tagged name cs v, h => by
    obtain ⟨hv, hcs⟩ := throughout_singleton.mp h
    obtain ⟨js, hjs, hexact, hback⟩ := ofJsons?_toDatas cs hcs
    obtain ⟨j, hj, hexact', hback'⟩ := Datum.InJson.kept hv
    have hnames : ["name", "children", "option"].Nodup := by decide
    refine ⟨.obj [("name", .str name), ("children", .arr js), ("option", j)], ?_, .obj hnames ?_, ?_⟩
    · simp only [toData, Json.ofDatum?, Json.ofEntries?, hjs, hj]
      rfl
    · simp only [List.mem_cons, List.not_mem_nil, or_false, forall_eq_or_imp, forall_eq]
      exact ⟨.str name, .arr hexact, hexact'⟩
    · rw [ofJson?, hback, hback']
      rfl

theorem ofJsons?_toDatas : (ns : List Node) → Throughout (OptionIs Datum.InJson) ns →
    ∃ js, Json.ofDatums? (toDatas ns) = some js ∧ (∀ j ∈ js, j.Exact) ∧ ofJsons? js = some ns
  | [], _ => ⟨[], rfl, by simp, rfl⟩
  | n :: ns, h => by
    rw [← List.singleton_append, throughout_append] at h
    obtain ⟨j, hj, hexact, hback⟩ := ofJson?_toData n h.1
    obtain ⟨js, hjs, hexacts, hbacks⟩ := ofJsons?_toDatas ns h.2
    refine ⟨j :: js, ?_, List.forall_mem_cons.mpr ⟨hexact, hexacts⟩, ?_⟩
    · rw [toDatas, Json.ofDatums?, hj, hjs]
      rfl
    · rw [ofJsons?, hback, hbacks]
      rfl

end

/-- Nothing is lost in JSON. If the options of all nodes are values that JSON has as they are, the
nodes have a JSON text in either layout, and from either text they are read back as they were. -/
theorem readJson_renderJson (layout : Json.Layout) (nodes : List Node)
    (h : Throughout (OptionIs Datum.InJson) nodes) :
    ∃ s, renderJson? layout nodes = some s ∧ readJson? s = some nodes := by
  obtain ⟨js, hjs, hexact, hback⟩ := ofJsons?_toDatas nodes h
  refine ⟨(Json.arr js).render layout, ?_, ?_⟩
  · rw [renderJson?, hjs]
    rfl
  · rw [readJson?, Json.read?_render (.arr hexact)]
    exact hback

/-- Literals with a quote, a backslash, a control and a character beyond the first plane, and options
of every kind, one of them null. -/
def samples : List Node :=
  [.text ['"', '\\', '\n', Char.ofNat 7, Char.ofNat 0x1f600],
    .branch "a" [.tagged "b" [] .null, .branch "c" []],
    .tagged "d" [.text ['x']]
      (.mapping [(.str "e", .list [.bool true, .int (-12)]), (.str "", .mapping [])])]

theorem readJson_samples :
    Throughout (OptionIs Datum.InJson) samples ∧
    renderJson? .compact samples = some
      ("[\"\\\"\\\\\\n\\u0007\\ud83d\\ude00\", \x7b\"name\": \"a\", \"children\": " ++
       "[\x7b\"name\": \"b\", \"children\": [], \"option\": null\x7d, " ++
       "\x7b\"name\": \"c\", \"children\": []\x7d]\x7d, " ++
       "\x7b\"name\": \"d\", \"children\": [\"x\"], \"option\": \x7b\"e\": [true, -12], \"\": " ++
       "\x7b\x7d\x7d\x7d]") ∧
    ∀ layout, ∃ s, renderJson? layout samples = some s ∧ readJson? s = some samples := by
  have hoption : Datum.InJson
      (.mapping [(.str "e", .list [.bool true, .int (-12)]), (.str "", .mapping [])]) := by
    have hlist : Datum.InJson (.list [.bool true, .int (-12)]) := by
      refine .list ?_
      simp only [List.mem_cons, List.not_mem_nil, or_false, forall_eq_or_imp, forall_eq]
      exact ⟨.bool true, .int (-12)⟩
    have hempty : Datum.InJson (.mapping []) := @Datum.InJson.mapping [] (by simp) (by simp)
    refine @Datum.InJson.mapping [("e", .list [.bool true, .int (-12)]), ("", .mapping [])]
      (show ["e", ""].Nodup by decide) ?_
    simp only [List.mem_cons, List.not_mem_nil, or_false, forall_eq_or_imp, forall_eq]
    exact ⟨hlist, hempty⟩
  have h : Throughout (OptionIs Datum.InJson) samples := by
    simp only [Throughout, samples, preorders, preorder, List.nil_append, List.cons_append,
      List.mem_cons, List.not_mem_nil, or_false, forall_eq_or_imp, forall_eq, OptionIs, true_and,
      and_true]
    exact ⟨.null, hoption⟩
  exact ⟨h, by decide +kernel, fun layout => readJson_renderJson layout samples h⟩

end Node

end RuleTree
