import RuleTree.Rule.Spec

/-!
# Building rules

Rules from the shapes callers write them in. Every setting is checked in a fixed order, and the
first that fails is reported.
-/

namespace RuleTree

/-- A shape that rules cannot be built from. Specifications appear by their text. -/
inductive DefinitionError where
  | badPattern (source : String) (m : Pattern.Malformed)
  | badMatcher (spec : String)
  | badFormatter (spec : String)
  | badExcluder (spec : String)
  | badExclude (spec : String)
  | badCapture (rule spec : String)
  | unknownSettings (rule : String) (keys : List String)
  | missingMatch (rule : String)
  | badName (spec : String)
  | badRule (spec : String)
  | badRules (spec : String)
deriving DecidableEq, Repr

def DefinitionError.message : DefinitionError → String
  | badPattern source m =>
    "Invalid pattern " ++ Value.quotedText source ++ ": " ++ m.message source.toList
  | badMatcher spec => "Unsupported matcher " ++ spec ++ ": expected a pattern or a callable"
  | badFormatter spec => "Unsupported formatter " ++ spec ++ ": expected a string or a callable"
  | badExcluder spec =>
    "Invalid excluder " ++ spec ++ ": expected a name or a (name, option) pair"
  | badExclude spec => "Invalid exclude setting " ++ spec
  | badCapture rule spec =>
    "Rule '" ++ rule ++ "' has invalid capture " ++ spec ++ ": expected a non-negative integer"
  | unknownSettings rule keys =>
    "Rule '" ++ rule ++ "' has unknown setting(s): " ++ ", ".intercalate keys
  | missingMatch rule => "Rule '" ++ rule ++ "' missing required 'match' setting"
  | badName spec => "Invalid rule name " ++ spec ++ ": expected a non-empty string"
  | badRule spec => "Invalid rule " ++ spec ++ ": expected a Rule or a (name, spec) pair"
  | badRules spec =>
    "Invalid rules " ++ spec ++ ": expected a sequence of rules or (name, spec) pairs"

/-- Why no rules were built: a reported shape, or one of the failures that building does not
foresee. -/
inductive BuildError where
  | definition (d : DefinitionError)
  | flagConflict
  | hugeRepetition
  /-- Rules given as something that has no items. -/
  | notIterable
  /-- Unknown settings whose keys are not texts cannot be listed. -/
  | unlistableKeys
deriving DecidableEq, Repr

abbrev Build := Except BuildError

def reject (d : DefinitionError) : Build α := throw (.definition d)

namespace Spec

def matcher : Spec → Build Matcher
  | .object (.matcher m) => return m
  | .object (.pattern p) => return .pattern p
  | .object (.callable c) => return .function ⟨c.label, c.find⟩
  | .str source =>
    match Pattern.compile source .none with
    | .ok p => return .pattern p
    | .error (.malformed m) => reject (.badPattern source m)
    | .error .flagConflict => throw .flagConflict
    | .error .hugeRepetition => throw .hugeRepetition
  | s => reject (.badMatcher s.text)

def formatter : Spec → Build Formatter
  | .object (.formatter f) => return f
  | .object (.callable c) => return .function ⟨c.label, c.reformat⟩
  | .str s => return .literal s.toList
  | s => reject (.badFormatter s.text)

/-- Anything that is not a function is a literal option. -/
def option : Spec → RuleOption
  | .object (.option o) => o
  | .object (.callable c) => .function ⟨c.label, c.tag⟩
  | s => .literal s.toDatum

def excluder : Spec → Build Excluder
  | .object (.excluder e) => return e
  | .str name => return ⟨.str name, none⟩
  | .tuple [.str name, option] => return ⟨.str name, some (toDatum option)⟩
  | s => reject (.badExcluder s.text)

/-- A name, an excluder or a tuple is a single excluder, any other value with items a list of
them. -/
def excluders (s : Spec) : Build (List Excluder) :=
  match s with
  | .str _ | .object (.excluder _) | .tuple _ | .span _ => return [← s.excluder]
  | _ =>
    match s.items? with
    | some items => items.mapM excluder
    | none => reject (.badExclude s.text)

def capture (rule : String) : Spec → Build Int
  | .int i => if 0 ≤ i then return i else reject (.badCapture rule (toString i))
  | s => reject (.badCapture rule s.text)

/-- A setting that counts as absent when it is null. -/
def present? (key : String) (entries : List (Spec × Spec)) : Option Spec :=
  match Value.field? key entries with
  | some .null => none
  | other => other

def settingNames : List String :=
  ["match", "capture", "format", "option", "ignore", "skip", "exclude", "include", "rules"]

/-- The keys that are not settings; the texts among them, and whether there are others. -/
def unknownKeys (known : List String) : List (Value α × Value α) → List String × Bool
  | [] => ([], false)
  | (.str k, _) :: es =>
    let (ks, other) := unknownKeys known es
    (if known.contains k then ks else k :: ks, other)
  | _ :: es => ((unknownKeys known es).1, true)

/-- Names in ascending order of their characters. -/
def sorted (names : List String) : List String := names.mergeSort fun a b => a ≤ b

def checkKeys (rule : String) (entries : List (Spec × Spec)) : Build Unit :=
  match unknownKeys settingNames entries with
  | (_, true) => throw .unlistableKeys
  | ([], false) => return ()
  | (ks, false) => reject (.unknownSettings rule (sorted ks))

/-- The settings of a rule that do not hold rules themselves. -/
def settings (name : String) (entries : List (Spec × Spec)) : Build Rule := do
  checkKeys name entries
  let some m := Value.field? "match" entries | reject (.missingMatch name)
  let matcher ← matcher m
  let capture ← (present? "capture" entries).mapM (capture name)
  let formatter ← (present? "format" entries).mapM formatter
  let exclude ← match Value.field? "exclude" entries with
    | none => pure none
    | some .null => pure (some [])
    | some s => some <$> excluders s
  return {
    name := name
    matcher := matcher
    capture := capture
    formatter := formatter
    option := (Value.field? "option" entries).map option
    ignore := ((Value.field? "ignore" entries).map Value.truthy).getD false
    skip := ((Value.field? "skip" entries).map Value.truthy).getD false
    exclude := exclude }

/-- The name of a rule is a text that is not empty. -/
def ruleName : Spec → Build String
  | .str s => if s = "" then reject (.badName "''") else return s
  | s => reject (.badName s.text)

mutual

/-- A rule from its name and a bare matcher or a mapping of settings. -/
def rule (name : Spec) : Spec → Build Rule
  | .mapping entries => do
    let name ← ruleName name
    let base ← settings name entries
    let included ← nested "include" entries
    let replacement ← nested "rules" entries
    return { base with included := included.getD [], replacement := replacement }
  | s => do
    let name ← ruleName name
    return { name := name, matcher := ← s.matcher }

/-- The rules under a key, if there are any and they are not null. -/
def nested (key : String) : List (Spec × Spec) → Build (Option RuleSet)
  | [] => return none
  | (.str k, v) :: es =>
    if k = key then
      match v with
      | .null => return none
      | v => return some (← ruleset v)
    else nested key es
  | _ :: es => nested key es

/-- A single rule, a single pair of name and specification, or any items of those kinds. -/
def ruleset : Spec → Build RuleSet
  | .object (.rule r) => return [r]
  | .tuple [.str name, spec] => return [← rule (.str name) spec]
  | .tuple xs => rules xs
  | .list xs => rules xs
  | .set xs => rules xs
  | .stream xs => rules xs
  | .bytes [] => return []
  | .bytes (b :: _) => reject (.badRule (toString b.toNat))
  | .span s => reject (.badRule s.offset.text)
  | .mapping es => reject (.badRules (text (.mapping es)))
  | .str s => reject (.badRules (text (.str s)))
  | _ => throw .notIterable

def rules : List Spec → Build RuleSet
  | [] => return []
  | x :: xs => do
    let r ← member x
    let rs ← rules xs
    return r :: rs

def member : Spec → Build Rule
  | .object (.rule r) => return r
  | .tuple [name, spec] => rule name spec
  | .span s => reject (.badName s.offset.text)
  | s => reject (.badRule (text s))

end

end Spec

end RuleTree
