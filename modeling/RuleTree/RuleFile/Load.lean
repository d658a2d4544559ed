import RuleTree.RuleFile.Error
import RuleTree.Text.LetterCase
import RuleTree.Value.HashKey
import RuleTree.Yaml.Meaning

/-!
# Loading rulesets

A rule file maps names to rulesets. A ruleset may extend another one, and a rule may take its
included or replacing rules from a ruleset by name. Resolved rulesets are remembered, and a ruleset
that is reached while it is being resolved is reported with the chain that led back to it.
-/

namespace RuleTree.RuleFile

/-- The rulesets resolved so far. -/
abbrev Memo := List (Datum × RuleSet)

abbrev Load := StateT Memo (Except LoadError)

def malformed (m : Malformed) : Except LoadError α := throw (.malformed m)

/-! ## Single rules -/

def fieldNames : List String :=
  ["name", "match", "flags", "capture", "format", "option", "ignore", "skip", "exclude", "include",
    "rules"]

/-- The union of the flags of a list of names. -/
def flagUnion (rule : String) : List Datum → Except LoadError Pattern.Flags
  | [] => return .none
  | d :: ds => do
    let name := Datum.plain d
    match Pattern.Flags.ofName? (String.ofList (Text.upper name.toList)) with
    | none => malformed (.badFlag rule name)
    | some f => return f.union (← flagUnion rule ds)

def flags (rule : String) : Option Datum → Except LoadError Pattern.Flags
  | none => return .none
  | some (.str s) => flagUnion rule [.str s]
  | some (.list ds) => flagUnion rule ds
  | some _ => malformed (.flagsNotAList rule)

def pattern (rule : String) (es : List (Datum × Datum)) : Except LoadError Pattern := do
  match Value.field? "match" es with
  | some (.str source) =>
    let fs ← flags rule (Value.field? "flags" es)
    match Pattern.compile source fs with
    | .ok p => return p
    | .error (.malformed m) => malformed (.badPattern rule source m)
    | .error .flagConflict => throw .flagConflict
    | .error .hugeRepetition => throw .hugeRepetition
  | _ => malformed (.matchNotText rule)

/-- An excluder written as a mapping; anything else is left to the builder. -/
def excluderItem (rule : String) : Datum → Except LoadError Spec
  | .mapping es =>
    match Value.field? "name" es with
    | none => malformed (.namelessExcluder rule)
    | some name => return .object (.excluder ⟨name, Value.field? "option" es⟩)
  | d => return Spec.ofDatum d

def exclude (rule : String) : Datum → Except LoadError (List Excluder)
  | .null => return []
  | d => do
    let spec ← match d with
      | .list ds => Value.list <$> ds.mapM (excluderItem rule)
      | d => excluderItem rule d
    match Spec.excluders spec with
    | .ok es => return es
    | .error (.definition e) => malformed (.badExclude e)
    | .error .flagConflict => throw .flagConflict
    | .error .hugeRepetition => throw .hugeRepetition
    | .error .notIterable => throw .notIterable
    | .error .unlistableKeys => throw .unlistableFields

/-- The name of a rule whose required fields are there and whose fields are all known. -/
def checkFields (es : List (Datum × Datum)) : Except LoadError String :=
  match Value.field? "name" es with
  | none => malformed (.missingField none "name")
  | some d =>
    let name := Datum.plain d
    if (Value.field? "match" es).isNone then malformed (.missingField (some name) "match")
    else match Spec.unknownKeys fieldNames es with
      | (_, true) => throw .unlistableFields
      | ([], false) => return name
      | (ks, false) => malformed (.unknownFields name (Spec.sorted ks))

def capture (rule : String) : Option Datum → Except LoadError (Option Int)
  | none | some .null => return none
  | some (.int i) => if 0 ≤ i then return some i else malformed (.badCapture rule)
  | some _ => malformed (.badCapture rule)

def format (rule : String) : Option Datum → Except LoadError (Option Formatter)
  | none | some .null => return none
  | some (.str s) => return some (.literal s.toList)
  | some _ => malformed (.badFormat rule)

def truth (d : Option Datum) : Bool := (d.map Value.truthy).getD false

/-- The fields of a rule that do not hold rules themselves. -/
def ruleHead (es : List (Datum × Datum)) : Except LoadError Rule := do
  let name ← checkFields es
  let capture ← capture name (Value.field? "capture" es)
  let formatter ← format name (Value.field? "format" es)
  let p ← pattern name es
  let exclude ← (Value.field? "exclude" es).mapM (exclude name)
  return {
    name := name
    matcher := .pattern p
    capture := capture
    formatter := formatter
    option := (Value.field? "option" es).map .literal
    ignore := truth (Value.field? "ignore" es)
    skip := truth (Value.field? "skip" es)
    exclude := exclude }

section

-- How rulesets are found by name, and what is remembered of them, is left to the monad.
variable {m : Type → Type} [Monad m] [MonadLiftT (Except LoadError) m] (resolve : Datum → m RuleSet)

mutual

/-- A rule, with rulesets referred to by name found by `resolve`. -/
def rule : Datum → m Rule
  | .mapping es => do
    let head ← ruleHead es
    let included ← nested head.name "include" es
    let replacement ← nested head.name "rules" es
    return { head with included := included.getD [], replacement := replacement }
  | d => malformed (.ruleNotAMapping (Datum.text d))

/-- The rules under a field: a ruleset name or a list of rules. -/
def nested (context field : String) : List (Datum × Datum) → m (Option RuleSet)
  | [] => return none
  | (.str k, v) :: es =>
    if k = field then
      match v with
      | .str s => some <$> resolve (.str s)
      | .list ds => some <$> rules ds
      | _ => malformed (.rulesNotAList context)
    else nested context field es
  | _ :: es => nested context field es

def rules : List Datum → m RuleSet
  | [] => return []
  | d :: ds => do
    let r ← rule d
    let rs ← rules ds
    return r :: rs

end

end

/-! ## Rulesets -/

/-- Names as texts, if they all are. -/
def names? : List Datum → Option (List String)
  | [] => some []
  | .str s :: ds => (names? ds).map (s :: ·)
  | _ :: _ => none

def circular (path : List Datum) (name : Datum) : Except LoadError α :=
  match names? (path.reverse ++ [name]) with
  | some chain => malformed (.circular (Datum.plain name) chain)
  | none => throw .unlistableNames

def notFound (rulesets : List (Datum × Datum)) (name : Datum) : Except LoadError α :=
  match names? (rulesets.map (·.1)) with
  | some available => malformed (.notFound (Datum.plain name) available)
  | none => throw .unlistableNames

/-- The fields of a ruleset; an empty one may be written in any way that counts as false. -/
def rulesetFields (name d : Datum) : Except LoadError (List (Datum × Datum)) :=
  if !d.truthy then return []
  else match d with
    | .mapping es => return es
    | _ => malformed (.rulesetNotAMapping (Datum.plain name))

/-- The list of a ruleset's own rules. -/
def ownRules (name : Datum) : Option Datum → Except LoadError (List Datum)
  | none => return []
  | some d =>
    if !d.truthy then return []
    else match d with
      | .list ds => return ds
      | _ => malformed (.rulesNotAList (Datum.plain name))

section

variable {m : Type → Type} [Monad m] [MonadLiftT (Except LoadError) m] (resolve : Datum → m RuleSet)

/-- The rules that a ruleset takes over from the one it extends. -/
def inherited (es : List (Datum × Datum)) : m RuleSet :=
  match Value.field? "extends" es with
  | some base => resolve base
  | none => return []

/-- The rules of the ruleset that is written as `d`, those it extends first. -/
def ruleset (name d : Datum) : m RuleSet := do
  let es ← rulesetFields name d
  let extended ← inherited resolve es
  let own ← rules resolve (← ownRules name (Value.field? "rules" es))
  return extended ++ own

end

/-- The rules of a ruleset by name. `path` holds the rulesets being resolved, innermost first. They
are pairwise different, so a depth as great as their number is enough. -/
def resolve (rulesets : List (Datum × Datum)) (depth : Nat) (path : List Datum) (name : Datum) :
    Load RuleSet := do
  unless name.hashable do throw .unhashableName
  match (← get).find? (·.1.same name) with
  | some (_, rs) => return rs
  | none =>
    if path.any (·.same name) then circular path name
    else match Value.lookup? name rulesets with
      | none => notFound rulesets name
      | some d =>
        match depth with
        | 0 => circular path name
        | depth + 1 => do
          let rs ← ruleset (resolve rulesets depth (name :: path)) name d
          modify fun memo => (name, rs) :: memo
          return rs

/-- The rulesets of a loaded file. -/
def rulesets : Datum → Except LoadError (List (Datum × Datum))
  | .mapping es =>
    match Value.field? "rulesets" es with
    | none => malformed .noRulesets
    | some (.mapping rs) => return rs
    | some _ => malformed .rulesetsNotAMapping
  | _ => malformed .notAMapping

/-- The rule set of a ruleset in loaded data. -/
def load (data name : Datum) : Except LoadError RuleSet := do
  let rs ← rulesets data
  let (rules, _) ← (resolve rs rs.length [] name).run []
  return rules

/-- The data in the text of a rule file. -/
def readData (t : Text) : Except LoadError Datum :=
  match Yaml.read t with
  | .ok d => return d
  | .error .malformed => malformed .invalidYaml
  | .error f => throw (.badValue f)

/-- The names of the rulesets in a rule file. -/
def rulesetNames (t : Text) : Except LoadError (List Datum) := do
  return (← rulesets (← readData t)).map (·.1)

/-- A name that counts as false asks for the ruleset `default`. -/
def orDefault : Option Datum → Datum
  | none => .str "default"
  | some d => if d.truthy then d else .str "default"

/-- The rule set of a ruleset in the text of a rule file. -/
def loadText (t : Text) (name : Option Datum) : Except LoadError RuleSet := do
  load (← readData t) (orDefault name)

end RuleTree.RuleFile
