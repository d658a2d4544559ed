import RuleTree.Json.Reader
import RuleTree.Path
import RuleTree.Rule.Build
import RuleTree.Text.LetterCase

/-!
# Settings

Settings come from given fields, from the environment and from defaults, in this order of
precedence. The environment is a list of variables under the names that remain when the
application's own prefix is dropped and letters are made small; of two variables of one name the
later one counts. The settings of a part may be set field by field (`parser_max_depth`) or as a
whole, as a JSON object (`parser`).
-/

namespace RuleTree

structure ParserSettings where
  /-- How deep matches may nest; without it there is no limit. -/
  maxDepth : Option Int := none
deriving DecidableEq, Repr, Inhabited

structure RulesSettings where
  rulesFile : Option String := none
  ruleset : String := "default"
deriving DecidableEq, Repr, Inhabited

structure Settings where
  parser : ParserSettings := {}
  rules : RulesSettings := {}
deriving DecidableEq, Repr, Inhabited

inductive SettingsError where
  /-- Fields that are unknown or have no usable value, in ascending order. -/
  | invalid (fields : List String)
  /-- A variable that should hold JSON does not. -/
  | unreadable
deriving DecidableEq, Repr

/-- Variables in the order in which they were set. -/
abbrev Environment := List (String × String)

def Environment.get? (env : Environment) (name : String) : Option String :=
  env.reverse.lookup name

namespace Settings

/-- Fields under their names. -/
abbrev Given := List (String × Datum)

/-! ## Values of fields -/

/-- Blanks that may stand around a number. -/
def isPadding (c : Char) : Bool := Text.isBlank c && !(0x1c ≤ c.toNat && c.toNat ≤ 0x1f)

def unpad (t : Text) : Text :=
  ((t.dropWhile isPadding).reverse.dropWhile isPadding).reverse

/-- A number without a fraction of zeros. -/
def dropZeroFraction (t : Text) : Text :=
  let whole := t.takeWhile (· ≠ '.')
  if (t.drop (whole.length + 1)).all (· = '0') then whole else t

/-- The zeros in front of a number, and the underscores after the first of them. -/
def dropLeadingZeros : Text → Text
  | '0' :: rest => rest.dropWhile fun c => c = '0' || c = '_'
  | t => t

/-- A number longer than this is not read. -/
def longestNumber : Nat := 4300

/-- Reads a depth, which is a positive integer, from text. -/
def depthOfText? (t : Text) : Option Int := do
  let t := unpad t
  guard (t.length ≤ longestNumber)
  let body := match t with
    | '+' :: rest => rest
    | _ => t
  guard ((body.head?.map Char.isDigit).getD false)
  let digits ← Number.dropUnderscores? none (dropZeroFraction (dropLeadingZeros body))
  let n ← Number.natIn? 10 digits
  guard (0 < n)
  return n

def positive? (i : Int) : Option Int := if 1 ≤ i then some i else none

/-- A depth from a value; a double must have no fraction and stay below 2⁶³. -/
def depth? : Datum → Option (Option Int)
  | .null => some none
  | .int i => some <$> positive? i
  | .bool b => some <$> positive? (if b then 1 else 0)
  | .float x => do
    let i ← x.toInt?
    guard (i < (Nat.pow 2 63 : Nat))
    some <$> positive? i
  | .str s => some <$> depthOfText? s.toList
  | _ => none

def file? : Datum → Option (Option String)
  | .null => some none
  | .str s => some (some (String.ofList (Path.normal s.toList)))
  | _ => none

def name? : Datum → Option String
  | .str s => some s
  | _ => none

/-! ## Fields -/

/-- The value of a field: as given, from a variable, or the default. -/
def field (env : Environment) (given : Given) (name source : String) (default : α)
    (read? : Datum → Option α) : Option α :=
  match given.lookup name with
  | some d => read? d
  | none =>
    match env.get? source with
    | some s => read? (.str s)
    | none => some default

/-- Given names that no field has. -/
def unknown (fields : List String) (given : Given) : List String :=
  (given.map (·.1)).filter fun k => !fields.contains k

/-- Reports fields, each of them once and in ascending order. -/
def invalid (fields : List String) : SettingsError := .invalid (Spec.sorted fields.eraseDups)

/-- The name of a field that has no usable value. -/
def unusable (name : String) (value : Option α) : List String :=
  if value.isNone then [name] else []

end Settings

namespace ParserSettings

def fields : List String := ["max_depth"]

def build (env : Environment) (given : Settings.Given) : Except SettingsError ParserSettings :=
  let depth := Settings.field env given "max_depth" "parser_max_depth" none Settings.depth?
  match depth, Settings.unknown fields given with
  | some d, [] => .ok ⟨d⟩
  | _, ks => .error (Settings.invalid (Settings.unusable "max_depth" depth ++ ks))

end ParserSettings

namespace RulesSettings

def fields : List String := ["rules_file", "ruleset"]

def build (env : Environment) (given : Settings.Given) : Except SettingsError RulesSettings :=
  let file := Settings.field env given "rules_file" "rules_rules_file" none Settings.file?
  let name := Settings.field env given "ruleset" "rules_ruleset" "default" Settings.name?
  match file, name, Settings.unknown fields given with
  | some f, some n, [] => .ok ⟨f, n⟩
  | _, _, ks =>
    .error (Settings.invalid
      (Settings.unusable "rules_file" file ++ Settings.unusable "ruleset" name ++ ks))

end RulesSettings

namespace Settings

/-! ## Parts -/

/-- A name of a JSON object becomes the name of the field that it spells in any case of letters. -/
def fieldName (fields : List String) (key : String) : String :=
  (fields.find? fun f => Text.lower f.toList = Text.lower key.toList).getD key

/-- A part as the environment has it: nothing, an object, or something else. A later member of an
object counts more than an earlier one. -/
def fromVariable (env : Environment) (name : String) (fields : List String) :
    Except SettingsError (Option Datum) :=
  match env.get? name with
  | none => .ok none
  | some s =>
    match Json.read? s.toList with
    | none => .error .unreadable
    | some .null => .ok none
    | some (.obj ms) =>
      .ok (some (.mapping (Json.toEntries (ms.reverse.map fun (k, v) => (fieldName fields k, v)))))
    | some j => .ok (some j.toDatum)

/-- A part as it is given, completed by what the environment has. -/
def complete : Option Datum → Option Datum → Option Datum
  | some (.mapping given), some (.mapping more) => some (.mapping (given ++ more))
  | some d, _ => some d
  | none, d => d

/-- The fields of a part, if it has named fields. -/
def fieldsOf? : Datum → Option Given
  | .mapping es => es.mapM fun
    | (.str k, v) => some (k, v)
    | _ => none
  | _ => none

/-- A part of the settings. A part that is not given is built from the environment alone, and its
failure is reported for itself; any failure of a given part is one of the part (`none`). -/
def part (build : Given → Except SettingsError α) : Option Datum → Except SettingsError (Option α)
  | none => some <$> build []
  | some d =>
    match fieldsOf? d with
    | none => .ok none
    | some given =>
      match build given with
      | .ok a => .ok (some a)
      | .error _ => .ok none

def fields : List String := ["parser", "rules"]

/-- Builds the settings from given fields and the environment. -/
def build (env : Environment) (given : Given) : Except SettingsError Settings := do
  let parser ← fromVariable env "parser" ParserSettings.fields
  let rules ← fromVariable env "rules" RulesSettings.fields
  let parser ← part (ParserSettings.build env) (complete (given.lookup "parser") parser)
  let rules ← part (RulesSettings.build env) (complete (given.lookup "rules") rules)
  match parser, rules, unknown fields given with
  | some p, some r, [] => .ok ⟨p, r⟩
  | _, _, ks => .error (invalid (unusable "parser" parser ++ unusable "rules" rules ++ ks))

/-- Settings of ready parts. The environment adds nothing to them, but must be readable. -/
def ofParts (env : Environment) (parser : ParserSettings) (rules : RulesSettings) :
    Except SettingsError Settings := do
  let _ ← fromVariable env "parser" ParserSettings.fields
  let _ ← fromVariable env "rules" RulesSettings.fields
  return ⟨parser, rules⟩

/-- The settings in force: those chosen before, or those of the environment. -/
def inForce (env : Environment) : Option Settings → Except SettingsError Settings
  | some s => .ok s
  | none => build env []

end Settings

end RuleTree
