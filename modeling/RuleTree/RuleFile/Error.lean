import RuleTree.Rule.Build
import RuleTree.Yaml.Token

/-!
# Load errors

Why no rules were loaded from a rule file. Most failures are reported as malformed rule data
(`Malformed`); the other constructors of `LoadError` are failures that loading does not foresee.
-/

namespace RuleTree.RuleFile

inductive Malformed where
  | invalidYaml
  | notAMapping
  | noRulesets
  | rulesetsNotAMapping
  | circular (name : String) (chain : List String)
  | notFound (name : String) (available : List String)
  | rulesetNotAMapping (name : String)
  | rulesNotAList (context : String)
  | ruleNotAMapping (rule : String)
  | missingField (rule : Option String) (field : String)
  | unknownFields (rule : String) (fields : List String)
  | matchNotText (rule : String)
  | flagsNotAList (rule : String)
  | badFlag (rule flag : String)
  | badPattern (rule source : String) (m : Pattern.Malformed)
  | namelessExcluder (rule : String)
  | badExclude (d : DefinitionError)
  | badCapture (rule : String)
  | badFormat (rule : String)
deriving DecidableEq, Repr

def Malformed.message : Malformed → String
  | invalidYaml => "Invalid YAML"
  | notAMapping => "YAML file must contain a dictionary"
  | noRulesets => "YAML file missing 'rulesets' key"
  | rulesetsNotAMapping => "'rulesets' must be a dictionary"
  | circular name chain =>
    "Circular dependency detected in ruleset '" ++ name ++ "' (" ++ " -> ".intercalate chain ++ ")"
  | notFound name available =>
    "Ruleset '" ++ name ++ "' not found. Available rulesets: " ++ ", ".intercalate available
  | rulesetNotAMapping name => "Ruleset '" ++ name ++ "' must be a dictionary"
  | rulesNotAList context => "Rules of '" ++ context ++ "' must be a list"
  | ruleNotAMapping rule => "Rule must be a dictionary, got " ++ rule
  | missingField rule field =>
    "Rule" ++ (match rule with
      | some name => " '" ++ name ++ "'"
      | none => "") ++ " missing required '" ++ field ++ "' field"
  | unknownFields rule fields =>
    "Rule '" ++ rule ++ "' has unknown field(s): " ++ ", ".intercalate fields
  | matchNotText rule => "Rule '" ++ rule ++ "' 'match' must be a regular expression string"
  | flagsNotAList rule => "Rule '" ++ rule ++ "' 'flags' must be a list of flag names"
  | badFlag rule flag =>
    "Rule '" ++ rule ++ "' has invalid flag '" ++ flag ++
      "'. Valid flags: ASCII, DOTALL, IGNORECASE, MULTILINE, VERBOSE"
  | badPattern rule source m =>
    "Rule '" ++ rule ++ "' has invalid pattern '" ++ source ++ "': " ++ m.message source.toList
  | namelessExcluder rule => "Rule '" ++ rule ++ "' has an excluder missing 'name'"
  | badExclude d => d.message
  | badCapture rule => "Rule '" ++ rule ++ "' 'capture' must be a non-negative integer"
  | badFormat rule => "Rule '" ++ rule ++ "' 'format' must be a string"

inductive LoadError where
  | malformed (m : Malformed)
  /-- There is no file at the path. -/
  | missingFile (path : String)
  /-- There is a directory at the path. -/
  | directory (path : String)
  /-- A ruleset is asked for by something that cannot be a key. -/
  | unhashableName
  /-- Names of rulesets that are not texts cannot be listed. -/
  | unlistableNames
  /-- Unknown fields that are not texts cannot be listed. -/
  | unlistableFields
  | flagConflict
  | hugeRepetition
  | notIterable
  /-- A value of the file does not exist. -/
  | badValue (f : Yaml.Fault)
deriving DecidableEq, Repr

def missingFileMessage (path : String) : String := "Rules file not found: " ++ path

end RuleTree.RuleFile
