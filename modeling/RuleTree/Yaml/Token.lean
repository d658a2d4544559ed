import RuleTree.Text

/-!
# YAML tokens

The tokens between the characters of a YAML stream and its nodes. Indentation has been turned into
tokens that open and close block collections.
-/

namespace RuleTree.Yaml

/-- Why a stream has no value. -/
inductive Fault where
  /-- The stream is not well formed, or a tag, alias or key is not supported. -/
  | malformed
  /-- An escape names a code point that does not exist. -/
  | badCodePoint
  /-- A number tag stands on a text that is no number. -/
  | badNumber
  /-- A number tag stands on an empty text. -/
  | emptyNumber
  /-- A truth tag stands on a text that is no truth value. -/
  | badTruth
  /-- A date or time that the calendar does not have. -/
  | badDate
  /-- A time tag stands on a text that is no time. -/
  | badTime
deriving DecidableEq, Repr

inductive Directive where
  | version (major minor : Nat)
  | tag (handle uri : Text)
  | unknown
deriving DecidableEq, Repr

inductive Token where
  | directive (d : Directive)
  | documentStart
  | documentEnd
  | blockSequenceStart
  | blockMappingStart
  | blockEnd
  | flowSequenceStart
  | flowSequenceEnd
  | flowMappingStart
  | flowMappingEnd
  | flowEntry
  | blockEntry
  | key
  | value
  | reference (name : Text)
  | anchor (name : Text)
  /-- A tag as written: an optional handle and the rest. -/
  | tag (handle : Option Text) (suffix : Text)
  | scalar (text : Text) (plain : Bool)
deriving DecidableEq, Repr

end RuleTree.Yaml
