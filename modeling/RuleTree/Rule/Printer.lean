import RuleTree.Rule.Basic
import RuleTree.Value.Printer

/-!
# Text of rules

`Rule.describe` sums up the settings of a rule in one line; `Rule.text` shows every field.
-/

namespace RuleTree

namespace Label

/-- The name as it is. -/
def plain : Label → String
  | named name => name
  | anonymous text => text

/-- The name as a quoted text. -/
def text : Label → String
  | named name => Value.quotedText name
  | anonymous text => text

end Label

namespace Matcher

def describe : Matcher → String
  | pattern p => "/" ++ p.source ++ "/"
  | function f => f.label.plain

def text : Matcher → String
  | pattern p => "PatternMatcher(" ++ Value.quotedText p.source ++ ")"
  | function f => "FunctionMatcher(" ++ f.label.plain ++ ")"

end Matcher

def Formatter.text : Formatter → String
  | .literal s => "LiteralFormatter(" ++ Text.quoted s ++ ")"
  | .function f => "FunctionFormatter(" ++ f.label.text ++ ")"

def RuleOption.text : RuleOption → String
  | .literal v => "LiteralOption(" ++ Datum.text v ++ ")"
  | .function f => "FunctionOption(" ++ f.label.text ++ ")"

def Excluder.text (e : Excluder) : String :=
  match e.option with
  | none => "Excluder(" ++ Datum.text e.name ++ ")"
  | some d => "Excluder(" ++ Datum.text e.name ++ ", " ++ Datum.text d ++ ")"

namespace Rule

def bracketed (parts : List String) : String := "[" ++ ", ".intercalate parts ++ "]"

def describeOption : Option RuleOption → List String
  | none => []
  | some (.literal v) => ["option=" ++ Datum.text v]
  | some (.function _) => ["option=<function>"]

/-- The settings about child rules; a replacement hides the others. -/
def describeChildren (r : Rule) : List String :=
  match r.replacement with
  | some rs => ["rules=" ++ bracketed (rs.map (·.name))]
  | none =>
    (match r.exclude with
      | none => []
      | some es => ["exclude=" ++ bracketed (es.map (·.text))]) ++
    (if r.included.isEmpty then [] else ["include=" ++ bracketed (r.included.map (·.name))])

def describe (r : Rule) : String :=
  ", ".intercalate (["match=" ++ r.matcher.describe] ++
    (match r.capture with
      | none => []
      | some n => ["capture=" ++ toString n]) ++
    (if r.formatter.isSome then ["format"] else []) ++
    describeOption r.option ++
    (if r.ignore then ["ignore"] else []) ++
    (if r.skip then ["skip"] else []) ++
    r.describeChildren)

def flagText (b : Bool) : String := if b then "True" else "False"

def optionalText (f : α → String) : Option α → String
  | none => "None"
  | some a => f a

mutual

def text : Rule → String
  | ⟨name, matcher, capture, formatter, option, ignore, skip, exclude, included, replacement⟩ =>
    "Rule(name=" ++ Value.quotedText name ++
    ", matcher=" ++ matcher.text ++
    ", capture=" ++ optionalText toString capture ++
    ", formatter=" ++ optionalText Formatter.text formatter ++
    ", option=" ++ optionalText RuleOption.text option ++
    ", ignore=" ++ flagText ignore ++
    ", skip=" ++ flagText skip ++
    ", exclude=" ++ optionalText (fun es => Value.tupleText (es.map Excluder.text)) exclude ++
    ", include=" ++ Value.tupleText (texts included) ++
    ", rules=" ++ (match replacement with
      | none => "None"
      | some rs => Value.tupleText (texts rs)) ++ ")"

def texts : List Rule → List String
  | [] => []
  | r :: rs => text r :: texts rs

end

end Rule

end RuleTree
