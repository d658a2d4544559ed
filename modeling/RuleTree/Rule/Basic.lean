import RuleTree.Pattern.Basic
import RuleTree.Value.Equality

/-!
# Rules

A rule names a kind of region, says how to find it in the remaining input and what becomes of the
text it captures. Matchers, formatters and options may be functions supplied by the caller; they are
pure, but may fail with a failure of their own (`Raised`).
-/

namespace RuleTree

/-- A failure of a supplied function. Its kind and message mean nothing to the engine. -/
structure Raised where
  kind : String
  message : Option String := none
deriving DecidableEq, Repr, Inhabited

/-- How a supplied function is shown: by its name or, without one, by a text. -/
inductive Label where
  | named (name : String)
  | anonymous (text : String)
deriving DecidableEq, Repr, Inhabited

structure MatcherFunction where
  label : Label
  run : Text → Except Raised Datum

structure FormatterFunction where
  label : Label
  run : Text → Except Raised Text

structure OptionFunction where
  label : Label
  run : Text → List Span → Except Raised Datum

/-- Finds the spans of a rule in the remaining input. -/
inductive Matcher where
  | pattern (p : Pattern)
  | function (f : MatcherFunction)

/-- Turns captured text into the text that is parsed further. -/
inductive Formatter where
  | literal (replacement : Text)
  | function (f : FormatterFunction)

/-- The value attached to the nodes of a rule. -/
inductive RuleOption where
  | literal (value : Datum)
  | function (f : OptionFunction)

/-- Selects rules to drop from a derived rule set: those of a name and, if an option is given, only
those of them with an equal literal option. -/
structure Excluder where
  name : Datum
  option : Option Datum := none

/-- `exclude` of `none` drops every rule of the same name from the child rules, an empty list drops
nothing. A `replacement`, even an empty one, is taken instead of the derived child rules. A negative
`capture` counts from the end of the spans; building and loading reject it, but nothing else does. -/
structure Rule where
  name : String
  matcher : Matcher
  capture : Option Int := none
  formatter : Option Formatter := none
  option : Option RuleOption := none
  ignore : Bool := false
  skip : Bool := false
  exclude : Option (List Excluder) := none
  included : List Rule := []
  replacement : Option (List Rule) := none

/-- Rules in order of priority, the highest first. -/
abbrev RuleSet := List Rule

namespace Excluder

/-- The excluder of every rule of a name. -/
def ofName (name : String) : Excluder := ⟨.str name, none⟩

def isNamed (e : Excluder) (name : String) : Bool :=
  match e.name with
  | .str n => n == name
  | _ => false

/-- Whether a rule's option is a literal equal to `d`. -/
def optionIs (d : Datum) : Option RuleOption → Bool
  | some (.literal v) => v.same d
  | _ => false

def selects (e : Excluder) (r : Rule) : Bool :=
  e.isNamed r.name &&
    match e.option with
    | none => true
    | some d => optionIs d r.option

end Excluder

end RuleTree
