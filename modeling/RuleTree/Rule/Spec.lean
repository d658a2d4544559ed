import RuleTree.Rule.Printer

/-!
# Rule specifications

The shapes in which callers write rules: values whose objects are the ready-made parts below.
-/

namespace RuleTree

/-- A supplied function, which serves as a matcher, a formatter or an option according to where it
stands. -/
structure Callable where
  label : Label
  find : Text → Except Raised Datum
  reformat : Text → Except Raised Text
  tag : Text → List Span → Except Raised Datum

inductive Part where
  | matcher (m : Matcher)
  | formatter (f : Formatter)
  | option (o : RuleOption)
  | rule (r : Rule)
  | excluder (e : Excluder)
  | pattern (p : Pattern)
  | callable (c : Callable)
  | foreign (f : Foreign)

abbrev Spec := Value Part

namespace Part

/-- The text of a compiled pattern: its source, cut short after 200 characters, and its flags. -/
def patternText (p : Pattern) : String :=
  let source := String.ofList ((Value.quotedText p.source).toList.take 200)
  let flags := "|".intercalate (p.flags.names.map ("re." ++ ·))
  "re.compile(" ++ source ++ (if flags = "" then "" else ", " ++ flags) ++ ")"

def text : Part → String
  | matcher m => m.text
  | formatter f => f.text
  | option o => o.text
  | rule r => r.text
  | excluder e => e.text
  | pattern p => patternText p
  | callable c => c.label.plain
  | foreign f => f.text

end Part

namespace Spec

def text (s : Spec) : String := Value.text Part.text s

/-- Plain data, in which ready-made parts are known by their text only. -/
def toDatum (s : Spec) : Datum := s.map fun p => ⟨p.text⟩

def ofDatum (d : Datum) : Spec := d.map .foreign

end Spec

end RuleTree
