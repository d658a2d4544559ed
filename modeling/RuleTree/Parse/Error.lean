import RuleTree.Rule.Basic
import RuleTree.Value.Printer

/-!
# Parse errors

A parse fails where a matcher breaks its contract with the engine, where matches nest too deep, or
where a supplied function fails.
-/

namespace RuleTree

/-- A way in which the spans of a matcher cannot be used. -/
inductive Violation where
  | notAPair (matcher : String) (item : Datum)
  | badSpan (matcher : String) (item : Datum)
  | noSpans (matcher : String)
  | outsideInput (rule : String) (span : Span) (size : Nat)
  | nothingConsumed (rule : String)
  | captureBeyondSpans (rule : String) (capture : Int) (count : Nat)
  | captureAbsent (rule : String)
  | captureBeyondMatch (rule : String) (span : Span) (stop : Int)

def Violation.message : Violation → String
  | notAPair matcher item =>
    "Matcher " ++ matcher ++ " returned " ++ Datum.text item ++ ", expected an (offset, length) pair"
  | badSpan matcher item => "Matcher " ++ matcher ++ " returned invalid span " ++ Datum.text item
  | noSpans matcher =>
    "Matcher " ++ matcher ++ " returned an empty span sequence; return None for no match"
  | outsideInput rule span size =>
    "Rule '" ++ rule ++ "' matched span " ++ span.pairText ++ " outside an input of length " ++
      toString size
  | nothingConsumed rule => "Rule '" ++ rule ++ "' matched without consuming any input"
  | captureBeyondSpans rule capture count =>
    "Rule '" ++ rule ++ "' selects capture " ++ toString capture ++ " but its matcher returned " ++
      toString count ++ " span(s)"
  | captureAbsent rule =>
    "Rule '" ++ rule ++ "' selects a capture group that did not take part in the match"
  | captureBeyondMatch rule span stop =>
    "Rule '" ++ rule ++ "' captured span " ++ span.pairText ++
      " beyond the consumed region ending at " ++ toString stop

inductive ParseError where
  | contract (v : Violation)
  | tooDeep (rule : String) (limit : Int)
  /-- A matcher function returned something that has no items. -/
  | notIterable
  /-- A span was looked up where the match has none. -/
  | noSuchSpan
  | raised (r : Raised)

def ParseError.tooDeepMessage (rule : String) (limit : Int) : String :=
  "Rule '" ++ rule ++ "' matched at a nesting depth beyond " ++ toString limit

abbrev Parse := Except ParseError

/-- Lifts a failure of a supplied function. -/
def Parse.call : Except Raised α → Parse α
  | .ok a => .ok a
  | .error r => .error (.raised r)

end RuleTree
