import RuleTree.Node.Basic
import RuleTree.Parse.Match
import RuleTree.Rule.Derive

/-!
# Constructions

A construction is everything that follows from a match before its captured text is parsed. `prepare`
checks the spans of a match and cuts the input; `shape` wraps the nodes that the captured text has
become.
-/

namespace RuleTree

structure Construction where
  found : Match
  /-- The input behind the match. -/
  nextText : Text
  /-- The input that the matcher was given; the spans index into it. -/
  source : Text
  /-- The captured text after formatting. -/
  payload : Text
  childRules : RuleSet

/-- The entry at an index. A negative index counts from the end, where the last entry is at -1. -/
def entryAt? (xs : List α) : Int → Option α
  | .ofNat n => xs[n]?
  | .negSucc n => xs.reverse[n]?

namespace Match

/-- The end of the consumed region. -/
def consumedEnd (m : Match) (text : Text) : Parse Int :=
  match m.spans with
  | [] => throw .noSuchSpan
  | entire :: _ =>
    if entire.start < 0 ∨ (text.length : Int) < entire.stop then
      throw (.contract (.outsideInput m.rule.name entire text.length))
    else if entire.stop = 0 then throw (.contract (.nothingConsumed m.rule.name))
    else return entire.stop

/-- The span that the rule captures: the last one unless it names another. -/
def captureSpan (m : Match) : Parse Span :=
  match m.rule.capture with
  | none =>
    match m.spans.getLast? with
    | some s => return s
    | none => throw .noSuchSpan
  | some k =>
    if (m.spans.length : Int) ≤ k then
      throw (.contract (.captureBeyondSpans m.rule.name k m.spans.length))
    else
      -- The check above is of one side only: an index may still lie in front of the first span.
      match entryAt? m.spans k with
      | some s => return s
      | none => throw .noSuchSpan

/-- The text that the rule captures, before formatting, and the end of the consumed region. -/
def cut (m : Match) (text : Text) : Parse (Text × Int) := do
  let stop ← m.consumedEnd text
  let capture ← m.captureSpan
  if capture.start < 0 then throw (.contract (.captureAbsent m.rule.name))
  if stop < capture.stop then
    throw (.contract (.captureBeyondMatch m.rule.name capture stop))
  return (Text.slice text capture.start capture.stop, stop)

end Match

def Formatter.format : Option Formatter → Text → Parse Text
  | none, t => return t
  | some (.literal s), _ => return s
  | some (.function f), t => Parse.call (f.run t)

def Match.prepare (m : Match) (text : Text) (rules : RuleSet) : Parse Construction := do
  let (captured, stop) ← m.cut text
  let payload ← Formatter.format m.rule.formatter captured
  return {
    found := m
    nextText := Text.sliceFrom text stop
    source := text
    payload := payload
    childRules := m.rule.childRules rules }

/-- What a match adds to the nodes around it: one node, or nodes to be spliced in. -/
inductive Shaped where
  | node (n : Node)
  | splice (ns : List Node)

def Shaped.nodes : Shaped → List Node
  | node n => [n]
  | splice ns => ns

def RuleOption.value (o : RuleOption) (text : Text) (spans : List Span) : Parse Datum :=
  match o with
  | .literal v => return v
  | .function f => Parse.call (f.run text spans)

def Construction.shape (c : Construction) (children : List Node) : Parse Shaped :=
  let r := c.found.rule
  if r.skip then return .splice children
  else match r.option with
    | none => return .node (.branch r.name children)
    | some o => return .node (.tagged r.name children (← o.value c.source c.found.spans))

end RuleTree
