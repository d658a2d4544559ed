import RuleTree.Parse.Construction

/-!
# Frames

A frame is a region of text being parsed with one rule set. Characters that no rule matches are
collected in a pending run, which becomes one literal node when a match or the end closes it.
-/

namespace RuleTree

structure Frame where
  text : Text
  rules : RuleSet
  /-- What the frame's nodes will be wrapped by; the outermost frame has none. -/
  construction : Option Construction := none
  position : Int := 0
  nodes : List Node := []
  /-- Where the pending run of literal text began. -/
  literalStart : Option Int := none

namespace Frame

def exhausted (f : Frame) : Bool := (f.text.length : Int) ≤ f.position

def remaining (f : Frame) : Text := Text.sliceFrom f.text f.position

/-- Adds characters to the pending run. -/
def takeLiteral (f : Frame) (n : Int) : Frame :=
  { f with literalStart := some (f.literalStart.getD f.position), position := f.position + n }

/-- Turns the pending run into a node. -/
def closeLiteral (f : Frame) : Frame :=
  match f.literalStart with
  | none => f
  | some start =>
    { f with
      nodes := f.nodes ++ [.text (Text.slice f.text start f.position)]
      literalStart := none }

def consume (f : Frame) (n : Int) : Frame :=
  let g := f.closeLiteral
  { g with position := g.position + n }

def add (f : Frame) (s : Shaped) : Frame := { f with nodes := f.nodes ++ s.nodes }

def ofConstruction (c : Construction) : Frame :=
  { text := c.payload, rules := c.childRules, construction := some c }

/-- Advances by one match or one literal character; without rules, to the end. The construction is
the one whose captured text has still to be parsed, if there is one. -/
def step (f : Frame) : Parse (Frame × Option Construction) := do
  let rest := f.remaining
  if f.rules.isEmpty then return (f.takeLiteral rest.length, none)
  match ← f.rules.findMatch rest with
  | none => return (f.takeLiteral 1, none)
  | some m =>
    let c ← m.prepare rest f.rules
    let g := f.consume ((rest.length : Int) - c.nextText.length)
    if m.rule.ignore then return (g, none) else return (g, some c)

end Frame

end RuleTree
