import RuleTree.Parse.Frame

/-!
# The parse machine

Nested matches are parsed with a stack of frames instead of recursion: the frame for the captured
text of a match lies on top of the frame that found the match until it is exhausted. `run` makes at
most a given number of steps; a machine that has not stopped by then is reported as such and not as
an error.
-/

namespace RuleTree

/-- The frame being parsed and the frames that wait below it, innermost first. -/
structure Machine where
  top : Frame
  below : List Frame := []

inductive Progress where
  | running (m : Machine)
  | finished (nodes : List Node)

namespace Machine

def start (text : Text) (rules : RuleSet) : Machine :=
  { top := { text := text, rules := rules } }

/-- How many matches are open. -/
def depth (m : Machine) : Nat := m.below.length

/-- A match found at this depth would nest deeper than allowed. -/
def exceeds (m : Machine) : Option Int → Bool
  | none => false
  | some limit => limit < (m.depth : Int) + 1

/-- Hands the nodes of an exhausted frame to the frame below. -/
def pop (m : Machine) : Parse Progress :=
  let nodes := m.top.closeLiteral.nodes
  match m.below, m.top.construction with
  | [], _ => return .finished nodes
  | parent :: below, some c => do
    let shaped ← c.shape nodes
    return .running ⟨parent.add shaped, below⟩
  -- Never reached: only the frame that a parse starts with has no construction, and it lies at the bottom.
  | parent :: below, none => return .running ⟨parent.add (.splice nodes), below⟩

/-- Lays the frame for a construction on top. -/
def push (m : Machine) (f : Frame) (c : Construction) : Machine :=
  ⟨.ofConstruction c, f :: m.below⟩

def step (limit : Option Int) (m : Machine) : Parse Progress :=
  if m.top.exhausted then m.pop
  else do
    match ← m.top.step with
    | (f, none) => return .running { m with top := f }
    | (f, some c) =>
      match limit with
      | some d =>
        if m.exceeds limit then throw (.tooDeep c.found.rule.name d)
        else return .running (m.push f c)
      | none => return .running (m.push f c)

/-- The outcome after at most so many steps, if there is one. -/
def run (limit : Option Int) : Nat → Machine → Option (Parse (List Node))
  | 0, _ => none
  | fuel + 1, m =>
    match m.step limit with
    | .error e => some (.error e)
    | .ok (.finished nodes) => some (.ok nodes)
    | .ok (.running next) => run limit fuel next

end Machine

/-- Parses a text into nodes, within a number of steps. -/
def parse (steps : Nat) (limit : Option Int) (text : Text) (rules : RuleSet) :
    Option (Parse (List Node)) :=
  (Machine.start text rules).run limit steps

end RuleTree
