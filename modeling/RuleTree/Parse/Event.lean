import RuleTree.Parse.Machine

/-!
# Events of a parse

What an onlooker sees while a text is parsed: calls of supplied functions, and the matches that were
ignored or entered. Events are computed beside the machine, so that parsing itself carries no log.
-/

namespace RuleTree

inductive Event where
  | matcherCall (label : Label) (text : Text)
  | formatterCall (label : Label) (text : Text)
  | optionCall (label : Label) (text : Text) (spans : List Span) (value : Parse Datum)
  | ignored (rule : String)
  | entered (rule : String) (spans depth : Nat)

def Matcher.events : Matcher → Text → List Event
  | .pattern _, _ => []
  | .function f, t => [.matcherCall f.label t]

/-- Matchers are called in order until one succeeds or fails. -/
def RuleSet.matchEvents : RuleSet → Text → List Event
  | [], _ => []
  | r :: rs, t =>
    r.matcher.events t ++
      match r.matcher.spans t with
      | .ok none => matchEvents rs t
      | _ => []

def Formatter.events : Option Formatter → Text → List Event
  | some (.function f), t => [.formatterCall f.label t]
  | _, _ => []

/-- A formatter is called only for a match that passed every check. -/
def Match.prepareEvents (m : Match) (text : Text) : List Event :=
  match m.cut text with
  | .ok (captured, _) => Formatter.events m.rule.formatter captured
  | .error _ => []

def Construction.shapeEvents (c : Construction) : List Event :=
  if c.found.rule.skip then []
  else match c.found.rule.option with
    | some (.function f) =>
      [.optionCall f.label c.source c.found.spans (Parse.call (f.run c.source c.found.spans))]
    | _ => []

def Frame.events (f : Frame) : List Event :=
  let rest := f.remaining
  if f.rules.isEmpty then []
  else
    f.rules.matchEvents rest ++
      match f.rules.findMatch rest with
      | .ok (some m) =>
        m.prepareEvents rest ++
          match m.prepare rest f.rules with
          | .ok _ => if m.rule.ignore then [.ignored m.rule.name] else []
          | .error _ => []
      | _ => []

namespace Machine

def events (limit : Option Int) (m : Machine) : List Event :=
  if m.top.exhausted then
    match m.below, m.top.construction with
    | _ :: _, some c => c.shapeEvents
    | _, _ => []
  else
    m.top.events ++
      match m.step limit with
      | .ok (.running next) =>
        match next.top.construction with
        | some c =>
          if next.below.length = m.below.length + 1 then
            [.entered c.found.rule.name c.found.spans.length next.below.length]
          else []
        | none => []
      | _ => []

/-- The outcome of a run together with everything seen on the way. -/
def runWatched (limit : Option Int) :
    Nat → Machine → List Event → Option (Parse (List Node)) × List Event
  | 0, _, seen => (none, seen.reverse)
  | fuel + 1, m, seen =>
    let seen := (m.events limit).reverse ++ seen
    match m.step limit with
    | .error e => (some (.error e), seen.reverse)
    | .ok (.finished nodes) => (some (.ok nodes), seen.reverse)
    | .ok (.running next) => runWatched limit fuel next seen

/-- Watching does not change the outcome. -/
theorem runWatched_fst (limit : Option Int) (fuel : Nat) (m : Machine) (seen : List Event) :
    (m.runWatched limit fuel seen).1 = m.run limit fuel := by
  induction fuel generalizing m seen with
  | zero => rfl
  | succ fuel ih =>
    simp only [runWatched, run]
    split <;> simp_all

end Machine

/-- Parses a text and reports what was seen. -/
def parseWatched (steps : Nat) (limit : Option Int) (text : Text) (rules : RuleSet) :
    Option (Parse (List Node)) × List Event :=
  (Machine.start text rules).runWatched limit steps []

end RuleTree
