import RuleTree.Command.Arguments
import RuleTree.Command.Log
import RuleTree.Number.Decimal
import RuleTree.Path
import RuleTree.Text.LetterCase

/-!
# Commands

`parse` parses a file with a ruleset and shows the tree, `rules` lists the rules of a ruleset.
`Request.read?` makes a request of the arguments; it fails where they do not follow the usage, and
does not look at any file.
-/

namespace RuleTree.Command

inductive Format where
  | console
  | json
deriving DecidableEq, Repr

structure ParseJob where
  file : String
  rulesFile : String
  ruleset : String
  format : Format := .console
  output : Option String := none
  maxDepth : Option Int := none
deriving DecidableEq, Repr

structure RulesJob where
  rulesFile : String
  ruleset : String
deriving DecidableEq, Repr

inductive Job where
  | parse (job : ParseJob)
  | rules (job : RulesJob)
deriving DecidableEq, Repr

inductive Request where
  | help
  | job (level : Level) (job : Job)
deriving DecidableEq, Repr

def defaultRuleset : String := "default"

/-- The choice that a word names in any case of letters. -/
def choose? (choices : List (String × α)) (word : String) : Option α :=
  let lowered (s : String) : Text := Text.lower s.toList
  (choices.find? fun c => lowered c.1 = lowered word).map (·.2)

def formats : List (String × Format) := [("console", .console), ("json", .json)]

def levels : List (String × Level) := Level.all.map fun l => (l.name, l)

/-- A depth is an integer from one on. -/
def readDepth? (word : String) : Option Int := do
  let i ← Number.readInt? 10 word.toList
  guard (1 ≤ i)
  return i

/-- An option read by `read?`: absent is fine, unreadable is not. -/
def optional? (a : Arguments) (name : String) (read? : String → Option α) : Option (Option α) :=
  match a.value? name with
  | none => some none
  | some word => (read? word).map some

def helpFlag : String := "help"

def mainOptions : Options := { long := ["log-level"], flags := [helpFlag] }

def parseOptions : Options :=
  { long := ["rules", "ruleset", "format", "output", "max-depth"]
    short := [('o', "output")]
    flags := [helpFlag] }

def rulesOptions : Options := { long := ["ruleset"], flags := [helpFlag] }

def ParseJob.read? (a : Arguments) : Option ParseJob := do
  let [file] := a.operands | none
  let rulesFile ← a.value? "rules"
  let format ← optional? a "format" (choose? formats)
  let maxDepth ← optional? a "max-depth" readDepth?
  return {
    file := file
    rulesFile := rulesFile
    ruleset := (a.value? "ruleset").getD defaultRuleset
    format := format.getD .console
    output := a.value? "output"
    maxDepth := maxDepth }

def RulesJob.read? (a : Arguments) : Option RulesJob := do
  let [file] := a.operands | none
  return { rulesFile := file, ruleset := (a.value? "ruleset").getD defaultRuleset }

/-- Reads the arguments of a command. -/
def Job.read? (options : Options) (read? : Arguments → Option Job) (level : Level)
    (args : List String) : Option Request := do
  let a ← options.read? true args
  if a.flags.contains helpFlag then return .help
  return .job level (← read? a)

def Request.read? (args : List String) : Option Request := do
  let a ← mainOptions.read? false args
  if a.flags.contains helpFlag then return .help
  let level ← optional? a "log-level" (choose? levels)
  match a.operands with
  | "parse" :: rest =>
    Job.read? parseOptions (fun a => .parse <$> ParseJob.read? a) (level.getD .warning) rest
  | "rules" :: rest =>
    Job.read? rulesOptions (fun a => .rules <$> RulesJob.read? a) (level.getD .warning) rest
  | _ => none

/-- A path as it is shown. -/
def shownPath (path : String) : String := String.ofList (Path.normal path.toList)

def helpText : String :=
  "Usage: ruletree [--log-level LEVEL] parse FILE --rules FILE [--ruleset NAME]\n" ++
  "                [--format console|json] [-o FILE] [--max-depth N]\n" ++
  "       ruletree [--log-level LEVEL] rules FILE [--ruleset NAME]\n"

end RuleTree.Command
