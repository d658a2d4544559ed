import RuleTree.Command.Basic
import RuleTree.Console.Outline
import RuleTree.Console.Table
import RuleTree.Json.Encode
import RuleTree.RuleFile.Load
import RuleTree.Settings

/-!
# Running commands

A command is a function of its arguments, the environment, the settings chosen before and the files
it can see. Its report says what it prints, logs and writes; nothing is written unless the command
succeeds. A parse that is not finished within the given number of steps has no report.
-/

namespace RuleTree.Command

/-- What stands at a path. -/
inductive Entry where
  | absent
  | directory
  | file (text : Text)
deriving DecidableEq, Repr

def Entry.isFile : Entry → Bool
  | file _ => true
  | _ => false

abbrev Disk := String → Entry

/-- A failure that a command does not handle. -/
inductive Failure where
  | settings (e : SettingsError)
  | load (e : RuleFile.LoadError)
  | parse (e : ParseError)
  /-- An option holds a key that JSON cannot have. -/
  | unencodable
  | missingDirectory
  | notADirectory
  | isDirectory

structure Report where
  exitCode : Nat
  output : Text := []
  log : List Record := []
  /-- Paths with what was written there. -/
  written : List (String × String) := []
  failure : Option Failure := none
  /-- The settings in force afterwards, if any were chosen. -/
  settings : Option Settings

/-! ## Messages -/

def loadMessage? : RuleFile.LoadError → Option String
  | .malformed m => some m.message
  | .missingFile path => some (RuleFile.missingFileMessage path)
  | _ => none

def parseMessage? : ParseError → Option String
  | .contract v => some v.message
  | .tooDeep rule limit => some (ParseError.tooDeepMessage rule limit)
  | _ => none

def errorLines (message : String) : Text :=
  Markup.print ("[bold red]Error:[/bold red] ".toList ++ Markup.escape message.toList)

namespace Report

/-- A report of a failure that was handled. -/
def refused (settings : Settings) (log : List Record) (message : String) : Report :=
  { exitCode := 1, output := errorLines message, log := log, settings := some settings }

/-- A report of a failure that was not handled. -/
def crashed (settings : Option Settings) (log : List Record) (failure : Failure) : Report :=
  { exitCode := 1, log := log, failure := some failure, settings := settings }

def misused (settings : Option Settings) : Report := { exitCode := 2, settings := settings }

end Report

/-! ## Stages -/

/-- The settings of a command: a depth given as an option replaces the one in force. -/
def configure (env : Environment) (current : Option Settings) (rulesFile ruleset : String)
    (maxDepth : Option Int) : Except SettingsError Settings := do
  let now ← Settings.inForce env current
  Settings.ofParts env ⟨maxDepth.or now.parser.maxDepth⟩ ⟨some rulesFile, ruleset⟩

def openRules (disk : Disk) (rulesFile ruleset : String) : Except RuleFile.LoadError RuleSet :=
  match disk rulesFile with
  | .file t => RuleFile.loadText (Text.unifyBreaks t) (some (.str ruleset))
  | .absent => .error (.missingFile rulesFile)
  | .directory => .error (.directory rulesFile)

/-- Settles the settings and loads the rules before anything else is done. -/
def withRules (env : Environment) (current : Option Settings) (disk : Disk)
    (rulesFile ruleset : String) (maxDepth : Option Int)
    (next : Settings → RuleSet → List Record → Option Report) : Option Report :=
  let file := shownPath rulesFile
  match configure env current file ruleset maxDepth with
  | .error e => some (.crashed current [] (.settings e))
  | .ok s =>
    let log := [Record.loading ruleset file]
    match openRules disk file ruleset with
    | .ok rules => next s rules (log ++ [.loaded rules])
    | .error e =>
      match loadMessage? e with
      | some m => some (.refused s (log ++ [.loadFailed m]) m)
      | none => some (.crashed (some s) log (.load e))

/-- The first of some directories, outermost first, that is not there. -/
def obstacle? (disk : Disk) : List Text → Option Failure
  | [] => none
  | d :: ds =>
    match disk (String.ofList d) with
    | .directory => obstacle? disk ds
    | .file _ => some .notADirectory
    | .absent => some .missingDirectory

/-- Why no file can be written at a path: a directory on the way is not there, or the path itself is
a directory. -/
def writeFailure? (disk : Disk) (path : String) : Option Failure :=
  match obstacle? disk (Path.ancestors path.toList) with
  | some f => some f
  | none =>
    match disk path with
    | .directory => some .isDirectory
    | _ => none

/-- The nodes as text: what goes to a file and what is printed. -/
def rendered (format : Format) (title : String) (nodes : List Node) : Option (String × String) :=
  match format with
  | .json => (Node.renderJson? .pretty nodes).map fun s => (s, s ++ "\n")
  | .console =>
    let s := (Outline.build title nodes).render
    some (s, s)

/-- Prints or writes the nodes. -/
def deliver (disk : Disk) (settings : Settings) (log : List Record) (job : ParseJob)
    (nodes : List Node) : Report :=
  match rendered job.format (shownPath job.file) nodes with
  | none => .crashed (some settings) log .unencodable
  | some (content, printed) =>
    match job.output with
    | none =>
      { exitCode := 0, output := printed.toList, log := log, settings := some settings }
    | some path =>
      let path := shownPath path
      match writeFailure? disk path with
      | some f => .crashed (some settings) log f
      | none =>
        { exitCode := 0, log := log, written := [(path, content)], settings := some settings }

/-- The contents of a text file, with all breaks alike. -/
def contents (disk : Disk) (path : String) : Text :=
  match disk path with
  | .file t => Text.unifyBreaks t
  | _ => []

/-- Parses and, where details are asked for, also watches. -/
def observe (steps : Nat) (level : Level) (limit : Option Int) (text : Text) (rules : RuleSet) :
    Option (Parse (List Node)) × List Event :=
  if level.admits .debug then parseWatched steps limit text rules
  else (parse steps limit text rules, [])

def ParseJob.run (steps : Nat) (env : Environment) (current : Option Settings) (disk : Disk)
    (level : Level) (job : ParseJob) : Option Report :=
  withRules env current disk job.rulesFile job.ruleset job.maxDepth fun s rules log =>
    let file := shownPath job.file
    let text := contents disk job.file
    let (outcome, seen) := observe steps level s.parser.maxDepth text rules
    let log := log ++ Record.parsing text rules :: seen.filterMap Record.ofEvent?
    match outcome with
    | none => none
    | some (.ok nodes) => some (deliver disk s (log ++ [.parsed file nodes]) job nodes)
    | some (.error e) =>
      match parseMessage? e with
      | some m => some (.refused s (log ++ [.parseFailed file m]) m)
      | none => some (.crashed (some s) log (.parse e))

def rulesetHeading (name : String) : Text :=
  Markup.print ("\n[bold blue]Ruleset: ".toList ++ Markup.escape name.toList ++
    "[/bold blue]\n".toList)

def noRules : Text :=
  Markup.print "  [dim]No rules - input is kept as literal text[/dim]\n".toList

def RulesJob.run (env : Environment) (current : Option Settings) (disk : Disk) (job : RulesJob) :
    Option Report :=
  withRules env current disk job.rulesFile job.ruleset none fun s rules log =>
    let listing := if rules.isEmpty then noRules else (Table.ofRules rules).toList
    some { exitCode := 0, output := rulesetHeading job.ruleset ++ listing, log := log,
           settings := some s }

/-! ## Commands -/

/-- The files that must be there before a command starts. -/
def Job.inputs : Job → List String
  | .parse job => [job.file, job.rulesFile]
  | .rules job => [job.rulesFile]

/-- All paths that a command looks at. -/
def Job.paths : Job → List String
  | .parse job =>
    [job.file, job.rulesFile, shownPath job.file, shownPath job.rulesFile] ++
      match job.output with
      | none => []
      | some path =>
        shownPath path ::
          (Path.ancestors (Path.normal path.toList)).map fun d => String.ofList d
  | .rules job => [job.rulesFile, shownPath job.rulesFile]

def Job.run (steps : Nat) (env : Environment) (current : Option Settings) (disk : Disk)
    (level : Level) : Job → Option Report
  | .parse job => job.run steps env current disk level
  | .rules job => job.run env current disk

/-- Drops the records below a level. -/
def Report.atLevel (level : Level) (r : Report) : Report :=
  { r with log := r.log.filter fun x => level.admits x.level }

/-- Runs the command that the arguments ask for. -/
def run (steps : Nat) (env : Environment) (current : Option Settings) (disk : Disk)
    (args : List String) : Option Report :=
  match Request.read? args with
  | none => some (.misused current)
  | some .help => some { exitCode := 0, output := helpText.toList, settings := current }
  | some (.job level job) =>
    if job.inputs.all fun path => (disk path).isFile then
      (job.run steps env current disk level).map (Report.atLevel level)
    else some (.misused current)

end RuleTree.Command
