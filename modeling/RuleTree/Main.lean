import RuleTree.Command.Run

/-!
# The program

Reads what a command may look at, runs it and carries out its report. Settings are taken from
variables that start with `RULETREE_`.
-/

namespace RuleTree.Program

open RuleTree.Command

def sources : List (String × String) :=
  [("RULETREE_PARSER", "parser"), ("RULETREE_RULES", "rules"),
    ("RULETREE_PARSER_MAX_DEPTH", "parser_max_depth"),
    ("RULETREE_RULES_RULES_FILE", "rules_rules_file"),
    ("RULETREE_RULES_RULESET", "rules_ruleset")]

def environment : IO Environment :=
  sources.filterMapM fun (variableName, name) => do
    return (← IO.getEnv variableName).map fun value => (name, value)

def entry (path : String) : IO Entry := do
  try
    return .file (← IO.FS.readFile path).toList
  catch
    | .noFileOrDirectory .. => return .absent
    | _ => return .directory

/-- The entries at the paths that a command looks at. -/
def disk (args : List String) : IO Disk := do
  match Request.read? args with
  | some (.job _ job) =>
    let entries ← job.paths.mapM fun path => return (path, ← entry path)
    return fun path => (entries.lookup path).getD .absent
  | _ => return fun _ => .absent

/-- More steps than can be made in practice. -/
def steps : Nat := Nat.pow 2 60

def carryOut (report : Report) : IO UInt32 := do
  for record in report.log do
    IO.eprintln (record.level.name ++ " " ++ record.message)
  for (path, content) in report.written do
    IO.FS.writeFile path content
  IO.print (String.ofList report.output)
  if report.exitCode = 2 then IO.eprint helpText
  if report.failure.isSome then IO.eprintln "The command failed."
  return report.exitCode.toUInt32

end RuleTree.Program

open RuleTree RuleTree.Program in
def main (args : List String) : IO UInt32 := do
  match Command.run steps (← environment) none (← disk args) args with
  | some report => carryOut report
  | none => return 1
