import Mathlib.Logic.Function.Basic
import RuleTree.Command.Run

/-!
# A parse is delivered as a whole or not at all

A `parse` command loads the rules, parses the text and renders the nodes, and only then touches the
disk. So it succeeds exactly if all three stages do, and a command that fails in one of them leaves
every file as it was, whether it handles the failure or not.

The files that the command reads are taken to be there, and the place of its output to be writable.
A parse that is not finished has no report, and then the command has none either.
-/

namespace RuleTree.Command

/-! ## Reports -/

namespace Report

/-- The command fails and writes nothing. -/
structure Fails (r : Report) : Prop where
  exitCode_ne : r.exitCode ≠ 0
  written_eq : r.written = []

/-- The disk after everything is written that the report says. -/
def applied (r : Report) (disk : Disk) : Disk :=
  r.written.foldl (fun d w => Function.update d w.1 (.file w.2.toList)) disk

theorem applied_of_written {r : Report} {path content : String}
    (h : r.written = [(path, content)]) (disk : Disk) :
    r.applied disk = Function.update disk path (.file content.toList) := by
  rw [applied, h, List.foldl_cons, List.foldl_nil]

theorem Fails.applied_eq {r : Report} (h : r.Fails) (disk : Disk) : r.applied disk = disk := by
  rw [applied, h.written_eq, List.foldl_nil]

theorem refused_fails (s : Settings) (log : List Record) (message : String) :
    (refused s log message).Fails :=
  ⟨Nat.one_ne_zero, rfl⟩

theorem crashed_fails (s : Option Settings) (log : List Record) (f : Failure) :
    (crashed s log f).Fails :=
  ⟨Nat.one_ne_zero, rfl⟩

end Report

/-! ## Stages -/

theorem observe_fst (steps : Nat) (level : Level) (limit : Option Int) (text : Text)
    (rules : RuleSet) : (observe steps level limit text rules).1 = parse steps limit text rules := by
  unfold observe
  split
  · exact Machine.runWatched_fst limit steps _ []
  · rfl

namespace ParseJob

variable {steps : Nat} {env : Environment} {current : Option Settings} {disk : Disk} {level : Level}
variable {job : ParseJob} {s : Settings} {rules : RuleSet} {nodes : List Node}

/-- The settings are settled, with the limit of the job in the place of the one in force if the job
has one, and the ruleset is loaded from its file. -/
structure Loads (env : Environment) (current : Option Settings) (disk : Disk) (job : ParseJob)
    (s : Settings) (rules : RuleSet) : Prop where
  settled : configure env current (shownPath job.rulesFile) job.ruleset job.maxDepth = .ok s
  opened : openRules disk (shownPath job.rulesFile) job.ruleset = .ok rules

/-- What parsing the text of the file comes to, under the limit in force. -/
def outcome (steps : Nat) (disk : Disk) (job : ParseJob) (s : Settings) (rules : RuleSet) :
    Option (Parse (List Node)) :=
  parse steps s.parser.maxDepth (contents disk job.file) rules

/-- Loading and parsing succeed. -/
def Parses (steps : Nat) (env : Environment) (current : Option Settings) (disk : Disk)
    (job : ParseJob) (nodes : List Node) : Prop :=
  ∃ s rules, job.Loads env current disk s rules ∧ job.outcome steps disk s rules = some (.ok nodes)

/-- Loading, parsing and rendering succeed. -/
def Completes (steps : Nat) (env : Environment) (current : Option Settings) (disk : Disk)
    (job : ParseJob) : Prop :=
  ∃ nodes, job.Parses steps env current disk nodes ∧
    (rendered job.format (shownPath job.file) nodes).isSome = true

theorem Loads.unique (h : job.Loads env current disk s rules) {s' : Settings} {rules' : RuleSet}
    (h' : job.Loads env current disk s' rules') : s = s' ∧ rules = rules' :=
  ⟨Except.ok.inj (h.settled.symm.trans h'.settled), Except.ok.inj (h.opened.symm.trans h'.opened)⟩

theorem Parses.unique (h : job.Parses steps env current disk nodes) {nodes' : List Node}
    (h' : job.Parses steps env current disk nodes') : nodes = nodes' := by
  obtain ⟨s, rules, hloads, hparse⟩ := h
  obtain ⟨s', rules', hloads', hparse'⟩ := h'
  obtain ⟨rfl, rfl⟩ := hloads.unique hloads'
  exact Except.ok.inj (Option.some.inj (hparse.symm.trans hparse'))

section Loading

variable (next : Settings → RuleSet → List Record → Option Report)

theorem withRules_of_loads (h : job.Loads env current disk s rules) :
    ∃ log, withRules env current disk job.rulesFile job.ruleset job.maxDepth next =
      next s rules log := by
  simp only [withRules, h.settled, h.opened]
  exact ⟨_, rfl⟩

theorem withRules_of_unloaded (h : ∀ s rules, ¬ job.Loads env current disk s rules) :
    ∃ r, withRules env current disk job.rulesFile job.ruleset job.maxDepth next = some r ∧
      r.Fails := by
  cases hs : configure env current (shownPath job.rulesFile) job.ruleset job.maxDepth with
  | error e =>
    simp only [withRules, hs]
    exact ⟨_, rfl, Report.crashed_fails _ _ _⟩
  | ok s =>
    cases hr : openRules disk (shownPath job.rulesFile) job.ruleset with
    | ok rules => exact absurd ⟨hs, hr⟩ (h s rules)
    | error e =>
      cases hm : loadMessage? e with
      | some m =>
        simp only [withRules, hs, hr, hm]
        exact ⟨_, rfl, Report.refused_fails _ _ _⟩
      | none =>
        simp only [withRules, hs, hr, hm]
        exact ⟨_, rfl, Report.crashed_fails _ _ _⟩

end Loading

section Parsing

variable (level) (h : job.Loads env current disk s rules)
include h

theorem run_of_unfinished (hparse : job.outcome steps disk s rules = none) :
    job.run steps env current disk level = none := by
  obtain ⟨log, hrun⟩ := withRules_of_loads _ h
  have hobserve := (observe_fst steps level _ _ _).trans hparse
  rw [run, hrun]
  simp only [hobserve]

theorem run_of_error {e : ParseError} (hparse : job.outcome steps disk s rules = some (.error e)) :
    ∃ r, job.run steps env current disk level = some r ∧ r.Fails := by
  obtain ⟨log, hrun⟩ := withRules_of_loads _ h
  have hobserve := (observe_fst steps level _ _ _).trans hparse
  rw [run, hrun]
  simp only [hobserve]
  cases parseMessage? e with
  | some m => exact ⟨_, rfl, Report.refused_fails _ _ _⟩
  | none => exact ⟨_, rfl, Report.crashed_fails _ _ _⟩

theorem run_of_nodes (hparse : job.outcome steps disk s rules = some (.ok nodes)) :
    ∃ log, job.run steps env current disk level = some (deliver disk s log job nodes) := by
  obtain ⟨log, hrun⟩ := withRules_of_loads _ h
  have hobserve := (observe_fst steps level _ _ _).trans hparse
  rw [run, hrun]
  simp only [hobserve]
  exact ⟨_, rfl⟩

end Parsing

section Delivery

variable (s) (log : List Record)

theorem deliver_of_unrendered (h : rendered job.format (shownPath job.file) nodes = none) :
    (deliver disk s log job nodes).Fails := by
  rw [deliver, h]
  exact Report.crashed_fails _ _ _

/-- The output can be written if it goes to a file. -/
def Writable (disk : Disk) (job : ParseJob) : Prop :=
  ∀ path, job.output = some path → writeFailure? disk (shownPath path) = none

/-- What is delivered goes to the output file alone, if there is one. -/
theorem deliver_of_rendered {content printed : String} (hwritable : job.Writable disk)
    (h : rendered job.format (shownPath job.file) nodes = some (content, printed)) :
    (deliver disk s log job nodes).exitCode = 0 ∧
    (deliver disk s log job nodes).written =
      job.output.toList.map fun path => (shownPath path, content) := by
  rw [deliver, h]
  cases houtput : job.output with
  | none => exact ⟨rfl, rfl⟩
  | some path =>
    simp only [hwritable path houtput, Option.toList_some, List.map_cons, List.map_nil, and_self]

end Delivery

/-- Everything that a run can come to. -/
inductive Ends (steps : Nat) (env : Environment) (current : Option Settings) (disk : Disk)
    (job : ParseJob) : Option Report → Prop
  | unfinished {s : Settings} {rules : RuleSet} :
      job.Loads env current disk s rules → job.outcome steps disk s rules = none →
      Ends steps env current disk job none
  | failed {r : Report} :
      r.Fails → ¬ job.Completes steps env current disk → Ends steps env current disk job (some r)
  | delivered {r : Report} {nodes : List Node} {content printed : String} :
      job.Parses steps env current disk nodes →
      rendered job.format (shownPath job.file) nodes = some (content, printed) →
      r.exitCode = 0 → r.written = job.output.toList.map (fun path => (shownPath path, content)) →
      Ends steps env current disk job (some r)

theorem run_ends_of_nodes (hwritable : job.Writable disk) (h : job.Loads env current disk s rules)
    (hparse : job.outcome steps disk s rules = some (.ok nodes)) :
    job.Ends steps env current disk (job.run steps env current disk level) := by
  have hparses : job.Parses steps env current disk nodes := ⟨s, rules, h, hparse⟩
  obtain ⟨log, hrun⟩ := run_of_nodes level h hparse
  rw [hrun]
  cases hrendered : rendered job.format (shownPath job.file) nodes with
  | none =>
    refine .failed (deliver_of_unrendered s log hrendered) ?_
    rintro ⟨nodes', hparses', hsome⟩
    rw [← hparses.unique hparses', hrendered] at hsome
    cases hsome
  | some texts =>
    obtain ⟨content, printed⟩ := texts
    obtain ⟨hcode, hwritten⟩ := deliver_of_rendered s log hwritable hrendered
    exact .delivered hparses hrendered hcode hwritten

theorem run_ends (hwritable : job.Writable disk) :
    job.Ends steps env current disk (job.run steps env current disk level) := by
  by_cases hload : ∃ s rules, job.Loads env current disk s rules
  · obtain ⟨s, rules, h⟩ := hload
    cases hparse : job.outcome steps disk s rules with
    | none =>
      rw [run_of_unfinished level h hparse]
      exact .unfinished h hparse
    | some result =>
      cases result with
      | ok nodes => exact run_ends_of_nodes hwritable h hparse
      | error e =>
        obtain ⟨r, hrun, hfails⟩ := run_of_error level h hparse
        rw [hrun]
        refine .failed hfails ?_
        rintro ⟨nodes, ⟨s', rules', h', hparse'⟩, -⟩
        obtain ⟨rfl, rfl⟩ := h.unique h'
        rw [hparse] at hparse'
        cases hparse'
  · have hunloaded : ∀ s rules, ¬ job.Loads env current disk s rules :=
      fun s rules h => hload ⟨s, rules, h⟩
    obtain ⟨r, hrun, hfails⟩ := withRules_of_unloaded _ hunloaded
    rw [run, hrun]
    refine .failed hfails ?_
    rintro ⟨nodes, ⟨s, rules, h, -⟩, -⟩
    exact hunloaded s rules h

theorem run_eq_none_iff (hwritable : job.Writable disk) :
    job.run steps env current disk level = none ↔
      ∃ s rules, job.Loads env current disk s rules ∧ job.outcome steps disk s rules = none := by
  constructor
  · intro hrun
    have hends : job.Ends steps env current disk none := hrun ▸ run_ends hwritable
    cases hends with
    | unfinished h hparse => exact ⟨_, _, h, hparse⟩
  · rintro ⟨s, rules, h, hparse⟩
    exact run_of_unfinished level h hparse

end ParseJob

/-! ## The command -/

theorem renderJson?_of_rendered {title : String} {nodes : List Node} {content printed : String}
    (h : rendered .json title nodes = some (content, printed)) :
    Node.renderJson? .pretty nodes = some content := by
  obtain ⟨text, htext, heq⟩ := Option.map_eq_some_iff.mp h
  rw [htext, (Prod.mk.inj heq).1]

theorem run_parse_eq {args : List String} {level : Level} {job : ParseJob} {disk : Disk}
    (hargs : Request.read? args = some (.job level (.parse job)))
    (hfile : (disk job.file).isFile = true) (hrules : (disk job.rulesFile).isFile = true)
    (steps : Nat) (env : Environment) (current : Option Settings) :
    run steps env current disk args =
      (job.run steps env current disk level).map (Report.atLevel level) := by
  rw [run, hargs]
  simp [Job.inputs, hfile, hrules, Job.run]

/-- A `parse` command is all or nothing. It has a report unless the parse is not finished. Its exit
code is zero exactly if loading, parsing and rendering all succeed; then a file for JSON output
contains the JSON text of the nodes, and otherwise every file is as before. -/
theorem run_parse_all_or_nothing {args : List String} {level : Level} {job : ParseJob} {disk : Disk}
    (hargs : Request.read? args = some (.job level (.parse job)))
    (hfile : (disk job.file).isFile = true) (hrules : (disk job.rulesFile).isFile = true)
    (hwritable : job.Writable disk) (steps : Nat) (env : Environment) (current : Option Settings) :
    (run steps env current disk args = none ↔
      ∃ s rules, job.Loads env current disk s rules ∧ job.outcome steps disk s rules = none) ∧
    ∀ r, run steps env current disk args = some r →
      (r.exitCode = 0 ↔ job.Completes steps env current disk) ∧
      (r.exitCode = 0 → job.format = .json → ∀ path, job.output = some path →
        ∃ nodes content, job.Parses steps env current disk nodes ∧
          Node.renderJson? .pretty nodes = some content ∧
          r.applied disk = Function.update disk (shownPath path) (.file content.toList)) ∧
      (r.exitCode ≠ 0 → r.applied disk = disk) := by
  rw [run_parse_eq hargs hfile hrules]
  refine ⟨Option.map_eq_none_iff.trans (ParseJob.run_eq_none_iff hwritable), ?_⟩
  intro r hr
  obtain ⟨report, hreport, rfl⟩ := Option.map_eq_some_iff.mp hr
  have hends : job.Ends steps env current disk (some report) :=
    hreport ▸ ParseJob.run_ends hwritable
  -- The level only filters the log, so the code and the writes are those of the job.
  cases hends with
  | failed hfails hincomplete =>
    exact ⟨iff_of_false hfails.exitCode_ne hincomplete,
      fun hcode => absurd hcode hfails.exitCode_ne, fun _ => hfails.applied_eq disk⟩
  | delivered hparses hrendered hcode hwritten =>
    refine ⟨iff_of_true hcode ⟨_, hparses, by rw [hrendered, Option.isSome_some]⟩, ?_,
      fun hne => absurd hcode hne⟩
    intro _ hjson path hpath
    rw [hjson] at hrendered
    rw [hpath, Option.toList_some, List.map_cons, List.map_nil] at hwritten
    exact ⟨_, _, hparses, renderJson?_of_rendered hrendered,
      Report.applied_of_written hwritten disk⟩

/-- A directory with a text, two rule files and an earlier result. The rule of the second file stays
in force inside its own matches. -/
def bench : Disk
  | "." => .directory
  | "in" => .file ['a']
  | "flat" =>
    .file "rulesets: \x7bdefault: \x7brules: [\x7bname: v, match: a\x7d]\x7d\x7d".toList
  | "deep" =>
    .file
      "rulesets: \x7bdefault: \x7brules: [\x7bname: v, match: a, exclude: []\x7d]\x7d\x7d".toList
  | "out" => .file ['o', 'l', 'd']
  | _ => .absent

def benchArgs (rulesFile : String) : List String :=
  ["parse", "in", "--rules", rulesFile, "--format", "json", "-o", "out", "--max-depth", "1"]

def benchJob (rulesFile : String) : ParseJob where
  file := "in"
  rulesFile := rulesFile
  ruleset := defaultRuleset
  format := .json
  output := some "out"
  maxDepth := some 1

theorem benchJob_writable (rulesFile : String) : (benchJob rulesFile).Writable bench := by
  intro path h
  cases h
  decide +kernel

/-- With the first rule file the nodes replace the earlier result. With the second one the matches
nest too deep, and the earlier result stays. -/
theorem run_parse_bench :
    Request.read? (benchArgs "flat") = some (.job .warning (.parse (benchJob "flat"))) ∧
    Request.read? (benchArgs "deep") = some (.job .warning (.parse (benchJob "deep"))) ∧
    (bench "in").isFile = true ∧ (bench "flat").isFile = true ∧ (bench "deep").isFile = true ∧
    (benchJob "flat").Writable bench ∧ (benchJob "deep").Writable bench ∧
    (∃ r nodes content, run 9 [] none bench (benchArgs "flat") = some r ∧ r.exitCode = 0 ∧
      (benchJob "flat").Parses 9 [] none bench nodes ∧
      Node.renderJson? .pretty nodes = some content ∧
      r.applied bench = Function.update bench "out" (.file content.toList)) ∧
    ∃ r, run 9 [] none bench (benchArgs "deep") = some r ∧ r.exitCode = 1 ∧
      r.applied bench = bench := by
  have hflat : Request.read? (benchArgs "flat") =
      some (.job .warning (.parse (benchJob "flat"))) := by decide +kernel
  have hdeep : Request.read? (benchArgs "deep") =
      some (.job .warning (.parse (benchJob "deep"))) := by decide +kernel
  refine ⟨hflat, hdeep, rfl, rfl, rfl, benchJob_writable _, benchJob_writable _, ?_, ?_⟩
  · have hcode : (run 9 [] none bench (benchArgs "flat")).map (·.exitCode) = some 0 := by
      decide +kernel
    obtain ⟨r, hrun, hzero⟩ := Option.map_eq_some_iff.mp hcode
    obtain ⟨-, hwritten, -⟩ :=
      (run_parse_all_or_nothing hflat rfl rfl (benchJob_writable _) 9 [] none).2 r hrun
    obtain ⟨nodes, content, hparses, hcontent, happlied⟩ := hwritten hzero rfl "out" rfl
    exact ⟨r, nodes, content, hrun, hzero, hparses, hcontent, happlied⟩
  · have hcode : (run 9 [] none bench (benchArgs "deep")).map (·.exitCode) = some 1 := by
      decide +kernel
    obtain ⟨r, hrun, hone⟩ := Option.map_eq_some_iff.mp hcode
    obtain ⟨-, -, huntouched⟩ :=
      (run_parse_all_or_nothing hdeep rfl rfl (benchJob_writable _) 9 [] none).2 r hrun
    exact ⟨r, hrun, hone, huntouched (by rw [hone]; decide)⟩

end RuleTree.Command
