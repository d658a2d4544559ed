import Mathlib.Logic.Equiv.Basic
import RuleTree.Proofs.Node.Contents
import RuleTree.Proofs.Parse.Termination
import RuleTree.Proofs.Rule.Renaming

/-!
# Parses under renamed rules

The machine looks at the names of rules where it derives child rules, and there only whether two of them
are equal; it writes them into branches and errors. A machine whose rules are renamed, with different
names for different ones, therefore makes the same steps, and what it returns is renamed in the same way.
This holds of every machine, whether a parse can reach it or not.
-/

namespace RuleTree

/-! ## What is renamed -/

mutual

/-- The node with the names of all branches given anew. Texts and options stay. -/
def Node.renamed (f : String → String) : Node → Node
  | .text t => .text t
  | .branch n cs => .branch (f n) (Node.renamedAll f cs)
  | .tagged n cs v => .tagged (f n) (Node.renamedAll f cs) v

def Node.renamedAll (f : String → String) : List Node → List Node
  | [] => []
  | n :: ns => n.renamed f :: Node.renamedAll f ns

end

/-- The same violation of a rule with a new name. Matchers keep theirs. -/
def Violation.renamed (f : String → String) : Violation → Violation
  | outsideInput rule span size => outsideInput (f rule) span size
  | nothingConsumed rule => nothingConsumed (f rule)
  | captureBeyondSpans rule capture count => captureBeyondSpans (f rule) capture count
  | captureAbsent rule => captureAbsent (f rule)
  | captureBeyondMatch rule span stop => captureBeyondMatch (f rule) span stop
  | notAPair matcher item => notAPair matcher item
  | badSpan matcher item => badSpan matcher item
  | noSpans matcher => noSpans matcher

/-- An error of the same kind, about the rule with the new name if it is about a rule. -/
def ParseError.renamed (f : String → String) : ParseError → ParseError
  | contract v => contract (v.renamed f)
  | tooDeep rule limit => tooDeep (f rule) limit
  | notIterable => notIterable
  | noSuchSpan => noSuchSpan
  | raised r => raised r

/-- An outcome with its errors renamed and its result changed by `g`. -/
def Parse.renamed {α β : Type} (f : String → String) (g : α → β) : Parse α → Parse β
  | .ok a => .ok (g a)
  | .error e => .error (e.renamed f)

def Match.renamed (f : String → String) (m : Match) : Match := ⟨m.rule.renamed f, m.spans⟩

/-- A construction whose rules are renamed; its texts stay. -/
def Construction.renamed (f : String → String) (c : Construction) : Construction :=
  { c with found := c.found.renamed f, childRules := c.childRules.renamed f }

def Shaped.renamed (f : String → String) : Shaped → Shaped
  | node n => node (n.renamed f)
  | splice ns => splice (Node.renamedAll f ns)

def Frame.renamed (f : String → String) (frame : Frame) : Frame :=
  { frame with
    rules := frame.rules.renamed f
    construction := frame.construction.map (Construction.renamed f)
    nodes := Node.renamedAll f frame.nodes }

def Machine.renamed (f : String → String) (m : Machine) : Machine :=
  ⟨m.top.renamed f, m.below.map (Frame.renamed f)⟩

def Progress.renamed (f : String → String) : Progress → Progress
  | running m => running (m.renamed f)
  | finished nodes => finished (Node.renamedAll f nodes)

variable {f : String → String}

theorem Node.renamedAll_append (ns ms : List Node) :
    renamedAll f (ns ++ ms) = renamedAll f ns ++ renamedAll f ms := by
  induction ns with
  | nil => rfl
  | cons n ns ih => rw [List.cons_append, renamedAll, ih, renamedAll, List.cons_append]

theorem Shaped.nodes_renamed (s : Shaped) : (s.renamed f).nodes = Node.renamedAll f s.nodes := by
  cases s <;> rfl

/-! ## Outcomes -/

namespace Parse

variable {α α' β β' : Type} {g : α → α'} {h : β → β'}

/-- Renaming goes through a sequence if it goes through what follows the first step. -/
theorem renamed_bind {x : Parse α} {k : α → Parse β} {k' : α' → Parse β'}
    (hk : ∀ a, k' (g a) = Parse.renamed f h (k a)) :
    Parse.renamed f g x >>= k' = Parse.renamed f h (x >>= k) := by
  cases x with
  | error e => rfl
  | ok a => exact hk a

/-- The outcome is not an error about a rule, so that it does not depend on names of rules. -/
def Nameless (f : String → String) (x : Parse α) : Prop := Parse.renamed f id x = x

namespace Nameless

theorem ok (a : α) : Nameless f (.ok a) := rfl

theorem call (x : Except Raised α) : Nameless f (Parse.call x) := by
  cases x <;> rfl

/-- What comes before a renaming and names no rule is left as it is. -/
theorem bind_eq {x : Parse α} {k : α → Parse β} {k' : α → Parse β'} (hx : Nameless f x)
    (hk : ∀ a, k' a = Parse.renamed f h (k a)) : x >>= k' = Parse.renamed f h (x >>= k) := by
  rw [← renamed_bind (g := id) hk, hx]

theorem bind {x : Parse α} {k : α → Parse β} (hx : Nameless f x) (hk : ∀ a, Nameless f (k a)) :
    Nameless f (x >>= k) :=
  (hx.bind_eq fun a => (hk a).symm).symm

end Nameless

end Parse

open Parse (Nameless)

/-! ## Matches -/

theorem MatcherFunction.span_nameless (name : String) (item : Datum) :
    Nameless f (span name item) := by
  unfold span
  split
  · split
    · split
      · rfl
      · rfl
    · rfl
  · rfl

theorem Matcher.spans_nameless (m : Matcher) (t : Text) : Nameless f (m.spans t) := by
  have hmapM : ∀ name items, Nameless f (List.mapM (MatcherFunction.span name) items) := by
    intro name items
    induction items with
    | nil => exact .ok []
    | cons item items ih =>
      rw [List.mapM_cons]
      exact (MatcherFunction.span_nameless name item).bind fun _ => ih.bind fun _ => .ok _
  cases m with
  | pattern p => rfl
  | function g =>
    refine (Nameless.call _).bind fun v => ?_
    unfold MatcherFunction.spans
    split
    · rfl
    · split
      · rfl
      · refine (hmapM _ _).bind fun spans => ?_
        split <;> rfl

theorem RuleSet.findMatch_renamed (rules : RuleSet) (t : Text) :
    (rules.renamed f).findMatch t =
      Parse.renamed f (Option.map (Match.renamed f)) (rules.findMatch t) := by
  induction rules with
  | nil => rfl
  | cons r rs ih =>
    rw [renamed, findMatch, findMatch, Rule.renamed_matcher]
    refine (r.matcher.spans_nameless t).bind_eq fun found => ?_
    cases found with
    | none => exact ih
    | some spans => rfl

namespace Match

variable (m : Match)

@[simp] theorem renamed_rule : (m.renamed f).rule = m.rule.renamed f := rfl

@[simp] theorem renamed_spans : (m.renamed f).spans = m.spans := rfl

theorem consumedEnd_renamed (text : Text) :
    (m.renamed f).consumedEnd text = Parse.renamed f id (m.consumedEnd text) := by
  unfold consumedEnd
  rw [renamed_spans, renamed_rule, Rule.renamed_name]
  cases m.spans with
  | nil => rfl
  | cons entire others =>
    simp only
    split
    · rfl
    · split <;> rfl

theorem captureSpan_renamed :
    (m.renamed f).captureSpan = Parse.renamed f id m.captureSpan := by
  unfold captureSpan
  rw [renamed_spans, renamed_rule, Rule.renamed_capture, Rule.renamed_name]
  cases m.rule.capture with
  | none =>
    simp only
    cases m.spans.getLast? <;> rfl
  | some k =>
    simp only
    split
    · rfl
    · cases entryAt? m.spans k <;> rfl

theorem cut_renamed (text : Text) : (m.renamed f).cut text = Parse.renamed f id (m.cut text) := by
  unfold cut
  rw [consumedEnd_renamed, captureSpan_renamed, renamed_rule, Rule.renamed_name]
  refine Parse.renamed_bind fun stop => Parse.renamed_bind fun capture => ?_
  simp only [id]
  split
  · rfl
  · split <;> rfl

theorem prepare_renamed (hf : Function.Injective f) (text : Text) (rules : RuleSet) :
    (m.renamed f).prepare text (rules.renamed f) =
      Parse.renamed f (Construction.renamed f) (m.prepare text rules) := by
  have hformat : ∀ t, Nameless f (Formatter.format m.rule.formatter t) := by
    intro t
    cases m.rule.formatter with
    | none => exact .ok _
    | some formatter =>
      cases formatter with
      | literal s => exact .ok _
      | function g => exact .call _
  unfold prepare
  rw [cut_renamed, renamed_rule, Rule.renamed_formatter, Rule.childRules_renamed hf]
  refine Parse.renamed_bind fun cut => ?_
  exact (hformat cut.1).bind_eq fun payload => rfl

end Match

theorem Construction.shape_renamed (c : Construction) (children : List Node) :
    (c.renamed f).shape (Node.renamedAll f children) =
      Parse.renamed f (Shaped.renamed f) (c.shape children) := by
  have hname : (c.renamed f).found.rule.name = f c.found.rule.name := Rule.renamed_name _
  have hskip : (c.renamed f).found.rule.skip = c.found.rule.skip := Rule.renamed_skip _
  have hoption : (c.renamed f).found.rule.option = c.found.rule.option := Rule.renamed_option _
  simp only [shape, hname, hskip, hoption]
  split
  · rfl
  · cases c.found.rule.option with
    | none => rfl
    | some o =>
      have hvalue : Nameless f (o.value c.source c.found.spans) := by
        cases o with
        | literal v => exact .ok v
        | function g => exact .call _
      exact hvalue.bind_eq fun v => rfl

/-! ## Frames -/

namespace Frame

variable (frame : Frame)

theorem closeLiteral_renamed :
    (frame.renamed f).closeLiteral = frame.closeLiteral.renamed f := by
  cases hs : frame.literalStart with
  | none => simp only [closeLiteral, renamed, hs]
  | some start =>
    simp only [closeLiteral, renamed, hs, Node.renamedAll_append]
    rfl

theorem consume_renamed (n : Int) : (frame.renamed f).consume n = (frame.consume n).renamed f := by
  simp only [consume, closeLiteral_renamed]
  rfl

theorem add_renamed (s : Shaped) : (frame.renamed f).add (s.renamed f) = (frame.add s).renamed f := by
  simp only [add, renamed, Node.renamedAll_append, Shaped.nodes_renamed]

/-- A step of a frame does not depend on the names of its rules. -/
theorem step_renamed (hf : Function.Injective f) :
    (frame.renamed f).step =
      Parse.renamed f (fun p => (p.1.renamed f, p.2.map (Construction.renamed f))) frame.step := by
  have hempty : (frame.renamed f).rules.isEmpty = frame.rules.isEmpty := by
    simp only [renamed, RuleSet.renamed_eq_map, List.isEmpty_map]
  unfold step
  rw [hempty]
  split
  · rfl
  · refine (congrArg (· >>= _) (frame.rules.findMatch_renamed frame.remaining)).trans ?_
    refine Parse.renamed_bind fun found => ?_
    cases found with
    | none => rfl
    | some m =>
      refine (congrArg (· >>= _) (m.prepare_renamed hf frame.remaining frame.rules)).trans ?_
      refine Parse.renamed_bind fun c => ?_
      simp only [Match.renamed_rule, Rule.renamed_ignore]
      split
      · exact congrArg (fun g => Except.ok (g, none)) (frame.consume_renamed _)
      · exact congrArg (fun g => Except.ok (g, some (c.renamed f))) (frame.consume_renamed _)

end Frame

/-! ## Machines -/

namespace Machine

variable (m : Machine)

theorem pop_renamed : (m.renamed f).pop = Parse.renamed f (Progress.renamed f) m.pop := by
  obtain ⟨top, below⟩ := m
  have hnodes : (top.renamed f).closeLiteral.nodes = Node.renamedAll f top.closeLiteral.nodes := by
    rw [Frame.closeLiteral_renamed]
    rfl
  have hcon : (top.renamed f).construction = top.construction.map (Construction.renamed f) := rfl
  cases below with
  | nil => exact congrArg (fun nodes => Except.ok (Progress.finished nodes)) hnodes
  | cons parent below =>
    cases hc : top.construction with
    | none =>
      rw [hc, Option.map_none] at hcon
      have hadd := parent.add_renamed (f := f) (.splice top.closeLiteral.nodes)
      rw [Shaped.renamed] at hadd
      simp only [pop, renamed, List.map_cons, hcon, hc, hnodes, hadd]
      rfl
    | some c =>
      rw [hc, Option.map_some] at hcon
      simp only [pop, renamed, List.map_cons, hcon, hc, hnodes, c.shape_renamed]
      refine Parse.renamed_bind fun shaped => ?_
      rw [Frame.add_renamed]
      rfl

/-- A step of the renamed machine is the step of the machine, renamed. -/
theorem step_renamed (hf : Function.Injective f) (limit : Option Int) :
    (m.renamed f).step limit = Parse.renamed f (Progress.renamed f) (m.step limit) := by
  have hdepth : (m.renamed f).depth = m.depth := List.length_map _
  have hexceeds : (m.renamed f).exceeds limit = m.exceeds limit := by
    unfold exceeds
    rw [hdepth]
  unfold step
  rw [show (m.renamed f).top.exhausted = m.top.exhausted from rfl, hexceeds]
  split
  · exact m.pop_renamed
  · refine (congrArg (· >>= _) (m.top.step_renamed hf)).trans ?_
    refine Parse.renamed_bind fun stepped => ?_
    obtain ⟨g, c⟩ := stepped
    cases c with
    | none => rfl
    | some c =>
      cases limit with
      | none => rfl
      | some most =>
        simp only [Option.map_some]
        split
        · rw [Construction.renamed, Match.renamed_rule, Rule.renamed_name]
          rfl
        · rfl

/-- The two machines stop after the same number of steps, with the same outcome up to names. -/
theorem run_renamed (hf : Function.Injective f) (limit : Option Int) (steps : Nat) :
    (m.renamed f).run limit steps =
      (m.run limit steps).map (Parse.renamed f (Node.renamedAll f)) := by
  induction steps generalizing m with
  | zero => rfl
  | succ steps ih =>
    simp only [run, m.step_renamed hf]
    cases m.step limit with
    | error e => rfl
    | ok progress =>
      cases progress with
      | finished nodes => rfl
      | running next => exact ih next

end Machine

/-- Names of rules matter only up to equality. If the rules and excluders of a rule set are renamed
throughout, different names by different ones, the parse takes the same number of steps. It returns the
same nodes with their branches renamed, or fails with the same error about the renamed rule. -/
theorem parse_renamed (hf : Function.Injective f) (limit : Option Int) (text : Text) (rules : RuleSet)
    (steps : Nat) :
    parse steps limit text (rules.renamed f) =
      (parse steps limit text rules).map (Parse.renamed f (Node.renamedAll f)) :=
  (Machine.start text rules).run_renamed hf limit steps

/-- Brackets are called atoms, and atoms brackets. -/
def swapNames : String → String := Equiv.swap "bracket" "atom"

/-- The branches change their names at all levels, and a bracket that nests too deep is refused under its
new name. -/
theorem parse_renamed_swap :
    Function.Injective swapNames ∧
    parse 20 none ['(', 'x', '(', 'y'] [Rule.bracket] = some (.ok [.branch "bracket"
      [.branch "atom" [.text ['x']], .branch "bracket" [.branch "atom" [.text ['y']]]]]) ∧
    parse 20 none ['(', 'x', '(', 'y'] (RuleSet.renamed swapNames [Rule.bracket]) =
      some (.ok [.branch "atom"
        [.branch "bracket" [.text ['x']], .branch "atom" [.branch "bracket" [.text ['y']]]]]) ∧
    parse 20 (some 1) ['(', '(', 'y'] (RuleSet.renamed swapNames [Rule.bracket]) =
      some (.error (.tooDeep "atom" 1)) := by
  have hf : Function.Injective swapNames := (Equiv.swap "bracket" "atom").injective
  have hbracket : swapNames "bracket" = "atom" := Equiv.swap_apply_left _ _
  have hatom : swapNames "atom" = "bracket" := Equiv.swap_apply_right _ _
  have hnodes : parse 20 none ['(', 'x', '(', 'y'] [Rule.bracket] = some (.ok [.branch "bracket"
      [.branch "atom" [.text ['x']], .branch "bracket" [.branch "atom" [.text ['y']]]]]) := rfl
  have herror : parse 20 (some 1) ['(', '(', 'y'] [Rule.bracket] =
      some (.error (.tooDeep "bracket" 1)) := rfl
  refine ⟨hf, hnodes, ?_, ?_⟩
  · rw [parse_renamed hf, hnodes]
    simp only [Option.map_some, Parse.renamed, Node.renamedAll, Node.renamed, hbracket, hatom]
  · rw [parse_renamed hf, herror]
    simp only [Option.map_some, Parse.renamed, ParseError.renamed, hbracket]

end RuleTree
