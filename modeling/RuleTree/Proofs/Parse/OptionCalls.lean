import Mathlib.Data.List.Forall2
import RuleTree.Parse.Event
import RuleTree.Proofs.Parse.LiteralText

/-!
# Calls of option functions

An option function is called where an exhausted frame is closed, long after its match was found. Each
call makes the tagged branch that takes its value, and a frame is closed after the frames that were
opened in it. Hence the calls of a run, in the order in which they were made, stand one by one against
the tagged branches of the result in post-order.

The invariant is about the tagged branches that the frames have collected so far, read from the
outermost frame to the innermost: a step adds to them exactly what was called in it. Options that are
values make tagged branches without a call, so rules with such an option are left out.
-/

namespace RuleTree

/-! ## Tagged branches in post-order -/

namespace Node

mutual

/-- The tagged branches of a node: those of its children from left to right, then the node itself. -/
def taggedIn : Node → List Node
  | text _ => []
  | branch _ cs => taggedAll cs
  | tagged name cs v => taggedAll cs ++ [tagged name cs v]

def taggedAll : List Node → List Node
  | [] => []
  | n :: ns => taggedIn n ++ taggedAll ns

end

theorem taggedAll_append (ns ms : List Node) :
    taggedAll (ns ++ ms) = taggedAll ns ++ taggedAll ms := by
  induction ns with
  | nil => rfl
  | cons n ns ih => rw [List.cons_append, taggedAll, ih, taggedAll, List.append_assoc]

theorem taggedAll_singleton (n : Node) : taggedAll [n] = taggedIn n := by
  rw [taggedAll, taggedAll, List.append_nil]

theorem taggedAll_ofRun (run : Text) : taggedAll (ofRun run) = [] := by
  cases run with
  | nil => rfl
  | cons ch rest => rfl

end Node

/-! ## Calls among the events -/

/-- A call of an option function: what it was given and what came of it. -/
structure OptionCall where
  label : Label
  text : Text
  spans : List Span
  value : Parse Datum

def Event.optionCall? : Event → Option OptionCall
  | optionCall label text spans value => some ⟨label, text, spans, value⟩
  | _ => none

/-- The calls of option functions among the events, in order. -/
def Event.optionCalls (events : List Event) : List OptionCall := events.filterMap Event.optionCall?

namespace Event

theorem optionCalls_append (es fs : List Event) :
    optionCalls (es ++ fs) = optionCalls es ++ optionCalls fs :=
  List.filterMap_append

theorem optionCalls_matcher (mt : Matcher) (t : Text) : optionCalls (mt.events t) = [] := by
  cases mt <;> rfl

theorem optionCalls_matchEvents (rules : RuleSet) (t : Text) :
    optionCalls (rules.matchEvents t) = [] := by
  induction rules with
  | nil => rfl
  | cons r rs ih =>
    rw [RuleSet.matchEvents, optionCalls_append, optionCalls_matcher, List.nil_append]
    split
    · exact ih
    · rfl

theorem optionCalls_formatter (fm : Option Formatter) (t : Text) :
    optionCalls (Formatter.events fm t) = [] := by
  unfold Formatter.events
  split <;> rfl

theorem optionCalls_prepareEvents (m : Match) (t : Text) : optionCalls (m.prepareEvents t) = [] := by
  unfold Match.prepareEvents
  split
  · exact optionCalls_formatter _ _
  · rfl

/-- Reading on in a frame calls matchers and formatters, but no option function. -/
theorem optionCalls_frame (f : Frame) : optionCalls f.events = [] := by
  unfold Frame.events
  split
  · rfl
  · rw [optionCalls_append, optionCalls_matchEvents, List.nil_append]
    split
    · rw [optionCalls_append, optionCalls_prepareEvents, List.nil_append]
      split
      · split <;> rfl
      · rfl
    · rfl

end Event

namespace Machine

variable {limit : Option Int} {text : Text} {rules : RuleSet} {m n : Machine}

/-- The calls of option functions in the next step. -/
def optionCalls (limit : Option Int) (m : Machine) : List OptionCall :=
  Event.optionCalls (m.events limit)

theorem optionCalls_of_reading (hx : m.top.exhausted = false) : m.optionCalls limit = [] := by
  unfold optionCalls events
  rw [if_neg (by rw [hx]; exact Bool.false_ne_true), Event.optionCalls_append,
    Event.optionCalls_frame, List.nil_append]
  split
  · split
    · split <;> rfl
    · rfl
  · rfl

theorem optionCalls_of_finished (hb : m.below = []) (hx : m.top.exhausted = true) :
    m.optionCalls limit = [] := by
  unfold optionCalls events
  rw [if_pos hx, hb]
  rfl

theorem optionCalls_of_popped {parent : Frame} {below : List Frame} {c : Construction}
    (hb : m.below = parent :: below) (hx : m.top.exhausted = true)
    (hc : m.top.construction = some c) : m.optionCalls limit = Event.optionCalls c.shapeEvents := by
  unfold optionCalls events
  rw [if_pos hx, hb, hc]

/-! ## What a step calls and what it collects -/

/-- The tagged branches that the frames have collected, the outermost frame first. -/
def tagged (m : Machine) : List Node := Node.taggedAll (m.frames.reverse.flatMap Frame.nodes)

theorem tagged_mk (f : Frame) (below : List Frame) :
    tagged ⟨f, below⟩ =
      Node.taggedAll (below.reverse.flatMap Frame.nodes) ++ Node.taggedAll f.nodes := by
  rw [tagged, frames, List.reverse_cons, List.flatMap_append, Node.taggedAll_append,
    List.flatMap_singleton]

end Machine

theorem Frame.Sound.taggedAll_closeLiteral {f : Frame} (hf : f.Sound) :
    Node.taggedAll f.closeLiteral.nodes = Node.taggedAll f.nodes := by
  rw [hf.closeLiteral_nodes, Node.taggedAll_append, Node.taggedAll_ofRun, List.append_nil]

theorem Frame.Sound.taggedAll_behind {f : Frame} (hf : f.Sound) (c : Construction) :
    Node.taggedAll (f.behind c).nodes = Node.taggedAll f.nodes := by
  rw [hf.behind_nodes, Node.taggedAll_append, Node.taggedAll_ofRun, List.append_nil]

/-- The rule has no option, or one that is a function. -/
def Rule.CallsOption (r : Rule) : Prop := ∀ o, r.option = some o → ∃ f, o = .function f

/-- The call was made for the match that the node is made of. At `m` the rule of the match, neither
ignored nor skipped, found the spans in what remained of the top frame. At `n`, when all of its
captured text had been parsed, the function was given that same text and the spans, and returned the
option of the node. -/
inductive CalledFor (limit : Option Int) (text : Text) (rules : RuleSet) : OptionCall → Node → Prop
  | intro {m n : Machine} {c : Construction} {f : OptionFunction} {v : Datum} :
      Machine.Reaches limit (.start text rules) m → m.top.rules.Accepts m.top.remaining c →
      c.found.rule.ignore = false → c.found.rule.skip = false →
      Machine.Reaches limit m n → n.top.construction = some c → n.top.exhausted = true →
      c.found.rule.option = some (.function f) → f.run m.top.remaining c.found.spans = .ok v →
      CalledFor limit text rules ⟨f.label, m.top.remaining, c.found.spans, .ok v⟩
        (.tagged c.found.rule.name n.top.closeLiteral.nodes v)

/-- Closing a frame calls the option function of its match, if the match makes a tagged branch, and
adds that branch behind those of the captured text. -/
theorem Construction.called_for_shape {limit : Option Int} {text : Text} {rules : RuleSet}
    {m : Machine} {c : Construction} {s : Shaped} (hm : m.Opened limit text rules c)
    (hc : m.top.construction = some c) (hx : m.top.exhausted = true)
    (hrule : c.found.rule.CallsOption) (h : c.shape m.top.closeLiteral.nodes = .ok s) :
    ∃ added, Node.taggedAll s.nodes = Node.taggedAll m.top.closeLiteral.nodes ++ added ∧
      List.Forall₂ (CalledFor limit text rules) (Event.optionCalls c.shapeEvents) added := by
  rcases shape_cases h with ⟨hskip, rfl⟩ | ⟨hskip, ho, rfl⟩ | ⟨hskip, o, v, ho, hv, rfl⟩
  · refine ⟨[], (List.append_nil _).symm, ?_⟩
    rw [shapeEvents, if_pos hskip]
    exact .nil
  · refine ⟨[], ?_, ?_⟩
    · rw [Shaped.nodes, Node.taggedAll_singleton, Node.taggedIn, List.append_nil]
    · simp only [shapeEvents, hskip, ho, Bool.false_eq_true, ↓reduceIte]
      exact .nil
  · obtain ⟨f, rfl⟩ := hrule o ho
    obtain ⟨k, hk, ha, hi, hkm⟩ := hm
    obtain ⟨_, _, _, _, _, _, hsource, _⟩ := Match.prepare_ok ha.prepared
    have hrun : f.run k.top.remaining c.found.spans = .ok v := by
      rw [← hsource]
      exact Parse.call_eq_ok.mp hv
    refine ⟨[.tagged c.found.rule.name m.top.closeLiteral.nodes v], ?_, ?_⟩
    · rw [Shaped.nodes, Node.taggedAll_singleton, Node.taggedIn]
    · have hevents : Event.optionCalls c.shapeEvents =
          [⟨f.label, k.top.remaining, c.found.spans, .ok v⟩] := by
        simp only [shapeEvents, hskip, ho, hsource, hrun, Bool.false_eq_true, ↓reduceIte]
        rfl
      rw [hevents]
      exact .cons (.intro hk ha hi hskip hkm hc hx ho hrun) .nil

namespace Machine

variable {limit : Option Int} {text : Text} {rules : RuleSet} {m n : Machine}

/-- A step collects one tagged branch for each call that it makes. -/
theorem Next.tagged (hrules : ∀ r, RuleSet.Occurs r rules → r.CallsOption)
    (hm : Reaches limit (start text rules) m) (hn : Next limit m n) :
    ∃ added, n.tagged = m.tagged ++ added ∧
      List.Forall₂ (CalledFor limit text rules) (m.optionCalls limit) added := by
  have hs := Stacked.of_reaches hm
  rcases hn.cases with ⟨hx, parent, below, _, hb, _⟩ | ⟨hx, g, hg, rfl⟩ | ⟨hx, g, c, hg, _, rfl⟩
  · obtain ⟨c, hc⟩ : ∃ c, m.top.construction = some c := by
      rw [hb] at hs
      cases hs with
      | above _ hl _ => exact ⟨_, hl.construction⟩
    obtain ⟨parent, below, s, hb, hshape, rfl⟩ := hn.popped hx hc
    have hopened := hm.opened m.top List.mem_cons_self c hc
    obtain ⟨added, hadded, hcalls⟩ :=
      Construction.called_for_shape hopened hc hx (hrules _ hopened.occurs) hshape
    refine ⟨added, ?_, optionCalls_of_popped hb hx hc ▸ hcalls⟩
    have hm' : m = ⟨m.top, parent :: below⟩ := by rw [← hb]
    rw [hm', tagged_mk, tagged_mk, Frame.add_nodes, Node.taggedAll_append, hadded,
      hs.sound.taggedAll_closeLiteral, List.reverse_cons, List.flatMap_append,
      Node.taggedAll_append, List.flatMap_singleton]
    simp only [List.append_assoc]
  · refine ⟨[], ?_, optionCalls_of_reading hx ▸ .nil⟩
    have hnodes : Node.taggedAll g.nodes = Node.taggedAll m.top.nodes := by
      rcases Frame.step_cases (hs.sound.remaining_ne_nil hx) hg with
        ⟨k, _, _, rfl, _⟩ | ⟨c, _, rfl, _⟩
      · rfl
      · exact hs.sound.taggedAll_behind c
    rw [List.append_nil, tagged_mk, hnodes, ← tagged_mk]
  · refine ⟨[], ?_, optionCalls_of_reading hx ▸ .nil⟩
    obtain ⟨_, _, rfl⟩ := Frame.opens_of_step (hs.sound.remaining_ne_nil hx) hg
    have hfresh : Node.taggedAll (Frame.ofConstruction c).nodes = [] := rfl
    rw [tagged_mk, hfresh, List.reverse_cons, List.flatMap_append, Node.taggedAll_append,
      List.flatMap_singleton, hs.sound.taggedAll_behind, List.append_nil, List.append_nil,
      ← tagged_mk]

/-- What was called before and what is called in the rest of a run together make the tagged branches
of the result. -/
theorem forall₂_runWatched (hrules : ∀ r, RuleSet.Occurs r rules → r.CallsOption) {steps : Nat}
    {nodes : List Node} {seen : List Event} (hm : Reaches limit (start text rules) m)
    (hseen : List.Forall₂ (CalledFor limit text rules) (Event.optionCalls seen.reverse) m.tagged)
    (h : m.run limit steps = some (.ok nodes)) :
    List.Forall₂ (CalledFor limit text rules)
      (Event.optionCalls (m.runWatched limit steps seen).2) (Node.taggedAll nodes) := by
  induction steps generalizing m seen with
  | zero => cases h
  | succ steps ih =>
    have hcalls : Event.optionCalls ((m.events limit).reverse ++ seen).reverse =
        Event.optionCalls seen.reverse ++ m.optionCalls limit := by
      rw [List.reverse_append, List.reverse_reverse, Event.optionCalls_append]
      rfl
    cases hstep : m.step limit with
    | error e =>
      simp only [run, hstep] at h
      cases h
    | ok progress =>
      cases progress with
      | finished last =>
        simp only [run, hstep] at h
        cases h
        obtain ⟨hb, hx, rfl⟩ := finished_cases hstep
        have hm' : m = ⟨m.top, []⟩ := by rw [← hb]
        rw [hm', tagged_mk] at hseen
        simp only [runWatched, hstep, hcalls]
        rw [optionCalls_of_finished hb hx, List.append_nil,
          (Stacked.of_reaches hm).sound.taggedAll_closeLiteral]
        exact hseen
      | running next =>
        obtain ⟨added, hadded, hcalled⟩ := Next.tagged hrules hm hstep
        simp only [run, hstep] at h
        simp only [runWatched, hstep]
        refine ih (hm.tail hstep) ?_ h
        rw [hcalls, hadded]
        exact List.rel_append hseen hcalled

end Machine

/-- If every option is a function and a parse returns nodes, the calls of option functions during the
parse, in the order in which they were made, stand one by one against the tagged branches of the nodes
in post-order. Each was made for the match of its branch: with the text, still unformatted, in which
the matcher of the rule found the spans, and with those spans. The value it returned is the option of
the branch. Nothing is called for matches that are ignored or skipped. -/
theorem optionCalls_postorder (steps : Nat) (limit : Option Int) (text : Text) (rules : RuleSet)
    (nodes : List Node) (hrules : ∀ r, RuleSet.Occurs r rules → r.CallsOption)
    (h : parse steps limit text rules = some (.ok nodes)) :
    List.Forall₂ (CalledFor limit text rules)
      (Event.optionCalls (parseWatched steps limit text rules).2) (Node.taggedAll nodes) :=
  Machine.forall₂_runWatched hrules .refl .nil h

/-- The length of the text that the match was found in. -/
def OptionFunction.size : OptionFunction := ⟨.named "size", fun t _ => .ok (.int t.length)⟩

/-- The letter at the front of the text, which turns into a `z`. -/
def Rule.letter (letter : Char) : Rule where
  name := letter.toString
  matcher := .function ⟨.named "letter", fun t =>
    if t.head? = some letter then .ok (.list [.tuple [.int 0, .int 1]]) else .ok .null⟩
  formatter := some (.literal ['z'])
  option := some (.function .size)

/-- Brackets with letters in them. Each `i` is ignored and each `s` is skipped. -/
def RuleSet.sizedLetters : RuleSet :=
  [{ Rule.bracket with
    option := some (.function .size)
    included := [{ Rule.letter 'i' with ignore := true }, { Rule.letter 's' with skip := true },
      Rule.letter 'x'] }]

/-- The `x` is counted before the brackets around it, and from the end of the text. -/
theorem optionCalls_sizedLetters :
    (∀ r, RuleSet.Occurs r .sizedLetters → r.CallsOption) ∧
    parse 20 none ['(', '(', 'x', 'i', 's'] .sizedLetters =
      some (.ok [.tagged "bracket" [.tagged "bracket" [.tagged "x" [.text ['z']] (.int 3),
        .text ['z']] (.int 4)] (.int 5)]) ∧
    (Event.optionCalls (parseWatched 20 none ['(', '(', 'x', 'i', 's'] .sizedLetters).2).map
        (fun call => (call.text, call.value)) =
      [(['x', 'i', 's'], .ok (.int 3)), (['(', 'x', 'i', 's'], .ok (.int 4)),
        (['(', '(', 'x', 'i', 's'], .ok (.int 5))] ∧
    List.Forall₂ (CalledFor none ['(', '(', 'x', 'i', 's'] .sizedLetters)
      (Event.optionCalls (parseWatched 20 none ['(', '(', 'x', 'i', 's'] .sizedLetters).2)
      [.tagged "x" [.text ['z']] (.int 3),
        .tagged "bracket" [.tagged "x" [.text ['z']] (.int 3), .text ['z']] (.int 4),
        .tagged "bracket" [.tagged "bracket" [.tagged "x" [.text ['z']] (.int 3), .text ['z']]
          (.int 4)] (.int 5)] := by
  have hrules : ∀ r, RuleSet.Occurs r .sizedLetters → r.CallsOption := by
    intro r hr o ho
    simp only [RuleSet.occurs_cons, RuleSet.sizedLetters, Rule.letter, Rule.bracket,
      RuleSet.not_occurs_nil, reduceCtorEq, false_and, exists_const, or_false, false_or] at hr
    rcases hr with rfl | rfl | rfl | rfl <;>
      exact ⟨.size, (Option.some.inj ho).symm⟩
  have h : parse 20 none ['(', '(', 'x', 'i', 's'] .sizedLetters =
      some (.ok [.tagged "bracket" [.tagged "bracket" [.tagged "x" [.text ['z']] (.int 3),
        .text ['z']] (.int 4)] (.int 5)]) := rfl
  exact ⟨hrules, h, rfl, optionCalls_postorder 20 none _ _ _ hrules h⟩

end RuleTree
