import RuleTree.Proofs.Node.Contents
import RuleTree.Proofs.Parse.Applicability
import RuleTree.Proofs.Parse.Termination

/-!
# Literal text of a parse

The frames of a machine hold a text between them: what each frame has read, from the outermost to the
innermost, and then what remains of each, from the innermost to the outermost. A step leaves this text
as it is, except that an accepted match puts its payload and the text behind it in the place of what
remained. Without formatters that only deletes characters, so the literals of the nodes are a
subsequence of the input. Formatters may put any text there, and nothing is said of them.
-/

namespace RuleTree

/-! ## What an accepted match keeps of its text -/

theorem Span.mem_of_mem_trimAbsent {s : Span} {spans : List Span} (h : s ∈ Span.trimAbsent spans) :
    s ∈ spans := by
  rw [Span.trimAbsent, List.mem_reverse] at h
  exact List.mem_reverse.mp ((List.dropWhile_sublist _).mem h)

theorem Span.ofRegion_stop_nonneg (region : Option (Nat × Nat)) (h : 0 ≤ (Span.ofRegion region).start) :
    0 ≤ (Span.ofRegion region).stop := by
  cases region with
  | none => cases h
  | some places =>
    simp only [Span.ofRegion, Span.stop_of]
    omega

/-- No span that starts in the text ends before it. -/
theorem Matcher.spans_stop_nonneg {mt : Matcher} {t : Text} {ss : List Span}
    (h : mt.spans t = .ok (some ss)) : ∀ s ∈ ss, 0 ≤ s.start → 0 ≤ s.stop := by
  intro s hs hstart
  cases mt with
  | pattern p =>
    simp only [Matcher.spans, pure_eq_ok, Option.map_eq_some_iff] at h
    obtain ⟨f, _, rfl⟩ := h
    have hmem := Span.mem_of_mem_trimAbsent hs
    rw [← List.map_cons, List.mem_map] at hmem
    obtain ⟨region, _, rfl⟩ := hmem
    exact Span.ofRegion_stop_nonneg region hstart
  | function f =>
    obtain ⟨v, _, hv⟩ := bind_eq_ok.mp h
    have hsize := (MatcherFunction.spans_some hv).2 s hs
    unfold Span.stop
    omega

/-- The match captures all that it consumes, from the front of the text. -/
def Match.CapturesAll (m : Match) (text : Text) : Prop :=
  ∃ capture, m.captureSpan = .ok capture ∧ capture.start = 0 ∧ m.consumedEnd text = .ok capture.stop

namespace RuleSet.Accepts

variable {rules : RuleSet} {text : Text} {c : Construction}

/-- Without a formatter, the payload lies within the consumed front of the text. -/
theorem payload_eq (h : rules.Accepts text c) (hf : c.found.rule.formatter = none) :
    ∃ (capture : Span) (low high stop : Nat), c.found.captureSpan = .ok capture ∧
      capture.start = low ∧ capture.stop = high ∧ c.found.consumedEnd text = .ok stop ∧ high ≤ stop ∧
      c.payload = (text.take high).drop low ∧ c.nextText = text.drop stop := by
  obtain ⟨captured, stop, hcut, hformat, _, hnext, _⟩ := Match.prepare_ok h.prepared
  obtain ⟨hconsumed, capture, hcapture, hstart, hle, rfl⟩ := Match.cut_ok hcut
  have hmem := Match.selected?_mem (Match.captureSpan_eq_ok.mp hcapture)
  have hstop := Matcher.spans_stop_nonneg h.finds capture hmem hstart
  rw [hf] at hformat
  have hpayload := pure_eq_ok.mp hformat
  refine ⟨capture, capture.start.toNat, capture.stop.toNat, stop.toNat, hcapture, by omega, by omega,
    ?_, by omega, ?_, ?_⟩
  · rw [hconsumed, Int.toNat_of_nonneg (by omega)]
  · rw [← hpayload, Text.slice_of_nonneg text hstart hstop]
  · rw [hnext, Text.sliceFrom_of_nonneg text (by omega)]

theorem payload_append_sublist (h : rules.Accepts text c) (hf : c.found.rule.formatter = none) :
    (c.payload ++ c.nextText).Sublist text := by
  obtain ⟨_, low, high, stop, _, _, _, _, hle, hpayload, hnext⟩ := h.payload_eq hf
  have hfront : c.payload.Sublist (text.take stop) := by
    rw [hpayload]
    exact (List.drop_sublist _ _).trans (List.take_prefix_take_left hle).sublist
  calc
    (c.payload ++ c.nextText).Sublist (text.take stop ++ text.drop stop) := by
      rw [hnext]
      exact hfront.append_right _
    _ = text := List.take_append_drop stop text

theorem payload_append_of_capturesAll (h : rules.Accepts text c)
    (hf : c.found.rule.formatter = none) (hall : c.found.CapturesAll text) :
    c.payload ++ c.nextText = text := by
  obtain ⟨capture, low, high, stop, hcapture, hlow, hhigh, hstop, _, hpayload, hnext⟩ :=
    h.payload_eq hf
  obtain ⟨capture', hcapture', hstart, hstop'⟩ := hall
  obtain rfl := Except.ok.inj (hcapture.symm.trans hcapture')
  have hend : (stop : Int) = capture.stop := Except.ok.inj (hstop.symm.trans hstop')
  obtain rfl : low = 0 := by omega
  obtain rfl : high = stop := by omega
  rw [hpayload, hnext, List.drop_zero, List.take_append_drop]

end RuleSet.Accepts

/-! ## The text that the frames hold -/

/-- The literal text that the frame has read so far. -/
def Frame.read (f : Frame) : Text := Node.literals f.nodes ++ f.pending

namespace Frame

theorem Sound.read_closeLiteral {f : Frame} (hf : f.Sound) :
    Node.literals f.closeLiteral.nodes = f.read := by
  rw [hf.closeLiteral_nodes, Node.literals_append, Node.literals_ofRun, read]

theorem Sound.read_behind {f : Frame} (hf : f.Sound) (c : Construction) :
    (f.behind c).read = f.read := by
  rw [read, behind_pending, List.append_nil, hf.behind_nodes, Node.literals_append,
    Node.literals_ofRun, read]

theorem Sound.read_takeLiteral {f : Frame} (hf : f.Sound) {n : Nat} (hn : 0 < n)
    (hl : n ≤ f.remaining.length) :
    (f.takeLiteral n).read ++ (f.takeLiteral n).remaining = f.read ++ f.remaining := by
  have hnodes : (f.takeLiteral n).nodes = f.nodes := rfl
  rw [read, hnodes, hf.takeLiteral_pending hn hl, hf.takeLiteral_remaining, read, List.append_assoc,
    List.append_assoc, List.take_append_drop, List.append_assoc]

theorem read_ofConstruction (c : Construction) : (ofConstruction c).read = [] := rfl

/-- A shaped match adds the literals of its captured text to a frame whose run is closed. -/
theorem read_add {f : Frame} {s : Shaped} (h : f.literalStart = none) :
    (f.add s).read = f.read ++ Node.literals s.nodes := by
  rw [read, add_nodes, add_pending, pending_of_none h, List.append_nil, Node.literals_append, read,
    pending_of_none h, List.append_nil]

/-- A text between what the waiting frames have read and what remains of them. -/
def enclose (inner : Text) : List Frame → Text
  | [] => inner
  | parent :: below => enclose (parent.read ++ inner ++ parent.remaining) below

theorem enclose_sublist {inner inner' : Text} (h : inner.Sublist inner') (below : List Frame) :
    (enclose inner below).Sublist (enclose inner' below) := by
  induction below generalizing inner inner' with
  | nil => exact h
  | cons parent below ih => exact ih ((h.append_left _).append_right _)

end Frame

namespace Machine

/-- All that the frames have read and all that remains of them, in the order of the input. -/
def held (m : Machine) : Text := Frame.enclose (m.top.read ++ m.top.remaining) m.below

variable {limit : Option Int} {text : Text} {rules : RuleSet} {m n : Machine}

/-- What an exhausted frame hands over is what its construction makes of its nodes. -/
theorem Next.popped {c : Construction} (h : Next limit m n) (hx : m.top.exhausted = true)
    (hc : m.top.construction = some c) :
    ∃ parent below s, m.below = parent :: below ∧ c.shape m.top.closeLiteral.nodes = .ok s ∧
      n = ⟨parent.add s, below⟩ := by
  obtain ⟨f, below⟩ := m
  cases below with
  | nil => cases h.symm.trans (step_finished hx)
  | cons parent below =>
    obtain ⟨s, hs, he⟩ := map_eq_ok.mp ((step_shape hx hc).symm.trans h)
    cases he
    exact ⟨parent, below, s, rfl, hs, rfl⟩

/-- A pop moves the literals of a frame into the frame below. -/
theorem held_popped {parent : Frame} {below : List Frame} {c : Construction}
    (hs : Stacked limit text rules m.top (parent :: below)) (hb : m.below = parent :: below)
    (hc : m.top.construction = some c) (hx : m.top.exhausted = true) (hn : Next limit m n) :
    n.held = m.held := by
  obtain ⟨parent', below', s, hb', hshape, rfl⟩ := hn.popped hx hc
  cases hb.symm.trans hb'
  cases hs with
  | above hf hl hstack =>
    have hliterals : Node.literals s.nodes = m.top.read := by
      rw [Construction.shape_literals hshape, hf.read_closeLiteral]
    simp only [held, hb, Frame.enclose]
    rw [Frame.read_add hl.closed, hliterals, Frame.add_remaining, hf.exhausted_iff.mp hx,
      List.append_nil]

/-- A step keeps the text that the frames hold, or accepts a match. The match puts the text behind
it, and its payload unless it is ignored, in the place of what remained of the top frame. -/
theorem Next.held_cases (hs : Stacked limit text rules m.top m.below) (hn : Next limit m n) :
    n.held = m.held ∨
    ∃ c, m.top.rules.Accepts m.top.remaining c ∧
      ((c.found.rule.ignore = true ∧ n.held = Frame.enclose (m.top.read ++ c.nextText) m.below) ∨
       (c.found.rule.ignore = false ∧
        n.held = Frame.enclose (m.top.read ++ (c.payload ++ c.nextText)) m.below)) := by
  have hf := hs.sound
  rcases hn.cases with ⟨hx, parent, below, _, hb, _⟩ | ⟨hx, g, hg, rfl⟩ | ⟨hx, g, c, hg, _, rfl⟩
  · rw [hb] at hs
    cases hs with
    | above hf hl hstack =>
      exact Or.inl (held_popped (.above hf hl hstack) hb hl.construction hx hn)
  · rcases Frame.step_cases (hf.remaining_ne_nil hx) hg with
      ⟨k, hpos, hle, rfl, _⟩ | ⟨c, ha, rfl, hoc | hoc⟩
    · refine Or.inl ?_
      rw [held, held, hf.read_takeLiteral hpos hle]
    · refine Or.inr ⟨c, ha, Or.inl ⟨hoc.1, ?_⟩⟩
      rw [held, hf.read_behind, hf.behind_remaining ha.nextText_suffix]
    · cases hoc.2
  · obtain ⟨ha, hi, rfl⟩ := Frame.opens_of_step (hf.remaining_ne_nil hx) hg
    refine Or.inr ⟨c, ha, Or.inr ⟨hi, ?_⟩⟩
    rw [held, Frame.enclose, Frame.read_ofConstruction, Frame.ofConstruction_remaining,
      hf.read_behind, hf.behind_remaining ha.nextText_suffix, List.nil_append, List.append_assoc]

theorem held_start (text : Text) (rules : RuleSet) : (start text rules).held = text := by
  have hread : (start text rules).top.read = [] := rfl
  rw [held, hread, List.nil_append]
  exact Frame.remaining_fresh text rules none

theorem held_finished {nodes : List Node} (hs : Stacked limit text rules m.top m.below)
    (h : m.step limit = .ok (.finished nodes)) : m.held = Node.literals nodes := by
  obtain ⟨hb, hx, rfl⟩ := finished_cases h
  rw [held, hb, Frame.enclose, hs.sound.read_closeLiteral, hs.sound.exhausted_iff.mp hx,
    List.append_nil]

/-- Without formatters a step deletes characters at most. -/
theorem Next.held_sublist (hs : Stacked limit text rules m.top m.below)
    (hf : ∀ r ∈ m.top.rules, r.formatter = none) (hn : Next limit m n) : n.held.Sublist m.held := by
  rcases hn.held_cases hs with he | ⟨c, ha, ⟨_, he⟩ | ⟨_, he⟩⟩
  · exact he ▸ List.Sublist.refl _
  · rw [he]
    exact Frame.enclose_sublist (ha.nextText_suffix.sublist.append_left _) m.below
  · rw [he]
    have hsub := ha.payload_append_sublist (hf _ ha.answers.mem)
    exact Frame.enclose_sublist (hsub.append_left _) m.below

/-- If the match of a step is not ignored and captures all that it consumes, nothing is deleted. -/
theorem Next.held_eq (hs : Stacked limit text rules m.top m.below)
    (hf : ∀ r ∈ m.top.rules, r.formatter = none) (hi : ∀ r ∈ m.top.rules, r.ignore = false)
    (hall : ∀ c, m.top.rules.Accepts m.top.remaining c → c.found.CapturesAll m.top.remaining)
    (hn : Next limit m n) : n.held = m.held := by
  rcases hn.held_cases hs with he | ⟨c, ha, ⟨hign, _⟩ | ⟨_, he⟩⟩
  · exact he
  · rw [hi _ ha.answers.mem] at hign
    cases hign
  · rw [he, ha.payload_append_of_capturesAll (hf _ ha.answers.mem) (hall c ha), held]

end Machine

theorem Region.occurs_of_opened {limit : Option Int} {outer inner : Region} {r : Rule}
    (h : Relation.ReflTransGen (Opens limit) outer inner) (hr : RuleSet.Occurs r inner.rules) :
    RuleSet.Occurs r outer.rules := by
  induction h with
  | refl => exact hr
  | tail _ ho ih => exact ih (ho.occurs hr)

theorem Stacked.occurs {limit : Option Int} {text : Text} {rules : RuleSet} {f : Frame}
    {below : List Frame} {r : Rule} (h : Stacked limit text rules f below) (hr : r ∈ f.rules) :
    RuleSet.Occurs r rules :=
  Region.occurs_of_opened h.opened (.member hr)

theorem Machine.Opened.occurs {limit : Option Int} {text : Text} {rules : RuleSet} {m : Machine}
    {c : Construction} (h : m.Opened limit text rules c) : RuleSet.Occurs c.found.rule rules := by
  obtain ⟨k, hk, ha, _, _⟩ := h
  exact (Stacked.of_reaches hk).occurs ha.answers.mem

namespace Machine.Reaches

variable {limit : Option Int} {text : Text} {rules : RuleSet} {m : Machine}

theorem held_sublist (h : Reaches limit (start text rules) m)
    (hf : ∀ r, RuleSet.Occurs r rules → r.formatter = none) : m.held.Sublist text := by
  induction h with
  | refl => exact (held_start text rules).symm ▸ List.Sublist.refl text
  | tail hm hn ih =>
    have hs := Stacked.of_reaches hm
    have hstep := hn.held_sublist hs fun r hr => hf r (hs.occurs hr)
    exact hstep.trans ih

theorem held_eq (h : Reaches limit (start text rules) m)
    (hf : ∀ r, RuleSet.Occurs r rules → r.formatter = none)
    (hi : ∀ r, RuleSet.Occurs r rules → r.ignore = false)
    (hall : ∀ n c, Reaches limit (start text rules) n → n.top.rules.Accepts n.top.remaining c →
      c.found.CapturesAll n.top.remaining) : m.held = text := by
  induction h with
  | refl => exact held_start text rules
  | tail hm hn ih =>
    have hs := Stacked.of_reaches hm
    have hstep := hn.held_eq hs (fun r hr => hf r (hs.occurs hr))
      (fun r hr => hi r (hs.occurs hr)) (fun c ha => hall _ c hm ha)
    exact hstep.trans ih

end Machine.Reaches

/-- If no rule that occurs has a formatter, the literals of the nodes, read from left to right, are a
subsequence of the text. If no rule is ignored either and every match that is accepted on the way
captures all that it consumes, they are the text itself. -/
theorem parse_literals_sublist (limit : Option Int) (text : Text) (rules : RuleSet) (steps : Nat)
    (nodes : List Node) (hformat : ∀ r, RuleSet.Occurs r rules → r.formatter = none)
    (h : parse steps limit text rules = some (.ok nodes)) :
    (Node.literals nodes).Sublist text ∧
    ((∀ r, RuleSet.Occurs r rules → r.ignore = false) →
      (∀ m c, Machine.Reaches limit (Machine.start text rules) m →
        m.top.rules.Accepts m.top.remaining c → c.found.CapturesAll m.top.remaining) →
      Node.literals nodes = text) := by
  obtain ⟨last, hlast, hfinished⟩ := Machine.Halts.reaches_last ⟨steps, h⟩
  have hliterals := Machine.held_finished (Stacked.of_reaches hlast) hfinished
  rw [← hliterals]
  exact ⟨hlast.held_sublist hformat, fun hignore hall => hlast.held_eq hformat hignore hall⟩

/-- Matches so many characters at the front of any text, and captures them. -/
def Rule.taking (name : String) (size : Text → Nat) (included : RuleSet) : Rule where
  name := name
  matcher := .function ⟨.named name, fun t => .ok (.list [.tuple [.int 0, .int (size t)]])⟩
  included := included

theorem Rule.taking_capturesAll {name : String} {size : Text → Nat} {included rules : RuleSet}
    {text : Text} {c : Construction} (h : rules.Accepts text c)
    (hr : c.found.rule = Rule.taking name size included) : c.found.CapturesAll text := by
  have hspans : c.found.spans = [Span.of 0 (size text)] := by
    have hfinds := h.finds
    have hsize : ¬ ((size text : Int) < 0) := by omega
    rw [hr] at hfinds
    simp only [Rule.taking, Matcher.spans, MatcherFunction.spans, MatcherFunction.span, Parse.call,
      Value.items?, List.mapM_cons, List.mapM_nil, Value.whole?, Whole.val, hsize, ↓reduceIte,
      bind, Except.bind, pure, Except.pure, List.isEmpty_cons, Bool.false_eq_true, Except.ok.injEq,
      Option.some.injEq] at hfinds
    exact hfinds.symm
  obtain ⟨captured, stop, hcut, _⟩ := Match.prepare_ok h.prepared
  obtain ⟨hstop, _⟩ := Match.cut_ok hcut
  obtain ⟨entire, others, he, rfl, _⟩ := Match.consumedEnd_ok hstop
  rw [hspans, List.cons.injEq] at he
  refine ⟨entire, ?_, ?_, hstop⟩
  · rw [Match.captureSpan, hr, hspans, he.1]
    rfl
  · rw [← he.1, Span.start_of]

/-- A word that is made up of letters. -/
def Rule.word : Rule := .taking "word" List.length [.taking "letter" (fun _ => 1) []]

/-- Both characters are captured twice, and come out once. -/
theorem parse_literals_word :
    (∀ r, RuleSet.Occurs r [Rule.word] → r.formatter = none ∧ r.ignore = false) ∧
    parse 20 none ['a', 'b'] [Rule.word] =
      some (.ok [.branch "word" [.branch "letter" [.text ['a']], .branch "letter" [.text ['b']]]]) ∧
    Node.literals [.branch "word" [.branch "letter" [.text ['a']], .branch "letter" [.text ['b']]]] =
      ['a', 'b'] := by
  have hcases : ∀ r, RuleSet.Occurs r [Rule.word] →
      ∃ name size included, r = Rule.taking name size included := by
    intro r hr
    simp only [RuleSet.occurs_cons, Rule.word, Rule.taking, RuleSet.not_occurs_nil, reduceCtorEq,
      false_and, exists_const, or_false] at hr
    rcases hr with rfl | rfl
    · exact ⟨"word", _, _, rfl⟩
    · exact ⟨"letter", _, _, rfl⟩
  have hrules : ∀ r, RuleSet.Occurs r [Rule.word] → r.formatter = none ∧ r.ignore = false := by
    intro r hr
    obtain ⟨name, size, included, rfl⟩ := hcases r hr
    exact ⟨rfl, rfl⟩
  have h : parse 20 none ['a', 'b'] [Rule.word] =
      some (.ok [.branch "word" [.branch "letter" [.text ['a']], .branch "letter" [.text ['b']]]]) :=
    rfl
  refine ⟨hrules, h, (parse_literals_sublist _ _ _ _ _ (fun r hr => (hrules r hr).1) h).2
    (fun r hr => (hrules r hr).2) ?_⟩
  intro m c hm ha
  obtain ⟨name, size, included, hr⟩ := hcases _ ((Stacked.of_reaches hm).occurs ha.answers.mem)
  exact Rule.taking_capturesAll ha hr

end RuleTree
