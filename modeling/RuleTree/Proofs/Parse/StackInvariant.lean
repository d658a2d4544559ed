import Mathlib.Data.List.Chain
import RuleTree.Proofs.Parse.Termination

/-!
# The frames of a running machine

At the head of the loop every frame stands within its text, only the top frame has a pending run, and
each frame but the outermost is parsed for a match behind which the frame below will go on. `Stacked`
builds this up level by level and keeps it from step to step; here it is said of the list of frames. A
step of a single frame needs less: it goes forward wherever the position is not negative. Supplied
matchers and options may do anything, and formatters that do not fail return texts.
-/

namespace RuleTree

namespace Frame

/-- `g` is `f` some way on: more has been read, and no node is lost. -/
structure Advances (f g : Frame) : Prop where
  position_lt : f.position < g.position
  text : g.text = f.text
  rules : g.rules = f.rules
  construction : g.construction = f.construction
  nodes : f.nodes <+: g.nodes

/-- `child` is parsed for a match, and `parent` goes on behind that match. -/
def LaidOn (child parent : Frame) : Prop :=
  ∃ c, child.construction = some c ∧ c.payload = child.text ∧ c.childRules = child.rules ∧
    c.nextText = parent.remaining

variable {f g parent : Frame} {c : Construction}

theorem nodes_prefix_closeLiteral (f : Frame) : f.nodes <+: f.closeLiteral.nodes := by
  unfold closeLiteral
  split
  · exact List.prefix_refl _
  · exact List.prefix_append _ _

theorem advances_takeLiteral (f : Frame) {n : Nat} (hn : 0 < n) : f.Advances (f.takeLiteral n) := by
  have hlt : f.position < f.position + (n : Int) := by omega
  exact ⟨hlt, rfl, rfl, rfl, List.prefix_refl _⟩

/-- The pending run becomes a node in front of the match. -/
theorem advances_behind (f : Frame) (h : c.nextText.length < f.remaining.length) :
    f.Advances (f.behind c) := by
  refine ⟨?_, f.behind_text c, f.behind_rules c, f.behind_construction c,
    f.nodes_prefix_closeLiteral⟩
  rw [behind_position]
  omega

theorem advances_of_step {oc : Option Construction} (hp : 0 ≤ f.position)
    (hx : f.exhausted = false) (h : f.step = .ok (g, oc)) : f.Advances g := by
  rcases step_cases (remaining_ne_nil hp hx) h with ⟨n, hn, _, rfl, _⟩ | ⟨c, ha, rfl, _⟩
  · exact f.advances_takeLiteral hn
  · exact f.advances_behind ha.nextText_length_lt

theorem LiesOn.laidOn {limit : Option Int} {depth : Nat} (h : f.LiesOn limit depth parent c) :
    f.LaidOn parent :=
  ⟨c, h.construction, h.text.symm, h.rules.symm, h.behind.symm⟩

end Frame

/-- What holds of the frames, the innermost first, while `text` is parsed under `rules`. -/
structure Machine.WellStacked (m : Machine) (text : Text) (rules : RuleSet) : Prop where
  sound : ∀ f ∈ m.frames, f.Sound
  /-- A frame that waits has closed its pending run. -/
  closed : ∀ f ∈ m.below, f.literalStart = none
  laid : m.frames.IsChain Frame.LaidOn
  outermost : ∃ f, m.frames.getLast? = some f ∧ f.construction = none ∧ f.text = text ∧
    f.rules = rules

theorem Stacked.wellStacked {limit : Option Int} {text : Text} {rules : RuleSet} {f : Frame}
    {below : List Frame} (h : Stacked limit text rules f below) :
    Machine.WellStacked ⟨f, below⟩ text rules := by
  -- From the outermost frame upwards; the frame that `ih` is about now waits.
  induction h with
  | @bottom f hf hc ht hr =>
    constructor
    · exact List.forall_mem_singleton.mpr hf
    · exact List.forall_mem_nil _
    · exact List.isChain_singleton f
    · exact ⟨f, rfl, hc, ht, hr⟩
  | above hf hl _ ih =>
    obtain ⟨hsound, hclosed, hlaid, outermost, hlast, houtermost⟩ := ih
    constructor
    · exact List.forall_mem_cons.mpr ⟨hf, hsound⟩
    · exact List.forall_mem_cons.mpr ⟨hl.closed, hclosed⟩
    · exact List.isChain_cons_cons.mpr ⟨hl.laidOn, hlaid⟩
    · exact ⟨outermost, hlast, houtermost⟩

theorem Machine.WellStacked.exists_construction {m : Machine} {text : Text} {rules : RuleSet}
    {parent : Frame} {below : List Frame} (h : m.WellStacked text rules)
    (hb : m.below = parent :: below) : ∃ c, m.top.construction = some c := by
  have hlaid := h.laid
  rw [frames, hb, List.isChain_cons_cons] at hlaid
  obtain ⟨⟨c, hc, _⟩, _⟩ := hlaid
  exact ⟨c, hc⟩

/-- Whatever machine a parse comes to, its frames are in order. Every step of a frame that is not
exhausted, if it succeeds, takes the frame forward, keeps what the frame was laid with and at most adds
to its nodes. Hence an exhausted frame on another one always has the construction that its nodes are
shaped by. -/
theorem parse_wellStacked_advances (limit : Option Int) (text : Text) (rules : RuleSet) (m : Machine)
    (h : Machine.Reaches limit (Machine.start text rules) m) :
    m.WellStacked text rules ∧
    (∀ (f g : Frame) (oc : Option Construction), 0 ≤ f.position → f.exhausted = false →
      f.step = .ok (g, oc) → f.Advances g) ∧
    (∀ parent below, m.top.exhausted = true → m.below = parent :: below →
      ∃ c, m.top.construction = some c ∧
        m.step limit =
          (c.shape m.top.closeLiteral.nodes).map fun s => .running ⟨parent.add s, below⟩) := by
  have hstack : m.WellStacked text rules := (Stacked.of_reaches h).wellStacked
  refine ⟨hstack, fun f g oc hp hx hstep => Frame.advances_of_step hp hx hstep, ?_⟩
  intro parent below hx hb
  obtain ⟨c, hc⟩ := hstack.exists_construction hb
  obtain ⟨top, waiting⟩ := m
  obtain rfl : waiting = parent :: below := hb
  exact ⟨c, hc, Machine.step_shape hx hc⟩

/-- After a literal, a bracket, an ignored blank and a first atom, the second atom has been read. Its
frame is the third, and the frame of the whole text has taken the literal as its first step. -/
theorem parse_wellStacked_atomInBracket :
    ∃ m, Machine.Reaches none (Machine.start ['a', '(', ' ', 'b', 'c'] [Rule.bracket]) m ∧
      m.below.length = 2 ∧ m.top.exhausted = true ∧ m.top.literalStart = some 0 ∧
      m.WellStacked ['a', '(', ' ', 'b', 'c'] [Rule.bracket] ∧
      (∃ c, m.top.construction = some c ∧ c.payload = ['c']) ∧
      ∃ f g : Frame, f.text = ['a', '(', ' ', 'b', 'c'] ∧ f.step = .ok (g, none) ∧ f.Advances g := by
  have h : Machine.Reaches none (Machine.start ['a', '(', ' ', 'b', 'c'] [Rule.bracket]) _ :=
    .head rfl (.head rfl (.head rfl (.head rfl (.head rfl (.head rfl (.head rfl (.single rfl)))))))
  obtain ⟨hstack, hadvances, hshape⟩ := parse_wellStacked_advances _ _ _ _ h
  obtain ⟨c, hc, _⟩ := hshape _ _ rfl rfl
  have hstep := Frame.step_of_silent (f := (Machine.start ['a', '(', ' ', 'b', 'c'] [Rule.bracket]).top)
    nofun (RuleSet.silent_of_findMatch rfl)
  exact ⟨_, h, rfl, rfl, rfl, hstack, ⟨c, hc, by cases hc; rfl⟩, _, _, rfl, hstep,
    hadvances _ _ _ (Int.le_refl 0) rfl hstep⟩

end RuleTree
