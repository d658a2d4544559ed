import RuleTree.Proofs.Node.Replacement
import RuleTree.Proofs.Parse.LiteralText

/-!
# Skipped rules

Whether a rule is skipped shows only where an exhausted frame hands over its nodes. A machine that
skips the rules of a name therefore goes step by step with one that does not, and differs from it in
that the branches of that name are spliced in all of its frames. An option that fails would break the
step at the handing over, so the options of these rules are assumed not to fail.
-/

namespace RuleTree

/-- The rules of the name are skipped, or none of them is. -/
def Treatment.skipping (name : String) (skip : Bool) : Treatment := ⟨name, id, fun _ => skip⟩

theorem Treatment.skipping_overrides (name : String) (skip skip' : Bool) :
    (skipping name skip).Overrides (skipping name skip') :=
  ⟨rfl, fun _ => rfl, fun _ => rfl⟩

/-- The option of the rule, if it has one, never fails. -/
def Rule.OptionTotal (r : Rule) : Prop :=
  ∀ o, r.option = some o → ∀ text spans, ∃ v, o.value text spans = .ok v

/-- If the rule has the name, its matches make branches, and no option fails on them. -/
def Rule.Branches (name : String) (r : Rule) : Prop :=
  r.name = name → r.skip = false ∧ r.OptionTotal

variable {limit : Option Int} {text : Text} {rules : RuleSet} {name : String}

/-! ## Frames -/

/-- What becomes of the construction in the machine that skips. -/
def Construction.spliced (name : String) (c : Construction) : Construction :=
  c.treated (.skipping name true)

/-- A match hands over the same nodes up to splicing. -/
theorem Construction.shape_spliced {c : Construction} (hc : c.found.rule.Branches name)
    (children : List Node) :
    Shaped.nodes <$> (c.spliced name).shape (Node.spliced name children) =
      (fun s => Node.spliced name s.nodes) <$> c.shape children := by
  by_cases hname : c.found.rule.name = name
  · obtain ⟨hskip, htotal⟩ := hc hname
    have hskipped : (c.spliced name).found.rule.skip = true := by
      rw [spliced, c.treated_rule, Rule.treated_skip]
      exact if_pos hname
    -- The skipped match never asks for the option; the other one does, and must get a value.
    rw [shape_of_skip hskipped]
    cases ho : c.found.rule.option with
    | none =>
      rw [shape_of_branch hskip ho]
      change Except.ok _ = Except.ok (Node.spliced name [_])
      rw [Node.spliced, Node.replacedAll_branch, if_pos hname]
      rfl
    | some o =>
      obtain ⟨v, hv⟩ := htotal o ho c.source c.found.spans
      rw [shape_of_tagged hskip ho, hv]
      change Except.ok _ = Except.ok (Node.spliced name [_])
      rw [Node.spliced, Node.replacedAll_tagged, if_pos hname]
      rfl
  · exact shape_treated_of_ne (t := .skipping name true) hname id children

namespace Frame

/-- What becomes of the frame in the machine that skips. -/
def spliced (name : String) (f : Frame) : Frame :=
  { f with
    rules := f.rules.treated (.skipping name true)
    construction := f.construction.map (Construction.spliced name)
    nodes := Node.spliced name f.nodes }

theorem closeLiteral_spliced (f : Frame) :
    (f.spliced name).closeLiteral = f.closeLiteral.spliced name := by
  cases hs : f.literalStart with
  | none => simp only [closeLiteral, hs, spliced]
  | some start =>
    simp only [closeLiteral, hs, spliced, Node.spliced, Node.replacedAll_append,
      Node.replacedAll_text]

theorem behind_spliced (f : Frame) (c : Construction) :
    (f.spliced name).behind (c.spliced name) = (f.behind c).spliced name := by
  simp only [behind, consume, closeLiteral_spliced]
  rfl

theorem add_spliced (f : Frame) {s s' : Shaped} (h : s'.nodes = Node.spliced name s.nodes) :
    (f.spliced name).add s' = (f.add s).spliced name := by
  simp only [add, spliced, h, Node.spliced, Node.replacedAll_append]

/-- A step of a frame does not depend on which rules are skipped. -/
theorem step_spliced (f : Frame) (name : String) :
    (f.spliced name).step =
      (fun p => (p.1.spliced name, p.2.map (Construction.spliced name))) <$> f.step := by
  by_cases hnil : f.rules = []
  · have hnil' : (f.spliced name).rules = [] := by simp only [spliced, hnil]; rfl
    rw [step_of_no_rules hnil, step_of_no_rules hnil']
    rfl
  have hnil' : (f.spliced name).rules ≠ [] := by
    simpa only [spliced, RuleSet.treated_eq_map, ne_eq, List.map_eq_nil_iff] using hnil
  rcases f.rules.answer_cases f.remaining with hs | ⟨r, spans, ha, hm⟩ | ⟨r, e, ha, hm⟩
  · rw [step_of_silent hnil hs, step_of_silent hnil' (hs.treated _)]
    rfl
  · have hm' : (r.treated (.skipping name true)).matcher.spans f.remaining = .ok (some spans) := by
      rw [Rule.treated_matcher, hm]
    have hprepare := Match.prepare_treated (t := .skipping name true) ⟨r, spans⟩ f.remaining f.rules
    cases hp : Match.prepare ⟨r, spans⟩ f.remaining f.rules with
    | error e =>
      rw [hp] at hprepare
      rw [step_of_rejected ha hm hp]
      exact step_of_rejected (ha.treated _) hm' hprepare
    | ok c =>
      have hc := RuleSet.Accepts.of_prepare ha hm hp
      have hignore : (c.spliced name).found.rule.ignore = c.found.rule.ignore := by
        rw [Construction.spliced, c.treated_rule, Rule.treated_ignore]
        exact ite_self _
      have hstep := step_of_accepted (f := f.spliced name) (hc.treated (.skipping name true))
      change step _ = Except.ok ((f.spliced name).behind (c.spliced name),
        if (c.spliced name).found.rule.ignore then none else some (c.spliced name)) at hstep
      rw [hstep, step_of_accepted hc, hignore, behind_spliced]
      cases c.found.rule.ignore <;> rfl
  · have hm' : (r.treated (.skipping name true)).matcher.spans f.remaining = .error e := by
      rw [Rule.treated_matcher, hm]
    rw [step_of_failing ha hm]
    exact step_of_failing (ha.treated _) hm'

end Frame

/-! ## Machines -/

namespace Machine

/-- The machine that skips the rules of the name. -/
def spliced (name : String) (m : Machine) : Machine :=
  ⟨m.top.spliced name, m.below.map (Frame.spliced name)⟩

end Machine

def Progress.spliced (name : String) : Progress → Progress
  | running m => running (m.spliced name)
  | finished nodes => finished (Node.spliced name nodes)

namespace Machine

variable {m : Machine}

/-- An exhausted frame hands over the same nodes up to splicing, in one step in both machines. -/
theorem step_spliced_of_exhausted (hs : Stacked limit text rules m.top m.below)
    (hc : ∀ c, m.top.construction = some c → c.found.rule.Branches name)
    (hx : m.top.exhausted = true) :
    (m.spliced name).step limit = Progress.spliced name <$> m.step limit := by
  obtain ⟨f, below⟩ := m
  change step limit ⟨f.spliced name, below.map (Frame.spliced name)⟩ = _
  have hx' : (f.spliced name).exhausted = true := hx
  cases hs with
  | bottom =>
    rw [step_finished hx, List.map_nil, step_finished hx', Frame.closeLiteral_spliced]
    rfl
  | @above _ parent below c _ hl _ =>
    have hcon : f.construction = some c := hl.construction
    have hcon' : (f.spliced name).construction = some (c.spliced name) := by
      rw [Frame.spliced, hcon]
      rfl
    have hnodes : (f.spliced name).closeLiteral.nodes = Node.spliced name f.closeLiteral.nodes := by
      rw [Frame.closeLiteral_spliced]
      rfl
    have hshape := Construction.shape_spliced (hc c hcon) f.closeLiteral.nodes
    rw [← hnodes] at hshape
    cases hsh : c.shape f.closeLiteral.nodes with
    | error e =>
      rw [hsh] at hshape
      rw [step_unshaped hx hcon hsh]
      exact step_unshaped hx' hcon' (map_eq_error.mp hshape)
    | ok s =>
      rw [hsh] at hshape
      obtain ⟨s', hs', hadd⟩ := map_eq_ok.mp hshape
      have hn : step limit ⟨f, parent :: below⟩ = .ok (.running ⟨parent.add s, below⟩) :=
        step_pop hx hcon hsh
      rw [hn, List.map_cons]
      refine (step_pop hx' hcon' hs').trans ?_
      rw [Frame.add_spliced parent hadd]
      rfl

/-- Within a frame, and where a frame is opened, the machines differ in nothing but their frames. -/
theorem step_spliced_of_reading (hx : m.top.exhausted = false) :
    (m.spliced name).step limit = Progress.spliced name <$> m.step limit := by
  obtain ⟨f, below⟩ := m
  change step limit ⟨f.spliced name, below.map (Frame.spliced name)⟩ = _
  have hx' : (f.spliced name).exhausted = false := hx
  have hlen : (below.map (Frame.spliced name)).length = below.length := List.length_map _
  have hf := f.step_spliced name
  cases hstep : f.step with
  | error e =>
    rw [hstep] at hf
    rw [step_error hx hstep]
    exact step_error hx' hf
  | ok r =>
    obtain ⟨g, oc⟩ := r
    rw [hstep] at hf
    cases oc with
    | none =>
      have hn : step limit ⟨f, below⟩ = .ok (.running ⟨g, below⟩) := step_within hx hstep
      rw [hn]
      exact step_within hx' hf
    | some c =>
      have hname : (c.spliced name).found.rule.name = c.found.rule.name := Rule.treated_name _
      rcases permits_or_exceeded limit (below.length + 1) with hl | ⟨most, rfl, hlt⟩
      · have hn : step limit ⟨f, below⟩ = .ok (.running ⟨.ofConstruction c, g :: below⟩) :=
          step_push hx hstep hl
        rw [hn]
        exact step_push hx' hf (by rwa [hlen])
      · rw [step_tooDeep hx hstep (by omega)]
        refine (step_tooDeep hx' hf (by omega)).trans ?_
        rw [hname]
        rfl

/-- A step of the machine that skips is the step of the machine that does not, spliced. -/
theorem step_spliced (hs : Stacked limit text rules m.top m.below)
    (hc : ∀ c, m.top.construction = some c → c.found.rule.Branches name) :
    (m.spliced name).step limit = Progress.spliced name <$> m.step limit := by
  cases hx : m.top.exhausted with
  | true => exact step_spliced_of_exhausted hs hc hx
  | false => exact step_spliced_of_reading hx

/-- Frames are only opened for rules that occur. -/
theorem Reaches.construction_occurs (h : Reaches limit (start text rules) m) :
    ∀ f ∈ m.frames, ∀ c, f.construction = some c → RuleSet.Occurs c.found.rule rules :=
  fun f hf c hc => (h.opened f hf c hc).occurs

/-- The two machines stop after the same number of steps, with the same outcome up to splicing. -/
theorem run_spliced (hrules : ∀ r, RuleSet.Occurs r rules → r.Branches name) (steps : Nat)
    (h : Reaches limit (start text rules) m) :
    (m.spliced name).run limit steps = (m.run limit steps).map (Node.spliced name <$> ·) := by
  induction steps generalizing m with
  | zero => rfl
  | succ steps ih =>
    have hstep := step_spliced (Stacked.of_reaches h) fun c hc =>
      hrules _ (h.construction_occurs m.top List.mem_cons_self c hc)
    simp only [run, hstep]
    cases hm : m.step limit with
    | error e => rfl
    | ok progress =>
      cases progress with
      | finished nodes => rfl
      | running next => exact ih (h.tail hm)

end Machine

/-- Skipping all rules of a name splices the branches of that name, and does nothing else. With any
number of steps, the two parses have both come to an outcome or both not; they have the same error, or
the nodes of the one are those of the other with each branch of the name replaced in place by its
children. The options of these rules must not fail. -/
theorem parse_skip_eq_spliced (limit : Option Int) (text : Text) (rules : RuleSet) (name : String)
    (hoption : ∀ r, RuleSet.Occurs r rules → r.name = name → r.OptionTotal) (steps : Nat) :
    parse steps limit text (rules.treated (.skipping name true)) =
      (parse steps limit text (rules.treated (.skipping name false))).map
        (Node.spliced name <$> ·) := by
  have hrules : ∀ r, RuleSet.Occurs r (rules.treated (.skipping name false)) → r.Branches name := by
    intro r hr hname
    obtain ⟨s, hs, rfl⟩ := hr.of_treated
    rw [Rule.treated_name] at hname
    constructor
    · rw [Rule.treated_skip]
      exact if_pos hname
    · intro o ho
      rw [Rule.treated_option] at ho
      exact hoption s hs hname o ho
  rw [← RuleSet.treated_treated (Treatment.skipping_overrides name true false) rules]
  exact Machine.run_spliced hrules steps .refl

/-- A bracket that carries a number and includes nothing. -/
def Rule.numberedBracket : Rule :=
  { Rule.bracket with option := some (.literal (.int 1)), included := [] }

/-- The brackets go at both levels, and the literal runs that they parted stay apart. -/
theorem parse_skip_numberedBracket :
    (∀ r, RuleSet.Occurs r [Rule.numberedBracket] → r.name = "bracket" → r.OptionTotal) ∧
    parse 20 none ['a', '(', 'b', '(', 'c']
        (RuleSet.treated (.skipping "bracket" false) [Rule.numberedBracket]) =
      some (.ok [.text ['a'], .tagged "bracket" [.text ['b'], .tagged "bracket" [.text ['c']]
        (.int 1)] (.int 1)]) ∧
    parse 20 none ['a', '(', 'b', '(', 'c']
        (RuleSet.treated (.skipping "bracket" true) [Rule.numberedBracket]) =
      some (.ok [.text ['a'], .text ['b'], .text ['c']]) := by
  have hoption : ∀ r, RuleSet.Occurs r [Rule.numberedBracket] → r.name = "bracket" →
      r.OptionTotal := by
    intro r hr _ o ho text spans
    simp only [RuleSet.occurs_cons, Rule.numberedBracket, Rule.bracket, RuleSet.not_occurs_nil,
      reduceCtorEq, false_and, exists_const, or_false] at hr
    subst hr
    cases ho
    exact ⟨.int 1, rfl⟩
  have h : parse 20 none ['a', '(', 'b', '(', 'c']
        (RuleSet.treated (.skipping "bracket" false) [Rule.numberedBracket]) =
      some (.ok [.text ['a'], .tagged "bracket" [.text ['b'], .tagged "bracket" [.text ['c']]
        (.int 1)] (.int 1)]) := rfl
  refine ⟨hoption, h, ?_⟩
  rw [parse_skip_eq_spliced none _ _ "bracket" hoption, h]
  rfl

end RuleTree
