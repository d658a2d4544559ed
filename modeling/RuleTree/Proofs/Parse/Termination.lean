import RuleTree.Proofs.Parse.Nesting
import RuleTree.Proofs.Rule.Occurrence

/-!
# Parses that halt

Three reasons why regions cannot be opened one in another forever: a limit on the depth; rules that
drop themselves, so that rules run out whatever the formatters make of the text; and rules that
either shorten the text or drop themselves without lengthening it. The first two also bound the
height of the stack. Nothing is said of rule sets that give none of them.
-/

namespace RuleTree

theorem parse_halts_of_acc {limit : Option Int} {text : Text} {rules : RuleSet}
    (h : Acc (fun inner outer => Region.Opens limit outer inner) ⟨0, rules, text⟩) :
    ∃ steps out, parse steps limit text rules = some out := by
  obtain ⟨out, hd⟩ := Region.drive_of_acc h
  obtain ⟨steps, hrun⟩ := Machine.start_halts_of_drive hd
  exact ⟨steps, out, hrun⟩

/-! ## A limit on the depth -/

theorem Region.depth_le_of_opened {most : Int} {outer inner : Region}
    (h : Relation.ReflTransGen (Opens (some most)) outer inner) :
    (inner.depth : Int) ≤ max most outer.depth := by
  induction h with
  | refl => omega
  | tail _ ho _ =>
    have hle := ho.permits most rfl
    omega

/-- With a limit on the depth every parse halts, and no more frames are open than the limit and the
outermost one, whatever the rules, their matchers and their formatters are. -/
theorem parse_halts_of_limit (text : Text) (rules : RuleSet) (most : Int) :
    (∃ steps out, parse steps (some most) text rules = some out) ∧
    ∀ m, Machine.Reaches (some most) (Machine.start text rules) m →
      (m.frames.length : Int) ≤ max most 0 + 1 := by
  constructor
  · apply parse_halts_of_acc
    refine Region.acc_of_rank Nat.lt_wfRel.wf (fun _ => True)
      (fun region => (most - region.depth).toNat) ?_ trivial
    intro outer inner _ ho
    have hd := ho.depth_eq
    have hle := ho.permits most rfl
    refine ⟨trivial, ?_⟩
    change (most - inner.depth).toNat < (most - outer.depth).toNat
    omega
  · intro m hm
    have hle := Region.depth_le_of_opened (Stacked.of_reaches hm).opened
    simp only [Machine.frames, List.length_cons]
    push_cast at hle ⊢
    omega

/-! ## Rules that drop themselves -/

theorem Region.Opens.occurs {limit : Option Int} {outer inner : Region} {r : Rule}
    (h : Opens limit outer inner) (hr : RuleSet.Occurs r inner.rules) :
    RuleSet.Occurs r outer.rules := by
  cases h with
  | intro _ ha _ _ =>
    rw [ha.childRules_eq] at hr
    exact hr.of_childRules ha.answers.mem

/-- The rule is ignored, or no longer in force for the text that it captures. -/
def Rule.SelfDropping (r : Rule) : Prop := r.ignore = true ∨ r.DropsItself

/-- Opening a region uses up rules, if the matched rule is self-dropping. -/
theorem Region.Opens.occurrences_lt {limit : Option Int} {outer inner : Region}
    (h : Opens limit outer inner) (hr : ∀ r, RuleSet.Occurs r outer.rules → r.SelfDropping) :
    RuleSet.occurrences inner.rules < RuleSet.occurrences outer.rules := by
  cases h with
  | intro _ ha hi _ =>
    rcases hr _ (.member ha.answers.mem) with hign | hdrop
    · rw [hi] at hign
      cases hign
    · rw [ha.childRules_eq]
      exact hdrop.occurrences_childRules_lt ha.answers.mem

/-- Down a chain of regions the depth grows no faster than the rules are used up. -/
theorem Region.depth_add_occurrences_le {limit : Option Int} {outer inner : Region}
    (h : Relation.ReflTransGen (Opens limit) outer inner)
    (hr : ∀ r, RuleSet.Occurs r outer.rules → r.SelfDropping) :
    (∀ r, RuleSet.Occurs r inner.rules → r.SelfDropping) ∧
      inner.depth + RuleSet.occurrences inner.rules ≤
        outer.depth + RuleSet.occurrences outer.rules := by
  refine Region.depth_add_rank_le (fun region => ∀ r, RuleSet.Occurs r region.rules → r.SelfDropping)
    (fun region => RuleSet.occurrences region.rules) ?_ h hr
  intro outer inner hr ho
  exact ⟨fun r hocc => hr r (ho.occurs hocc), ho.occurrences_lt hr⟩

/-- If every rule that occurs in a rule set is self-dropping, every parse with it halts, also when
formatters lengthen the text, and the stack holds at most one frame more than there are occurrences
of rules. -/
theorem parse_halts_of_selfDropping (text : Text) (rules : RuleSet)
    (hrules : ∀ r, RuleSet.Occurs r rules → r.SelfDropping) :
    (∃ steps out, parse steps none text rules = some out) ∧
    ∀ m, Machine.Reaches none (Machine.start text rules) m →
      m.frames.length ≤ 1 + RuleSet.occurrences rules := by
  constructor
  · apply parse_halts_of_acc
    refine Region.acc_of_rank Nat.lt_wfRel.wf
      (fun region => ∀ r, RuleSet.Occurs r region.rules → r.SelfDropping)
      (fun region => RuleSet.occurrences region.rules) ?_ hrules
    intro outer inner hr ho
    exact ⟨fun r hocc => hr r (ho.occurs hocc), ho.occurrences_lt hr⟩
  · intro m hm
    have hle := (Region.depth_add_occurrences_le (Stacked.of_reaches hm).opened hrules).2
    simp only [Machine.frames, List.length_cons]
    simp only at hle
    omega

/-- Stands for two of the character that it matches, and includes a rule that drops itself by name. -/
def Rule.doubling : Rule where
  name := "twice"
  matcher := .function ⟨.named "one", fun
    | [] => .ok .null
    | _ :: _ => .ok (.list [.tuple [.int 0, .int 1]])⟩
  formatter := some (.function ⟨.named "double", fun t => .ok (t ++ t)⟩)
  included := [{
    name := "all"
    matcher := .function ⟨.named "whole", fun t => .ok (.list [.tuple [.int 0, .int t.length]])⟩
    exclude := some [⟨.str "all", none⟩] }]

theorem parse_halts_doubling :
    (∀ r, RuleSet.Occurs r [Rule.doubling] → r.SelfDropping) ∧
    (∃ steps out, parse steps none ['a', 'b'] [Rule.doubling] = some out) ∧
    ∀ m, Machine.Reaches none (Machine.start ['a', 'b'] [Rule.doubling]) m → m.frames.length ≤ 3 := by
  have hrules : ∀ r, RuleSet.Occurs r [Rule.doubling] → r.SelfDropping := by
    intro r hr
    simp only [RuleSet.occurs_cons, Rule.doubling, RuleSet.not_occurs_nil, reduceCtorEq, false_and,
      exists_const, or_false] at hr
    rcases hr with rfl | rfl
    · exact Or.inr (Or.inr (Or.inl rfl))
    · exact Or.inr (Or.inr (Or.inr ⟨_, rfl, _, List.mem_cons_self, by decide⟩))
  obtain ⟨hhalts, hheight⟩ := parse_halts_of_selfDropping ['a', 'b'] [Rule.doubling] hrules
  exact ⟨hrules, hhalts, hheight⟩

/-! ## Rules that shorten the text -/

namespace Rule

/-- Whatever the rule captures is shorter, once formatted, than the text it was found in. -/
def Shrinks (r : Rule) : Prop :=
  ∀ (text : Text) (spans : List Span) (rules : RuleSet) (c : Construction),
    r.matcher.spans text = .ok (some spans) → Match.prepare ⟨r, spans⟩ text rules = .ok c →
    c.payload.length < text.length

/-- Whatever the rule captures is, once formatted, no longer than the text it was found in. -/
def NeverGrows (r : Rule) : Prop :=
  ∀ (text : Text) (spans : List Span) (rules : RuleSet) (c : Construction),
    r.matcher.spans text = .ok (some spans) → Match.prepare ⟨r, spans⟩ text rules = .ok c →
    c.payload.length ≤ text.length

/-- The rule is ignored, or shortens what it captures, or drops itself without lengthening it. -/
def Contracts (r : Rule) : Prop :=
  r.ignore = true ∨ r.Shrinks ∨ (r.DropsItself ∧ r.NeverGrows)

theorem NeverGrows.of_unformatted {r : Rule} (hf : r.formatter = none) : r.NeverGrows := by
  intro text spans rules c _ hp
  obtain ⟨capture, _, _, hpayload⟩ := Match.prepare_unformatted hf hp
  rw [hpayload, Text.slice, List.length_drop, List.length_take]
  omega

/-- A rule without a formatter shrinks if it never captures the front of the text. -/
theorem Shrinks.of_unformatted {r : Rule} (hf : r.formatter = none)
    (hc : ∀ (text : Text) (spans : List Span) (capture : Span),
      r.matcher.spans text = .ok (some spans) → Match.captureSpan ⟨r, spans⟩ = .ok capture →
      capture.start ≠ 0) : r.Shrinks := by
  intro text spans rules c hm hp
  obtain ⟨capture, hcapture, hstart, hpayload⟩ := Match.prepare_unformatted hf hp
  have hne := hc text spans capture hm hcapture
  have hlen := (Match.prepare_nextText hm hp).2
  obtain ⟨n, hn⟩ := Int.eq_ofNat_of_zero_le hstart
  rw [hpayload, Text.slice, List.length_drop, List.length_take, hn, Text.place_of_nat]
  omega

end Rule

/-- Opening a region shortens the text, or keeps it from growing and uses up rules. -/
theorem Region.Opens.lex_lt {limit : Option Int} {outer inner : Region}
    (h : Opens limit outer inner) (hr : ∀ r, RuleSet.Occurs r outer.rules → r.Contracts) :
    Prod.Lex (· < ·) (· < ·) (inner.text.length, RuleSet.occurrences inner.rules)
      (outer.text.length, RuleSet.occurrences outer.rules) := by
  cases h with
  | @intro rest c hs ha hi _ =>
    have hle := hs.length_le
    rcases hr _ (.member ha.answers.mem) with hign | hshrinks | ⟨hdrop, hgrows⟩
    · rw [hi] at hign
      cases hign
    · have hlt := hshrinks rest c.found.spans outer.rules c ha.finds ha.prepared
      exact .left _ _ (by simp only; omega)
    · have hpay := hgrows rest c.found.spans outer.rules c ha.finds ha.prepared
      have hocc := hdrop.occurrences_childRules_lt ha.answers.mem
      rw [← ha.childRules_eq] at hocc
      rcases Nat.lt_or_eq_of_le (Nat.le_trans hpay hle) with hlt | heq
      · exact .left _ _ hlt
      · simp only [heq]
        exact .right _ hocc

/-- If every rule that occurs in a rule set is ignored, shortens what it captures, or drops itself
without lengthening what it captures, every parse with it halts. How much a rule that shortens its
text includes does not matter. -/
theorem parse_halts_of_contracts (text : Text) (rules : RuleSet)
    (hrules : ∀ r, RuleSet.Occurs r rules → r.Contracts) :
    ∃ steps out, parse steps none text rules = some out := by
  apply parse_halts_of_acc
  refine Region.acc_of_rank (Prod.lex Nat.lt_wfRel Nat.lt_wfRel).wf
    (fun region => ∀ r, RuleSet.Occurs r region.rules → r.Contracts)
    (fun region => (region.text.length, RuleSet.occurrences region.rules)) ?_ hrules
  intro outer inner hr ho
  exact ⟨fun r hocc => hr r (ho.occurs hocc), ho.lex_lt hr⟩

/-- An opening bracket captures all that follows it, keeps itself in force and brings in two rules. -/
def Rule.bracket : Rule where
  name := "bracket"
  matcher := .function ⟨.named "open", fun
    | '(' :: rest => .ok (.list [.tuple [.int 0, .int (rest.length + 1)],
        .tuple [.int 1, .int rest.length]])
    | _ => .ok .null⟩
  exclude := some []
  included := [{
      name := "blank"
      matcher := .function ⟨.named "blank", fun
        | ' ' :: _ => .ok (.list [.tuple [.int 0, .int 1]])
        | _ => .ok .null⟩
      exclude := some []
      ignore := true },
    { name := "atom"
      matcher := .function ⟨.named "atom", fun
        | [] => .ok .null
        | c :: _ => if c = '(' then .ok .null else .ok (.list [.tuple [.int 0, .int 1]])⟩
      replacement := some [] }]

theorem Rule.bracket_shrinks : Rule.bracket.Shrinks := by
  apply Rule.Shrinks.of_unformatted rfl
  intro text spans capture hm hc
  simp only [Rule.bracket, Matcher.spans] at hm
  obtain ⟨v, hv, hm⟩ := bind_eq_ok.mp hm
  rw [Parse.call_eq_ok] at hv
  split at hv
  · next rest =>
    cases hv
    have hl : ¬ ((rest.length : Int) + 1 < 0) := by omega
    have hl' : ¬ ((rest.length : Int) < 0) := by omega
    simp only [MatcherFunction.spans, Value.items?, List.mapM_cons, List.mapM_nil,
      MatcherFunction.span, Value.whole?, Whole.val, hl, hl', ↓reduceIte] at hm
    cases hm
    cases hc
    change (1 : Int) ≠ 0
    decide
  · cases hv
    cases hm

theorem parse_halts_bracket :
    (∀ r, RuleSet.Occurs r [Rule.bracket] → r.Contracts) ∧
    ∃ steps out, parse steps none ['(', ' ', '(', 'x'] [Rule.bracket] = some out := by
  have hrules : ∀ r, RuleSet.Occurs r [Rule.bracket] → r.Contracts := by
    intro r hr
    rcases RuleSet.occurs_cons.mp hr with rfl | hr | ⟨rs, he, _⟩ | hr
    · exact Or.inr (Or.inl Rule.bracket_shrinks)
    · simp only [Rule.bracket, RuleSet.occurs_cons, RuleSet.not_occurs_nil, reduceCtorEq, false_and,
        exists_const, Option.some.injEq, exists_eq_left', or_false, false_or] at hr
      rcases hr with rfl | rfl
      · exact Or.inl rfl
      · exact Or.inr (Or.inr ⟨Or.inl rfl, .of_unformatted rfl⟩)
    · cases he
    · exact absurd hr RuleSet.not_occurs_nil
  exact ⟨hrules, parse_halts_of_contracts ['(', ' ', '(', 'x'] [Rule.bracket] hrules⟩

end RuleTree
