import Mathlib.Data.List.Forall2
import RuleTree.Proofs.Node.Contents
import RuleTree.Proofs.Parse.Success
import RuleTree.Proofs.Parse.Termination

/-!
# The surface of a parse

What a match captures, how it is formatted and under which rules it is parsed are matters of the
level below. At the level of the match itself, two parses whose rules differ in nothing else find the
same matches, read the same literal runs and name and tag their branches alike. This is about parses
that both return nodes: what happens below can make one of them fail. Skipped rules are left out,
since they bring nodes up from below.
-/

namespace RuleTree

/-- The node without what is below it. -/
def Node.bare : Node → Node
  | text t => text t
  | branch name _ => branch name []
  | tagged name _ v => tagged name [] v

/-- The rules agree in all that concerns the level of their matches. -/
structure Rule.SameSurface (r r' : Rule) : Prop where
  name : r.name = r'.name
  matcher : r.matcher = r'.matcher
  option : r.option = r'.option
  ignore : r.ignore = r'.ignore

/-- The matches agree in all that concerns their own level. -/
structure Construction.SameSurface (c c' : Construction) : Prop where
  rule : c.found.rule.SameSurface c'.found.rule
  spans : c.found.spans = c'.found.spans
  source : c.source = c'.source
  nextText : c.nextText = c'.nextText

/-! ## Matches -/

namespace RuleSet

variable {rules rules' : RuleSet} {text : Text} {c c' : Construction}

theorem silent_iff_of_same (h : List.Forall₂ Rule.SameSurface rules rules') :
    rules.Silent text ↔ rules'.Silent text := by
  induction h with
  | nil => rfl
  | cons hr _ ih => rw [silent_cons, silent_cons, hr.matcher, ih]

theorem Silent.not_accepts (h : rules.Silent text) : ¬ rules.Accepts text c := by
  intro ha
  cases (h _ ha.answers.mem).symm.trans ha.finds

/-- The first rule that finds a match stands at the same place in both rule sets. -/
theorem findMatch_of_same (h : List.Forall₂ Rule.SameSurface rules rules') {m : Match}
    (hm : rules.findMatch text = .ok (some m)) :
    ∃ r', rules'.findMatch text = .ok (some ⟨r', m.spans⟩) ∧ m.rule.SameSurface r' := by
  induction h with
  | nil => cases hm
  | @cons r r' rs rs' hr _ ih =>
    cases hs : r.matcher.spans text with
    | error e =>
      rw [findMatch_cons_error hs] at hm
      cases hm
    | ok found =>
      have hs' := hs
      rw [hr.matcher] at hs'
      cases found with
      | none =>
        rw [findMatch_cons_none hs] at hm
        rw [findMatch_cons_none hs']
        exact ih hm
      | some spans =>
        rw [findMatch_cons_some hs] at hm
        cases hm
        exact ⟨r', findMatch_cons_some hs', hr⟩

/-- The text behind a match follows from the first of its spans. -/
theorem Accepts.nextText_eq {entire : Span} {others : List Span} (h : rules.Accepts text c)
    (hs : c.found.spans = entire :: others) : c.nextText = Text.sliceFrom text entire.stop := by
  obtain ⟨_, stop, hcut, _, _, hnext, _⟩ := Match.prepare_ok h.prepared
  obtain ⟨entire', others', hs', rfl, _⟩ := Match.consumedEnd_ok (Match.cut_ok hcut).1
  obtain ⟨rfl, _⟩ := List.cons.inj (hs.symm.trans hs')
  exact hnext

theorem Accepts.sameSurface (h : List.Forall₂ Rule.SameSurface rules rules')
    (ha : rules.Accepts text c) (ha' : rules'.Accepts text c') : c.SameSurface c' := by
  obtain ⟨r', hfind, hr⟩ := findMatch_of_same h (ha.answers.findMatch_some ha.finds)
  have hfound : c'.found = ⟨r', c.found.spans⟩ :=
    Option.some.inj (Except.ok.inj ((ha'.answers.findMatch_some ha'.finds).symm.trans hfind))
  have hspans : c.found.spans = c'.found.spans := by rw [hfound]
  obtain ⟨entire, others, hs, _⟩ := Matcher.spans_first ha.finds
  obtain ⟨_, _, _, _, _, _, hsource, _⟩ := Match.prepare_ok ha.prepared
  obtain ⟨_, _, _, _, _, _, hsource', _⟩ := Match.prepare_ok ha'.prepared
  constructor
  · rw [hfound]
    exact hr
  · exact hspans
  · rw [hsource, hsource']
  · rw [ha.nextText_eq hs, ha'.nextText_eq (hspans.symm.trans hs)]

end RuleSet

/-- Whatever has become of the captured texts, the branches around them are named and tagged alike:
an option sees the text of the matcher and the spans, and neither the payload nor the children. -/
theorem Construction.SameSurface.shape_bare {c c' : Construction} {children children' : List Node}
    {s s' : Shaped} (h : c.SameSurface c') (hskip : c.found.rule.skip = false)
    (hskip' : c'.found.rule.skip = false) (hs : c.shape children = .ok s)
    (hs' : c'.shape children' = .ok s') : s.nodes.map Node.bare = s'.nodes.map Node.bare := by
  have hname := h.rule.name
  have hoption := h.rule.option
  cases ho : c.found.rule.option with
  | none =>
    rw [shape_of_branch hskip ho] at hs
    rw [shape_of_branch hskip' (hoption.symm.trans ho), ← hname] at hs'
    cases hs
    cases hs'
    rfl
  | some o =>
    rw [shape_of_tagged hskip ho] at hs
    rw [shape_of_tagged hskip' (hoption.symm.trans ho), ← hname, ← h.source, ← h.spans] at hs'
    obtain ⟨v, hv, rfl⟩ := map_eq_ok.mp hs
    obtain ⟨v', hv', rfl⟩ := map_eq_ok.mp hs'
    cases hv.symm.trans hv'
    rfl

/-! ## Parses -/

/-- The two parses go through their text in step. -/
theorem Yields.bare_eq {limit : Option Int} {depth : Nat} {rules : RuleSet} {pending rest : Text}
    {nodes : List Node} (h : Yields limit depth rules pending rest nodes) {limit' : Option Int}
    {depth' : Nat} {rules' : RuleSet} {nodes' : List Node}
    (hsame : List.Forall₂ Rule.SameSurface rules rules') (hskip : ∀ r ∈ rules, r.skip = false)
    (hskip' : ∀ r ∈ rules', r.skip = false)
    (h' : Yields limit' depth' rules' pending rest nodes') :
    nodes.map Node.bare = nodes'.map Node.bare := by
  -- The rules of both answer alike on every text, which leaves one case of the second parse for each
  -- case of the first. The payloads are never compared.
  induction h generalizing nodes' with
  | done =>
    cases h' with
    | done => rfl
    | ignored ha' _ _ => exact absurd rfl ha'.text_ne_nil
    | nested ha' _ _ _ _ _ => exact absurd rfl ha'.text_ne_nil
  | literal hs _ ih =>
    have hs' := (RuleSet.silent_iff_of_same hsame).mp hs
    cases h' with
    | literal _ hrest => exact ih hsame hskip hrest
    | ignored ha' _ _ => exact absurd ha' hs'.not_accepts
    | nested ha' _ _ _ _ _ => exact absurd ha' hs'.not_accepts
  | ignored ha hi _ ih =>
    cases h' with
    | done => exact absurd rfl ha.text_ne_nil
    | literal hs' _ => exact absurd ha ((RuleSet.silent_iff_of_same hsame).mpr hs').not_accepts
    | ignored ha' _ hrest =>
      have hc := RuleSet.Accepts.sameSurface hsame ha ha'
      rw [← hc.nextText] at hrest
      rw [List.map_append, List.map_append, ih hsame hskip hrest]
    | nested ha' hi' _ _ _ _ =>
      have hc := RuleSet.Accepts.sameSurface hsame ha ha'
      rw [hc.rule.ignore, hi'] at hi
      cases hi
  | nested ha hi _ _ hs _ _ ihrest =>
    cases h' with
    | done => exact absurd rfl ha.text_ne_nil
    | literal hs' _ => exact absurd ha ((RuleSet.silent_iff_of_same hsame).mpr hs').not_accepts
    | ignored ha' hi' _ =>
      have hc := RuleSet.Accepts.sameSurface hsame ha ha'
      rw [hc.rule.ignore, hi'] at hi
      cases hi
    | nested ha' _ _ _ hs' hrest =>
      have hc := RuleSet.Accepts.sameSurface hsame ha ha'
      have hbare := hc.shape_bare (hskip _ ha.answers.mem) (hskip' _ ha'.answers.mem) hs hs'
      rw [← hc.nextText] at hrest
      simp only [List.map_append, hbare, ihrest hsame hskip hrest]

/-- Let two rule sets agree, rule by rule, on name, matcher, option and `ignore`, and skip no rule,
whatever else they set. If both parses of a text return nodes, these are the same at the top, place by
place: the same literals, the same names, the same tags. Only what is below may differ. -/
theorem parse_surface_eq (text : Text) (rules rules' : RuleSet)
    (hsame : List.Forall₂ Rule.SameSurface rules rules') (hskip : ∀ r ∈ rules, r.skip = false)
    (hskip' : ∀ r ∈ rules', r.skip = false) (limit limit' : Option Int) (steps steps' : Nat)
    (nodes nodes' : List Node) (h : parse steps limit text rules = some (.ok nodes))
    (h' : parse steps' limit' text rules' = some (.ok nodes')) :
    nodes.map Node.bare = nodes'.map Node.bare := by
  have hyields := parse_ok_iff_yields.mp ⟨steps, h⟩
  exact hyields.bare_eq hsame hskip hskip' (parse_ok_iff_yields.mp ⟨steps', h'⟩)

/-- A bracket that is tagged with the text that it was found in. -/
def Rule.quotingBracket : Rule :=
  { Rule.bracket with
    option := some (.function ⟨.named "quote", fun t _ => .ok (.str (String.ofList t))⟩) }

/-- The same with all of the match captured, a fixed text in its place and no rules for this. -/
def Rule.maskedBracket : Rule :=
  { Rule.quotingBracket with
    capture := some 0
    formatter := some (.literal ['z'])
    exclude := none
    included := []
    replacement := some [] }

/-- The tags are the same, since both quote the text before anything is captured or formatted. -/
theorem parse_surface_brackets :
    List.Forall₂ Rule.SameSurface [Rule.quotingBracket] [Rule.maskedBracket] ∧
    parse 20 none ['a', '(', 'b'] [Rule.quotingBracket] = some (.ok [.text ['a'],
      .tagged "bracket" [.branch "atom" [.text ['b']]] (.str (String.ofList ['(', 'b']))]) ∧
    parse 20 (some 1) ['a', '(', 'b'] [Rule.maskedBracket] = some (.ok [.text ['a'],
      .tagged "bracket" [.text ['z']] (.str (String.ofList ['(', 'b']))]) ∧
    List.map Node.bare [.text ['a'],
      .tagged "bracket" [.branch "atom" [.text ['b']]] (.str (String.ofList ['(', 'b']))] =
    List.map Node.bare [.text ['a'],
      .tagged "bracket" [.text ['z']] (.str (String.ofList ['(', 'b']))] := by
  have hsame : List.Forall₂ Rule.SameSurface [Rule.quotingBracket] [Rule.maskedBracket] :=
    .cons ⟨rfl, rfl, rfl, rfl⟩ .nil
  refine ⟨hsame, rfl, rfl, parse_surface_eq ['a', '(', 'b'] _ _ hsame ?_ ?_ none (some 1) 20 20 _ _
    rfl rfl⟩
  · intro r hr
    rw [List.mem_singleton.mp hr]
    rfl
  · intro r hr
    rw [List.mem_singleton.mp hr]
    rfl

end RuleTree
