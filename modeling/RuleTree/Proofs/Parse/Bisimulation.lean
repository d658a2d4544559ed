import RuleTree.Proofs.Parse.Surface

/-!
# Rule sets that parse alike

Rule sets need not be equal to parse every text alike. It is enough that they find the same matches
and that the rule sets for the captured texts parse alike again. A relation between rule sets with
this property is a bisimulation; related rule sets have the same outcomes, and where the one has none
the other has none. How many steps it takes is not the same for both: a frame without rules reads its
text at once.
-/

namespace RuleTree

/-- The rules make the same of their matches. The rules for the captured text are left out. -/
structure Rule.SameEffect (r r' : Rule) : Prop extends r.SameSurface r' where
  capture : r.capture = r'.capture
  formatter : r.formatter = r'.formatter
  skip : r.skip = r'.skip

namespace Rule.SameEffect

variable {r r' s : Rule}

theorem refl (r : Rule) : r.SameEffect r := ⟨⟨rfl, rfl, rfl, rfl⟩, rfl, rfl, rfl⟩

theorem symm (h : r.SameEffect r') : r'.SameEffect r :=
  ⟨⟨h.name.symm, h.matcher.symm, h.option.symm, h.ignore.symm⟩, h.capture.symm, h.formatter.symm,
    h.skip.symm⟩

theorem trans (h : r.SameEffect r') (h' : r'.SameEffect s) : r.SameEffect s :=
  ⟨⟨h.name.trans h'.name, h.matcher.trans h'.matcher, h.option.trans h'.option,
    h.ignore.trans h'.ignore⟩, h.capture.trans h'.capture, h.formatter.trans h'.formatter,
    h.skip.trans h'.skip⟩

/-- A match is prepared alike by both rules, but for the rule itself and the rules of its text. -/
theorem prepare_eq (h : r.SameEffect r') (spans : List Span) (text : Text) (rules rules' : RuleSet) :
    Match.prepare ⟨r', spans⟩ text rules' =
      (fun c => { c with found := ⟨r', spans⟩, childRules := r'.childRules rules' }) <$>
        Match.prepare ⟨r, spans⟩ text rules := by
  have hcut : Match.cut ⟨r', spans⟩ text = Match.cut ⟨r, spans⟩ text := by
    simp only [Match.cut, Match.consumedEnd, Match.captureSpan, h.name, h.capture]
  simp only [Match.prepare, hcut, h.formatter]
  cases Match.cut ⟨r, spans⟩ text with
  | error e => rfl
  | ok cut =>
    simp only [bind, Except.bind]
    cases Formatter.format r'.formatter cut.1 <;> rfl

end Rule.SameEffect

/-- The matches consume the same text, capture the same and make the same of it. -/
structure Construction.SameEffect (c c' : Construction) : Prop extends c.SameSurface c' where
  effect : c.found.rule.SameEffect c'.found.rule
  payload : c.payload = c'.payload

theorem Construction.SameEffect.shape_eq {c c' : Construction} (h : c.SameEffect c')
    (children : List Node) : c'.shape children = c.shape children := by
  simp only [shape, h.effect.skip, h.effect.option, h.effect.name, h.source, h.spans]

namespace RuleSet

/-- What two rule sets find in a text: nothing, the same failure, or the same spans by rules of the
same effect with related child rules. -/
inductive FindAlike (R : RuleSet → RuleSet → Prop) (rules rules' : RuleSet) :
    Parse (Option Match) → Parse (Option Match) → Prop
  | nothing : FindAlike R rules rules' (.ok none) (.ok none)
  | failure (e : ParseError) : FindAlike R rules rules' (.error e) (.error e)
  | found {r r' : Rule} (spans : List Span) : r.SameEffect r' →
      R (r.childRules rules) (r'.childRules rules') →
      FindAlike R rules rules' (.ok (some ⟨r, spans⟩)) (.ok (some ⟨r', spans⟩))

/-- Related rule sets find alike in every text. -/
def Bisimulation (R : RuleSet → RuleSet → Prop) : Prop :=
  ∀ rules rules', R rules rules' → ∀ text,
    FindAlike R rules rules' (rules.findMatch text) (rules'.findMatch text)

variable {R : RuleSet → RuleSet → Prop} {rules rules' : RuleSet} {text : Text}

theorem FindAlike.symm {found found' : Parse (Option Match)}
    (h : FindAlike R rules rules' found found') : FindAlike (flip R) rules' rules found' found := by
  cases h with
  | nothing => exact .nothing
  | failure e => exact .failure e
  | found spans hs hc => exact .found spans hs.symm hc

namespace Bisimulation

theorem symm (h : Bisimulation R) : Bisimulation (flip R) :=
  fun rules rules' hr text => (h rules' rules hr text).symm

theorem silent (h : Bisimulation R) (hr : R rules rules') (hs : rules.Silent text) :
    rules'.Silent text := by
  have halike := h rules rules' hr text
  rw [hs.findMatch] at halike
  generalize hfind : rules'.findMatch text = found at halike
  cases halike with
  | nothing => exact silent_of_findMatch hfind

theorem answers_error (h : Bisimulation R) (hr : R rules rules') {r : Rule} {e : ParseError}
    (ha : rules.Answers text r) (hm : r.matcher.spans text = .error e) :
    ∃ r', rules'.Answers text r' ∧ r'.matcher.spans text = .error e := by
  have halike := h rules rules' hr text
  rw [ha.findMatch_error hm] at halike
  generalize hfind : rules'.findMatch text = found at halike
  cases halike with
  | failure => exact answers_of_findMatch_error hfind

theorem answers_some (h : Bisimulation R) (hr : R rules rules') {r : Rule} {spans : List Span}
    (ha : rules.Answers text r) (hm : r.matcher.spans text = .ok (some spans)) :
    ∃ r', rules'.Answers text r' ∧ r'.matcher.spans text = .ok (some spans) ∧ r.SameEffect r' ∧
      R (r.childRules rules) (r'.childRules rules') := by
  have halike := h rules rules' hr text
  rw [ha.findMatch_some hm] at halike
  generalize hfind : rules'.findMatch text = found at halike
  cases halike with
  | found _ hs hc =>
    obtain ⟨ha', hm'⟩ := answers_of_findMatch_some hfind
    exact ⟨_, ha', hm', hs, hc⟩

theorem accepts (h : Bisimulation R) (hr : R rules rules') {c : Construction}
    (ha : rules.Accepts text c) :
    ∃ c', rules'.Accepts text c' ∧ c.SameEffect c' ∧
      R (c.found.rule.childRules rules) (c'.found.rule.childRules rules') := by
  obtain ⟨r', ha', hm', hs, hc⟩ := h.answers_some hr ha.answers ha.finds
  have hp := hs.prepare_eq c.found.spans text rules rules'
  rw [ha.prepared] at hp
  exact ⟨_, .of_prepare ha' hm' hp, ⟨⟨hs.toSameSurface, rfl, rfl, rfl⟩, hs, rfl⟩, hc⟩

/-- The recursive meaning of a parse goes over to the related rule set, case by case. -/
theorem drive (hR : Bisimulation R) {limit : Option Int} {depth : Nat} {pending rest : Text}
    {out : Parse (List Node)} (h : Drive limit depth rules pending rest out) :
    ∀ rules', R rules rules' → Drive limit depth rules' pending rest out := by
  induction h with
  | done => exact fun _ _ => .done
  | literal hs _ ih => exact fun rules' hr => .literal (hR.silent hr hs) (ih rules' hr)
  | failed hne ha hm =>
    intro rules' hr
    obtain ⟨r', ha', hm'⟩ := hR.answers_error hr ha hm
    exact .failed hne ha' hm'
  | rejected hne ha hm hp =>
    intro rules' hr
    obtain ⟨r', ha', hm', hs, _⟩ := hR.answers_some hr ha hm
    refine .rejected hne ha' hm' ?_
    rw [hs.prepare_eq, hp]
    rfl
  | ignored ha hi _ ih =>
    intro rules' hr
    obtain ⟨c', ha', hs, _⟩ := hR.accepts hr ha
    rw [hs.rule.ignore] at hi
    rw [hs.nextText] at ih
    exact .ignored ha' hi (ih rules' hr)
  | tooDeep ha hi hl hlt =>
    intro rules' hr
    obtain ⟨c', ha', hs, _⟩ := hR.accepts hr ha
    rw [hs.rule.ignore] at hi
    rw [hs.rule.name]
    exact .tooDeep ha' hi hl hlt
  | @broken _ _ _ _ c inner _ ha hi hl _ hsh ih =>
    intro rules' hr
    obtain ⟨c', ha', hs, hc⟩ := hR.accepts hr ha
    have hchild := ih _ hc
    have hshape : c'.shape = c.shape := funext hs.shape_eq
    rw [hs.rule.ignore] at hi
    rw [hs.payload] at hchild
    rw [← hshape] at hsh
    exact .broken ha' hi hl hchild hsh
  | nested ha hi hl _ hsh _ ih ihrest =>
    intro rules' hr
    obtain ⟨c', ha', hs, hc⟩ := hR.accepts hr ha
    have hchild := ih _ hc
    have hbehind := ihrest rules' hr
    rw [hs.rule.ignore] at hi
    rw [hs.payload] at hchild
    rw [hs.nextText] at hbehind
    rw [← funext hs.shape_eq] at hsh
    exact .nested ha' hi hl hchild hsh hbehind

/-- Related rule sets parse every text alike. -/
theorem halts_iff (hR : Bisimulation R) (hr : R rules rules') (limit : Option Int)
    (out : Parse (List Node)) :
    (∃ steps, parse steps limit text rules = some out) ↔
      ∃ steps, parse steps limit text rules' = some out := by
  constructor
  · intro h
    exact Machine.start_halts_of_drive (hR.drive (Machine.drive_of_start_halts h) rules' hr)
  · intro h
    exact Machine.start_halts_of_drive (hR.symm.drive (Machine.drive_of_start_halts h) rules hr)

end Bisimulation

end RuleSet

end RuleTree
