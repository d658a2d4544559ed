import Mathlib.Order.ConditionallyCompleteLattice.Basic
import Mathlib.Order.Lattice.Nat
import RuleTree.Proofs.Node.Contents
import RuleTree.Proofs.Parse.Termination

/-!
# Limits on the depth

A limit is consulted only where a match opens a frame, so two runs with different limits are the same
up to the first match that one of them refuses. A greater limit keeps every outcome that is not a
refusal, and without a limit the greatest height of the stack decides which limits refuse a match.
Whether the run without a limit halts is not settled here.
-/

namespace RuleTree

/-! ## Where a refusal comes from -/

/-- The outcome is not the refusal of a match that nests too deep. -/
def Parse.NotTooDeep (x : Parse α) : Prop :=
  ∀ rule most, x ≠ .error (.tooDeep rule most)

namespace Parse.NotTooDeep

theorem ok (a : α) : NotTooDeep (.ok a) := by
  intro rule most h
  cases h

theorem error {x : Parse α} {e : ParseError} (hx : x.NotTooDeep) (h : x = .error e) :
    NotTooDeep (.error e : Parse β) := by
  intro rule most he
  cases he
  exact hx rule most h

theorem contract (v : Violation) : NotTooDeep (throw (.contract v) : Parse α) := by
  intro rule most h
  cases h

theorem contract_bind (v : Violation) (f : α → Parse β) :
    NotTooDeep (throw (.contract v) >>= f) := by
  intro rule most h
  cases h

theorem bind {x : Parse α} {f : α → Parse β} (hx : x.NotTooDeep)
    (hf : ∀ a, (f a).NotTooDeep) : (x >>= f).NotTooDeep := by
  cases x with
  | error e => exact hx.error rfl
  | ok a => exact hf a

theorem call (x : Except Raised α) : NotTooDeep (Parse.call x) := by
  intro rule most h
  cases x <;> cases h

end Parse.NotTooDeep

open Parse (NotTooDeep)

theorem MatcherFunction.span_notTooDeep (name : String) (item : Datum) :
    NotTooDeep (span name item) := by
  unfold span
  split
  · split
    · split
      · exact .contract _
      · exact .ok _
    · exact .contract _
  · exact .contract _

theorem MatcherFunction.mapM_span_notTooDeep (name : String) (items : List Datum) :
    NotTooDeep (items.mapM (span name)) := by
  intro rule most h
  obtain ⟨item, _, he⟩ := mapM_eq_error h
  exact span_notTooDeep name item rule most he

theorem Matcher.spans_notTooDeep (mt : Matcher) (t : Text) : NotTooDeep (mt.spans t) := by
  cases mt with
  | pattern p => exact .ok _
  | function f =>
    refine (NotTooDeep.call _).bind fun v => ?_
    unfold MatcherFunction.spans
    split
    · exact .ok _
    · split
      · intro rule most h
        cases h
      · refine (MatcherFunction.mapM_span_notTooDeep _ _).bind fun ss => ?_
        split
        · exact .contract_bind _ _
        · exact .ok _

theorem Match.consumedEnd_notTooDeep (m : Match) (text : Text) :
    NotTooDeep (m.consumedEnd text) := by
  unfold consumedEnd
  split
  · intro rule most h
    cases h
  · split
    · exact .contract _
    · split
      · exact .contract _
      · exact .ok _

theorem Match.captureSpan_notTooDeep (m : Match) : NotTooDeep m.captureSpan := by
  unfold captureSpan
  split
  · split
    · exact .ok _
    · intro rule most h
      cases h
  · split
    · exact .contract _
    · split
      · exact .ok _
      · intro rule most h
        cases h

theorem Match.cut_notTooDeep (m : Match) (text : Text) : NotTooDeep (m.cut text) := by
  refine (m.consumedEnd_notTooDeep text).bind fun stop => ?_
  refine m.captureSpan_notTooDeep.bind fun capture => ?_
  dsimp only
  split
  · exact .contract_bind _ _
  · split
    · exact .contract_bind _ _
    · exact .ok _

theorem Match.prepare_notTooDeep (m : Match) (text : Text) (rules : RuleSet) :
    NotTooDeep (m.prepare text rules) := by
  refine (m.cut_notTooDeep text).bind fun cut => ?_
  refine NotTooDeep.bind ?_ fun _ => .ok _
  cases m.rule.formatter with
  | none => exact .ok _
  | some f =>
    cases f with
    | literal s => exact .ok _
    | function f => exact .call _

theorem Construction.shape_notTooDeep (c : Construction) (children : List Node) :
    NotTooDeep (c.shape children) := by
  unfold shape
  simp only
  split
  · exact .ok _
  · split
    · exact .ok _
    · next o _ =>
      refine NotTooDeep.bind ?_ fun _ => .ok _
      cases o with
      | literal v => exact .ok _
      | function f => exact .call _

theorem Frame.step_notTooDeep (f : Frame) : NotTooDeep f.step := by
  by_cases hnil : f.rules = []
  · rw [step_of_no_rules hnil]
    exact .ok _
  rcases f.rules.answer_cases f.remaining with hs | ⟨r, spans, ha, hm⟩ | ⟨r, e, ha, hm⟩
  · rw [step_of_silent hnil hs]
    exact .ok _
  · cases hp : Match.prepare ⟨r, spans⟩ f.remaining f.rules with
    | error e =>
      rw [step_of_rejected ha hm hp]
      exact (Match.prepare_notTooDeep _ _ _).error hp
    | ok c =>
      rw [step_of_accepted (.of_prepare ha hm hp)]
      exact .ok _
  · rw [step_of_failing ha hm]
    exact (Matcher.spans_notTooDeep _ _).error hm

/-! ## Runs with different limits -/

/-- The limit `wide` permits every depth that the limit `narrow` permits. -/
def Widens (narrow wide : Option Int) : Prop := ∀ depth, Permits narrow depth → Permits wide depth

theorem widens_some {most : Int} {wide : Option Int} (h : ∀ more, wide = some more → most ≤ more) :
    Widens (some most) wide := by
  intro depth hp more hmore
  have hle := h more hmore
  have hdepth := hp most rfl
  omega

theorem Permits.mono {limit : Option Int} {shallow deep : Nat} (h : Permits limit deep)
    (hle : shallow ≤ deep) : Permits limit shallow := by
  intro most hmost
  have hdeep := h most hmost
  omega

theorem widens_none (narrow : Option Int) : Widens narrow none := fun depth _ => permits_none depth

namespace Machine

variable {limit narrow wide : Option Int} {m n : Machine} {out : Parse (List Node)} {most : Int}

/-- The limit matters only where a match opens a frame. -/
theorem opens_or_step_eq (m : Machine) :
    (m.top.exhausted = false ∧ ∃ g c, m.top.step = .ok (g, some c)) ∨
    ∃ p : Parse Progress, p.NotTooDeep ∧ ∀ limit, m.step limit = p := by
  obtain ⟨f, below⟩ := m
  cases hx : f.exhausted with
  | true =>
    refine Or.inr ⟨pop ⟨f, below⟩, ?_, ?_⟩
    · unfold pop
      split
      · exact .ok _
      · exact (Construction.shape_notTooDeep _ _).bind fun _ => .ok _
      · exact .ok _
    · intro limit
      simp only [step, hx, ↓reduceIte]
  | false =>
    cases hf : f.step with
    | error e => exact Or.inr ⟨_, f.step_notTooDeep.error hf, fun _ => step_error hx hf⟩
    | ok r =>
      obtain ⟨g, oc⟩ := r
      cases oc with
      | none => exact Or.inr ⟨_, .ok _, fun _ => step_within hx hf⟩
      | some c => exact Or.inl ⟨rfl, g, c, rfl⟩

/-- A wider limit changes no step, unless the narrower one refuses a match there. -/
theorem step_widen (hw : Widens narrow wide) (h : (m.step narrow).NotTooDeep) :
    m.step wide = m.step narrow := by
  rcases m.opens_or_step_eq with ⟨hx, g, c, hf⟩ | ⟨p, _, hp⟩
  · rcases permits_or_exceeded narrow (m.below.length + 1) with hl | ⟨most, rfl, hlt⟩
    · exact (step_push hx hf (hw _ hl)).trans (step_push hx hf hl).symm
    · exact absurd (step_tooDeep hx hf (by omega)) (h _ _)
  · rw [hp wide, hp narrow]

theorem run_widen (hw : Widens narrow wide) {steps : Nat} (h : m.run narrow steps = some out)
    (hout : out.NotTooDeep) : m.run wide steps = some out := by
  induction steps generalizing m with
  | zero => cases h
  | succ steps ih =>
    have hstep : m.step wide = m.step narrow := by
      apply step_widen hw
      intro rule most he
      simp only [run, he, Option.some.injEq] at h
      exact hout rule most h.symm
    simp only [run, hstep] at h ⊢
    split at h
    · exact h
    · exact h
    · exact ih h

theorem Next.widen (hw : Widens narrow wide) (h : Next narrow m n) : Next wide m n := by
  have hstep := step_widen (m := m) hw (by rw [h]; exact .ok _)
  rw [Next, hstep]
  exact h

theorem Reaches.widen (hw : Widens narrow wide) (h : Reaches narrow m n) : Reaches wide m n := by
  induction h with
  | refl => exact .refl
  | tail _ hn ih => exact ih.tail (hn.widen hw)

/-- A refusal names the limit in force, and without it the match would have opened a frame. -/
theorem refused_cases {rule : String} (h : m.step limit = .error (.tooDeep rule most)) :
    limit = some most ∧ most < (m.depth : Int) + 1 ∧
      ∃ n, Next none m n ∧ n.depth = m.depth + 1 := by
  rcases m.opens_or_step_eq with ⟨hx, g, c, hf⟩ | ⟨p, hp, hall⟩
  · rcases permits_or_exceeded limit (m.below.length + 1) with hl | ⟨most', rfl, hlt⟩
    · cases h.symm.trans (step_push hx hf hl)
    · have hlt' : most' < (m.below.length : Int) + 1 := by omega
      cases h.symm.trans (step_tooDeep hx hf hlt')
      exact ⟨rfl, hlt', _, step_push hx hf (permits_none _), rfl⟩
  · exact absurd h (hall limit ▸ hp rule most)

/-- What is reached without a limit is also reached with one, unless a match is refused. -/
theorem Reaches.limited_or_refused (h : Reaches none m n) (most : Int) :
    Reaches (some most) m n ∨ ∃ rule, m.Halts (some most) (.error (.tooDeep rule most)) := by
  induction h with
  | refl => exact Or.inl .refl
  | @tail k n _ hn ih =>
    rcases ih with hk | hrefused
    · by_cases hstep : ∃ rule most', k.step (some most) = .error (.tooDeep rule most')
      · obtain ⟨rule, most', he⟩ := hstep
        obtain rfl := Option.some.inj (refused_cases he).1
        exact Or.inr ⟨rule, hk.halts_iff.mpr (halts_of_error he)⟩
      · have he := step_widen (widens_none (some most)) fun rule most' h => hstep ⟨rule, most', h⟩
        exact Or.inl (hk.tail (he.symm.trans hn))
    · exact Or.inr hrefused

/-! ## The greatest depth of a run -/

theorem Next.depth_le (h : Next limit m n) : n.depth ≤ m.depth + 1 := by
  rcases h.cases with ⟨_, parent, below, s, hb, rfl⟩ | ⟨_, g, _, rfl⟩ | ⟨_, g, c, _, _, rfl⟩
  · simp only [depth, hb, List.length_cons]
    omega
  · simp only [depth]
    omega
  · simp only [depth, List.length_cons]
    omega

/-- Each step opens one frame at most, so a run that halts opens no more frames than it has steps. -/
theorem Reaches.depth_add_le (h : Reaches limit m n) {steps : Nat}
    (hr : m.run limit steps = some out) :
    ∃ fewer, n.run limit fewer = some out ∧ n.depth + fewer ≤ m.depth + steps := by
  induction h with
  | refl => exact ⟨steps, hr, Nat.le_refl _⟩
  | tail _ hn ih =>
    obtain ⟨fewer, hf, hle⟩ := ih
    cases fewer with
    | zero => cases hf
    | succ fewer =>
      have hd := hn.depth_le
      exact ⟨fewer, hn.run_succ fewer ▸ hf, by omega⟩

/-- The numbers of frames that lie above the outermost one in the course of a run. -/
def depthsFrom (limit : Option Int) (m : Machine) : Set Nat :=
  { depth | ∃ n, Reaches limit m n ∧ n.depth = depth }

theorem Halts.exists_peak (h : m.Halts limit out) : ∃ peak, IsGreatest (m.depthsFrom limit) peak := by
  obtain ⟨steps, hr⟩ := h
  have hbound : BddAbove (m.depthsFrom limit) := by
    refine ⟨m.depth + steps, ?_⟩
    rintro _ ⟨n, hn, rfl⟩
    obtain ⟨_, _, hle⟩ := hn.depth_add_le hr
    omega
  have hmem : m.depth ∈ m.depthsFrom limit := ⟨m, .refl, rfl⟩
  exact ⟨_, Nat.sSup_mem ⟨_, hmem⟩ hbound, fun _ hk => le_csSup hbound hk⟩

/-- With a limit of at least zero, a parse refuses a match if and only if the parse without a limit
goes deeper than the limit. -/
theorem start_refuses_iff {text : Text} {rules : RuleSet} {peak : Nat}
    (hpeak : IsGreatest ((start text rules).depthsFrom none) peak) (hmost : 0 ≤ most) :
    (∃ rule most', (start text rules).Halts (some most) (.error (.tooDeep rule most'))) ↔
      most < peak := by
  constructor
  · rintro ⟨rule, most', h⟩
    obtain ⟨n, hn, he⟩ := h.reaches_last
    obtain ⟨hlimit, hlt, k, hk, hdepth⟩ := refused_cases he
    cases hlimit
    have hle : k.depth ≤ peak := hpeak.2 ⟨k, (hn.widen (widens_none _)).tail hk, rfl⟩
    omega
  · intro hlt
    obtain ⟨n, hn, hdepth⟩ := hpeak.1
    rcases hn.limited_or_refused most with hn' | ⟨rule, h⟩
    · -- Within the limit the stack cannot have come to its peak.
      have hle := Region.depth_le_of_opened (Stacked.of_reaches hn').opened
      rw [← hdepth, depth] at hlt
      simp only at hle
      omega
    · exact ⟨rule, most, h⟩

/-- If the parse without a limit never goes deeper than the limit, no match is refused, whether or not
that parse halts. -/
theorem Halts.notTooDeep {text : Text} {rules : RuleSet}
    (h : (start text rules).Halts (some most) out)
    (hdepth : ∀ m, Reaches none (start text rules) m → (m.depth : Int) ≤ most) : out.NotTooDeep := by
  rintro rule most' rfl
  obtain ⟨last, hlast, hrefused⟩ := h.reaches_last
  obtain ⟨hlimit, hlt, next, hnext, hdeeper⟩ := refused_cases hrefused
  cases hlimit
  have hle := hdepth next ((hlast.widen (widens_none _)).tail hnext)
  omega

end Machine

/-! ## Depth of the nodes -/

/-- A branch stands no deeper than its match was nested, since frames of skipped rules add no level. -/
theorem Drive.branch_permitted {limit : Option Int} {depth : Nat} {rules : RuleSet}
    {pending rest : Text} {out : Parse (List Node)} (h : Drive limit depth rules pending rest out) :
    ∀ nodes, out = .ok nodes → ∀ level n, (level, n) ∈ Node.preorders (depth + 1) nodes →
      n.isBranch = true → Permits limit level := by
  have hrun : ∀ {depth level : Nat} {run : Text} {n : Node},
      (level, n) ∈ Node.preorders depth (Node.ofRun run) → n.isBranch = true →
      Permits limit level := by
    intro depth level run n hn hb
    rw [Node.isBranch_of_mem_preorders_ofRun hn] at hb
    cases hb
  induction h with
  | done =>
    intro nodes he level n hn hb
    cases he
    exact hrun hn hb
  | literal _ _ ih => exact ih
  | failed _ _ _ => intro nodes he; cases he
  | rejected _ _ _ _ => intro nodes he; cases he
  | tooDeep _ _ _ _ => intro nodes he; cases he
  | broken _ _ _ _ _ _ => intro nodes he; cases he
  | @ignored _ _ _ _ _ out _ _ _ ih =>
    intro nodes he level n hn hb
    cases out with
    | error e => cases he
    | ok behind =>
      cases he
      rw [Node.preorders_append, List.mem_append] at hn
      rcases hn with hn | hn
      · exact hrun hn hb
      · exact ih behind rfl level n hn hb
  | @nested depth _ _ _ c inner out s _ _ hl _ hs _ ih ihrest =>
    intro nodes he level n hn hb
    obtain ⟨children, rfl, hs⟩ := bind_eq_ok.mp hs
    cases out with
    | error e => cases he
    | ok behind =>
      cases he
      rw [Node.preorders_append, Node.preorders_append, List.mem_append, List.mem_append] at hn
      rcases hn with (hn | hn) | hn
      · exact hrun hn hb
      · rcases Construction.mem_preorders_shape hs hn with rfl | ⟨within, hle, hin⟩
        · exact hl
        · exact (ih children rfl within n hin hb).mono hle
      · exact ihrest behind rfl level n hn hb

/-- A limit on the depth only cuts off. An outcome that is not a refusal stays the same with every
wider limit and without one, and no branch of it is deeper than the limit. If the parse without a
limit halts, the limits that refuse a match are those below the greatest number of frames that it
opens above the outermost one. -/
theorem parse_limit_only_cuts_off (text : Text) (rules : RuleSet) :
    (∀ (most : Int) (wide : Option Int) (steps : Nat) (out : Parse (List Node)),
      (∀ more, wide = some more → most ≤ more) →
      parse steps (some most) text rules = some out → out.NotTooDeep →
        (∃ steps', parse steps' wide text rules = some out) ∧
        ∀ nodes, out = .ok nodes → ∀ level n, (level, n) ∈ Node.preorders 1 nodes →
          n.isBranch = true → (level : Int) ≤ most) ∧
    ((∃ steps out, parse steps none text rules = some out) →
      ∃ peak : Nat, IsGreatest ((Machine.start text rules).depthsFrom none) peak ∧
        ∀ most : Int, 0 ≤ most →
          ((∃ steps rule most', parse steps (some most) text rules =
            some (.error (.tooDeep rule most'))) ↔ most < peak)) := by
  constructor
  · intro most wide steps out hwide h hout
    refine ⟨⟨steps, Machine.run_widen (widens_some hwide) h hout⟩, ?_⟩
    rintro nodes rfl level n hn hb
    have hd := Machine.drive_of_start_halts ⟨steps, h⟩
    exact hd.branch_permitted nodes rfl level n hn hb most rfl
  · rintro ⟨steps, out, h⟩
    obtain ⟨peak, hpeak⟩ := Machine.Halts.exists_peak ⟨steps, h⟩
    refine ⟨peak, hpeak, fun most hmost => ?_⟩
    rw [← Machine.start_refuses_iff hpeak hmost]
    constructor
    · rintro ⟨steps, rule, most', h⟩
      exact ⟨rule, most', steps, h⟩
    · rintro ⟨rule, most', steps, h⟩
      exact ⟨steps, rule, most', h⟩

/-- Two brackets and an atom in them, three levels in all. -/
theorem parse_limit_brackets :
    parse 20 (some 3) ['(', '(', 'x'] [Rule.bracket] = some (.ok [.branch "bracket" [.branch "bracket"
      [.branch "atom" [.text ['x']]]]]) ∧
    (∃ steps, parse steps none ['(', '(', 'x'] [Rule.bracket] = some (.ok [.branch "bracket"
      [.branch "bracket" [.branch "atom" [.text ['x']]]]])) ∧
    ∃ peak : Nat, 2 < peak ∧
      IsGreatest ((Machine.start ['(', '(', 'x'] [Rule.bracket]).depthsFrom none) peak := by
  obtain ⟨hcut, hpeak⟩ := parse_limit_only_cuts_off ['(', '(', 'x'] [Rule.bracket]
  have h : parse 20 (some 3) ['(', '(', 'x'] [Rule.bracket] = some (.ok [.branch "bracket"
      [.branch "bracket" [.branch "atom" [.text ['x']]]]]) := rfl
  have hdeep : parse 20 (some 2) ['(', '(', 'x'] [Rule.bracket] =
      some (.error (.tooDeep "atom" 2)) := rfl
  obtain ⟨steps, hfree⟩ := (hcut 3 none 20 _ nofun h (.ok _)).1
  obtain ⟨peak, hgreatest, hiff⟩ := hpeak ⟨steps, _, hfree⟩
  exact ⟨h, ⟨steps, hfree⟩, peak, by exact_mod_cast (hiff 2 (by decide)).mp ⟨20, _, _, hdeep⟩,
    hgreatest⟩

end RuleTree
