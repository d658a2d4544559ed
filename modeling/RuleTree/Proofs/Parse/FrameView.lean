import RuleTree.Parse.Frame
import RuleTree.Proofs.Parse.Acceptance

/-!
# What a frame has read

A sound frame is seen as its pending run, the text that remains and the nodes so far. Each operation
of a frame is one equation for each of the three, and after this module positions are not looked at
again. A step is described by what the rules answer at the front of the remaining text.
-/

namespace RuleTree

namespace Text

theorem sliceFrom_of_nonneg (t : Text) {lo : Int} (hlo : 0 ≤ lo) :
    sliceFrom t lo = t.drop lo.toNat := by
  obtain ⟨n, rfl⟩ := Int.eq_ofNat_of_zero_le hlo
  rw [sliceFrom, place_of_nat, Int.toNat_natCast]
  by_cases hn : n ≤ t.length
  · rw [Nat.min_eq_left hn]
  · rw [Nat.min_eq_right (by omega), List.drop_length, List.drop_eq_nil_of_le (by omega)]

theorem slice_of_nonneg (t : Text) {lo hi : Int} (hlo : 0 ≤ lo) (hhi : 0 ≤ hi) :
    slice t lo hi = (t.take hi.toNat).drop lo.toNat := by
  obtain ⟨k, rfl⟩ := Int.eq_ofNat_of_zero_le hlo
  obtain ⟨n, rfl⟩ := Int.eq_ofNat_of_zero_le hhi
  rw [slice, place_of_nat, place_of_nat, Int.toNat_natCast, Int.toNat_natCast]
  rw [← List.take_eq_take_min]
  by_cases hk : k ≤ t.length
  · rw [Nat.min_eq_left hk]
  · rw [List.drop_eq_nil_of_le (by simp; omega), List.drop_eq_nil_of_le (by simp; omega)]

end Text

/-- What a pending run becomes; an empty run leaves no node. -/
def Node.ofRun : Text → List Node
  | [] => []
  | run => [.text run]

theorem Node.ofRun_of_ne_nil {run : Text} (h : run ≠ []) : Node.ofRun run = [.text run] := by
  cases run with
  | nil => exact absurd rfl h
  | cons c cs => rfl

namespace Frame

structure Sound (f : Frame) : Prop where
  position_nonneg : 0 ≤ f.position
  position_le : f.position ≤ f.text.length
  literal_nonneg : ∀ start, f.literalStart = some start → 0 ≤ start
  literal_lt : ∀ start, f.literalStart = some start → start < f.position

/-- The run of literal text that no node holds yet. -/
def pending (f : Frame) : Text :=
  match f.literalStart with
  | none => []
  | some start => Text.slice f.text start f.position

theorem pending_of_none {f : Frame} (h : f.literalStart = none) : f.pending = [] := by
  simp [pending, h]

theorem Sound.remaining_eq {f : Frame} (hf : f.Sound) :
    f.remaining = f.text.drop f.position.toNat :=
  Text.sliceFrom_of_nonneg f.text hf.position_nonneg

theorem Sound.remaining_length {f : Frame} (hf : f.Sound) :
    (f.remaining.length : Int) = f.text.length - f.position := by
  have hn := hf.position_nonneg
  have hl := hf.position_le
  rw [hf.remaining_eq, List.length_drop]
  omega

/-- A frame that is not exhausted has text left; a negative position would count from the end. -/
theorem remaining_ne_nil {f : Frame} (hp : 0 ≤ f.position) (hx : f.exhausted = false) :
    f.remaining ≠ [] := by
  rw [exhausted, decide_eq_false_iff_not] at hx
  rw [remaining, Text.sliceFrom_of_nonneg f.text hp]
  apply List.ne_nil_of_length_pos
  rw [List.length_drop]
  omega

theorem Sound.remaining_ne_nil {f : Frame} (hf : f.Sound) (hx : f.exhausted = false) :
    f.remaining ≠ [] :=
  Frame.remaining_ne_nil hf.position_nonneg hx

theorem Sound.pending_eq {f : Frame} (hf : f.Sound) {start : Int} (hs : f.literalStart = some start) :
    f.pending = (f.text.take f.position.toNat).drop start.toNat := by
  simp only [pending, hs]
  exact Text.slice_of_nonneg f.text (hf.literal_nonneg start hs) hf.position_nonneg

theorem Sound.pending_ne_nil {f : Frame} (hf : f.Sound) {start : Int}
    (hs : f.literalStart = some start) : f.pending ≠ [] := by
  have hn := hf.literal_nonneg start hs
  have hlt := hf.literal_lt start hs
  have hl := hf.position_le
  rw [hf.pending_eq hs]
  apply List.ne_nil_of_length_pos
  rw [List.length_drop, List.length_take]
  omega

theorem Sound.exhausted_iff {f : Frame} (hf : f.Sound) : f.exhausted = true ↔ f.remaining = [] := by
  have hlen := hf.remaining_length
  rw [← List.length_eq_zero_iff, exhausted, decide_eq_true_eq]
  omega

theorem Sound.exhausted_eq_false {f : Frame} (hf : f.Sound) (h : f.remaining ≠ []) :
    f.exhausted = false := by
  rw [Bool.eq_false_iff]
  exact fun he => h (hf.exhausted_iff.mp he)

/-! ## Taking literal text -/

theorem Sound.takeLiteral {f : Frame} (hf : f.Sound) {n : Nat} (hn : 0 < n)
    (hl : n ≤ f.remaining.length) : (f.takeLiteral n).Sound := by
  have hlen := hf.remaining_length
  have hp := hf.position_nonneg
  constructor
  · simp only [Frame.takeLiteral]; omega
  · simp only [Frame.takeLiteral]; omega
  · intro start hs
    simp only [Frame.takeLiteral, Option.some.injEq] at hs
    cases hstart : f.literalStart with
    | none => simp only [hstart, Option.getD_none] at hs; omega
    | some old =>
      simp only [hstart, Option.getD_some] at hs
      have ho := hf.literal_nonneg old hstart
      omega
  · intro start hs
    simp only [Frame.takeLiteral, Option.some.injEq] at hs ⊢
    cases hstart : f.literalStart with
    | none => simp only [hstart, Option.getD_none] at hs; omega
    | some old =>
      simp only [hstart, Option.getD_some] at hs
      have ho := hf.literal_lt old hstart
      omega

theorem Sound.takeLiteral_remaining {f : Frame} (hf : f.Sound) (n : Nat) :
    (f.takeLiteral n).remaining = f.remaining.drop n := by
  have hp := hf.position_nonneg
  have hp' : 0 ≤ (f.takeLiteral n).position := by simp only [Frame.takeLiteral]; omega
  rw [remaining, Text.sliceFrom_of_nonneg _ hp', hf.remaining_eq, List.drop_drop]
  simp only [Frame.takeLiteral]
  congr 1
  omega

/-- Characters go over from the remaining text to the pending run. -/
theorem Sound.takeLiteral_pending {f : Frame} (hf : f.Sound) {n : Nat} (hn : 0 < n)
    (hl : n ≤ f.remaining.length) :
    (f.takeLiteral n).pending = f.pending ++ f.remaining.take n := by
  have hp := hf.position_nonneg
  have hlen := hf.remaining_length
  have hg := hf.takeLiteral hn hl
  have hpos : (f.position + (n : Int)).toNat = f.position.toNat + n := by omega
  cases hs : f.literalStart with
  | none =>
    have hstart : (f.takeLiteral n).literalStart = some f.position := by
      simp [Frame.takeLiteral, hs]
    rw [hg.pending_eq hstart, pending_of_none hs, hf.remaining_eq]
    simp only [Frame.takeLiteral, hpos]
    rw [List.drop_take, Nat.add_sub_cancel_left, List.nil_append]
  | some start =>
    have hstart : (f.takeLiteral n).literalStart = some start := by
      simp [Frame.takeLiteral, hs]
    have hlt := hf.literal_lt start hs
    rw [hg.pending_eq hstart, hf.pending_eq hs, hf.remaining_eq]
    simp only [Frame.takeLiteral, hpos]
    rw [List.take_add, List.drop_append_of_le_length]
    rw [List.length_take]
    omega

theorem Sound.takeLiteral_one {f : Frame} (hf : f.Sound) {ch : Char} {rest : Text}
    (h : f.remaining = ch :: rest) :
    (f.takeLiteral 1).Sound ∧ (f.takeLiteral 1).pending = f.pending ++ [ch] ∧
      (f.takeLiteral 1).remaining = rest := by
  have hl : 1 ≤ f.remaining.length := by rw [h]; exact Nat.succ_pos _
  have hp := hf.takeLiteral_pending Nat.one_pos hl
  have hr := hf.takeLiteral_remaining 1
  rw [h] at hp hr
  exact ⟨hf.takeLiteral Nat.one_pos hl, hp, hr⟩

theorem Sound.takeLiteral_all {f : Frame} (hf : f.Sound) (h : f.remaining ≠ []) :
    (f.takeLiteral f.remaining.length).Sound ∧
      (f.takeLiteral f.remaining.length).pending = f.pending ++ f.remaining ∧
      (f.takeLiteral f.remaining.length).remaining = [] := by
  have hl : 0 < f.remaining.length := List.length_pos_iff.mpr h
  have hp := hf.takeLiteral_pending hl (Nat.le_refl _)
  have hr := hf.takeLiteral_remaining f.remaining.length
  rw [List.take_length] at hp
  rw [List.drop_length] at hr
  exact ⟨hf.takeLiteral hl (Nat.le_refl _), hp, hr⟩

/-! ## Closing the pending run -/

@[simp] theorem closeLiteral_rules (f : Frame) : f.closeLiteral.rules = f.rules := by
  unfold closeLiteral; split <;> rfl

@[simp] theorem closeLiteral_text (f : Frame) : f.closeLiteral.text = f.text := by
  unfold closeLiteral; split <;> rfl

@[simp] theorem closeLiteral_construction (f : Frame) :
    f.closeLiteral.construction = f.construction := by
  unfold closeLiteral; split <;> rfl

@[simp] theorem closeLiteral_position (f : Frame) : f.closeLiteral.position = f.position := by
  unfold closeLiteral; split <;> rfl

@[simp] theorem closeLiteral_literalStart (f : Frame) : f.closeLiteral.literalStart = none := by
  unfold closeLiteral; split <;> simp_all

theorem Sound.closeLiteral_nodes {f : Frame} (hf : f.Sound) :
    f.closeLiteral.nodes = f.nodes ++ Node.ofRun f.pending := by
  cases hs : f.literalStart with
  | none => simp [closeLiteral, hs, pending_of_none hs, Node.ofRun]
  | some start =>
    rw [Node.ofRun_of_ne_nil (hf.pending_ne_nil hs)]
    simp [closeLiteral, pending, hs]

/-! ## Consuming a match -/

/-- The frame after a step over an accepted match. -/
def behind (f : Frame) (c : Construction) : Frame :=
  f.consume (f.remaining.length - c.nextText.length)

@[simp] theorem behind_rules (f : Frame) (c : Construction) : (f.behind c).rules = f.rules := by
  simp [behind, consume]

@[simp] theorem behind_text (f : Frame) (c : Construction) : (f.behind c).text = f.text := by
  simp [behind, consume]

@[simp] theorem behind_construction (f : Frame) (c : Construction) :
    (f.behind c).construction = f.construction := by
  simp [behind, consume]

@[simp] theorem behind_literalStart (f : Frame) (c : Construction) :
    (f.behind c).literalStart = none := by
  simp [behind, consume]

@[simp] theorem behind_position (f : Frame) (c : Construction) :
    (f.behind c).position = f.position + (f.remaining.length - c.nextText.length) := by
  simp [behind, consume]

@[simp] theorem behind_pending (f : Frame) (c : Construction) : (f.behind c).pending = [] :=
  pending_of_none (f.behind_literalStart c)

theorem Sound.behind_nodes {f : Frame} (hf : f.Sound) (c : Construction) :
    (f.behind c).nodes = f.nodes ++ Node.ofRun f.pending :=
  hf.closeLiteral_nodes

theorem Sound.behind {f : Frame} (hf : f.Sound) {c : Construction}
    (hn : c.nextText <:+ f.remaining) : (f.behind c).Sound := by
  have hle := hn.length_le
  have hlen := hf.remaining_length
  have hp := hf.position_nonneg
  constructor
  · rw [behind_position]; omega
  · rw [behind_position, behind_text]; omega
  · simp
  · simp

theorem Sound.behind_remaining {f : Frame} (hf : f.Sound) {c : Construction}
    (hn : c.nextText <:+ f.remaining) : (f.behind c).remaining = c.nextText := by
  have hle := hn.length_le
  have hp := hf.position_nonneg
  rw [(hf.behind hn).remaining_eq, behind_position, behind_text]
  have hpos : (f.position + ((f.remaining.length : Int) - c.nextText.length)).toNat =
      f.position.toNat + (f.remaining.length - c.nextText.length) := by omega
  rw [hpos, ← List.drop_drop, ← hf.remaining_eq]
  exact (List.suffix_iff_eq_drop.mp hn).symm

/-! ## Adding nodes -/

@[simp] theorem add_rules (f : Frame) (s : Shaped) : (f.add s).rules = f.rules := rfl

@[simp] theorem add_nodes (f : Frame) (s : Shaped) : (f.add s).nodes = f.nodes ++ s.nodes := rfl

@[simp] theorem add_pending (f : Frame) (s : Shaped) : (f.add s).pending = f.pending := rfl

@[simp] theorem add_remaining (f : Frame) (s : Shaped) : (f.add s).remaining = f.remaining := rfl

theorem Sound.add {f : Frame} (hf : f.Sound) (s : Shaped) : (f.add s).Sound :=
  ⟨hf.position_nonneg, hf.position_le, hf.literal_nonneg, hf.literal_lt⟩

/-! ## Fresh frames -/

theorem sound_fresh (text : Text) (rules : RuleSet) (c : Option Construction) :
    ({ text := text, rules := rules, construction := c } : Frame).Sound := by
  constructor
  · exact Int.le_refl 0
  · exact Int.natCast_nonneg _
  · simp
  · simp

theorem remaining_fresh (text : Text) (rules : RuleSet) (c : Option Construction) :
    ({ text := text, rules := rules, construction := c } : Frame).remaining = text := by
  rw [(sound_fresh text rules c).remaining_eq]
  rfl

theorem sound_ofConstruction (c : Construction) : (ofConstruction c).Sound :=
  sound_fresh c.payload c.childRules (some c)

theorem ofConstruction_remaining (c : Construction) : (ofConstruction c).remaining = c.payload :=
  remaining_fresh c.payload c.childRules (some c)

/-! ## Steps -/

theorem step_of_no_rules {f : Frame} (h : f.rules = []) :
    f.step = .ok (f.takeLiteral f.remaining.length, none) := by
  simp [step, h, pure, Except.pure]

theorem step_of_silent {f : Frame} (hne : f.rules ≠ []) (h : f.rules.Silent f.remaining) :
    f.step = .ok (f.takeLiteral 1, none) := by
  simp [step, hne, h.findMatch, bind, Except.bind, pure, Except.pure]

theorem step_of_failing {f : Frame} {r : Rule} {e : ParseError}
    (ha : f.rules.Answers f.remaining r) (hm : r.matcher.spans f.remaining = .error e) :
    f.step = .error e := by
  simp [step, List.ne_nil_of_mem ha.mem, ha.findMatch_error hm, bind, Except.bind]

theorem step_of_rejected {f : Frame} {r : Rule} {spans : List Span} {e : ParseError}
    (ha : f.rules.Answers f.remaining r) (hm : r.matcher.spans f.remaining = .ok (some spans))
    (hp : Match.prepare ⟨r, spans⟩ f.remaining f.rules = .error e) : f.step = .error e := by
  simp [step, List.ne_nil_of_mem ha.mem, ha.findMatch_some hm, hp, bind, Except.bind]

theorem step_of_accepted {f : Frame} {c : Construction} (h : f.rules.Accepts f.remaining c) :
    f.step = .ok (f.behind c, if c.found.rule.ignore then none else some c) := by
  simp only [step, List.isEmpty_iff, List.ne_nil_of_mem h.answers.mem,
    h.answers.findMatch_some h.finds, h.prepared, bind, Except.bind, ↓reduceIte]
  cases c.found.rule.ignore <;> rfl

theorem step_of_ignored {f : Frame} {c : Construction} (h : f.rules.Accepts f.remaining c)
    (hi : c.found.rule.ignore = true) :
    f.step = .ok (f.behind c, none) := by
  rw [step_of_accepted h, if_pos hi]

theorem step_of_opened {f : Frame} {c : Construction} (h : f.rules.Accepts f.remaining c)
    (hi : c.found.rule.ignore = false) :
    f.step = .ok (f.behind c, some c) := by
  rw [step_of_accepted h, hi]
  rfl

/-- Everything that a successful step of a frame can have done. -/
theorem step_cases {f g : Frame} {oc : Option Construction} (hne : f.remaining ≠ [])
    (h : f.step = .ok (g, oc)) :
    (∃ n : Nat, 0 < n ∧ n ≤ f.remaining.length ∧ g = f.takeLiteral n ∧ oc = none) ∨
    (∃ c, f.rules.Accepts f.remaining c ∧ g = f.behind c ∧
      ((c.found.rule.ignore = true ∧ oc = none) ∨ (c.found.rule.ignore = false ∧ oc = some c))) := by
  have hlen : 0 < f.remaining.length := List.length_pos_iff.mpr hne
  by_cases hnil : f.rules = []
  · rw [step_of_no_rules hnil] at h
    cases h
    exact Or.inl ⟨f.remaining.length, hlen, Nat.le_refl _, rfl, rfl⟩
  rcases f.rules.answer_cases f.remaining with hs | ⟨r, spans, ha, hm⟩ | ⟨r, e, ha, hm⟩
  · rw [step_of_silent hnil hs] at h
    cases h
    exact Or.inl ⟨1, Nat.one_pos, hlen, rfl, rfl⟩
  · cases hp : Match.prepare ⟨r, spans⟩ f.remaining f.rules with
    | error e =>
      rw [step_of_rejected ha hm hp] at h
      cases h
    | ok c =>
      have hc := RuleSet.Accepts.of_prepare ha hm hp
      rw [step_of_accepted hc] at h
      cases hi : c.found.rule.ignore with
      | true =>
        rw [hi] at h
        cases h
        exact Or.inr ⟨c, hc, rfl, Or.inl ⟨hi, rfl⟩⟩
      | false =>
        rw [hi] at h
        cases h
        exact Or.inr ⟨c, hc, rfl, Or.inr ⟨hi, rfl⟩⟩
  · rw [step_of_failing ha hm] at h
    cases h

/-- A step that hands over a construction has accepted its match, and the frame is behind it. -/
theorem opens_of_step {f g : Frame} {c : Construction} (hne : f.remaining ≠ [])
    (h : f.step = .ok (g, some c)) :
    f.rules.Accepts f.remaining c ∧ c.found.rule.ignore = false ∧ g = f.behind c := by
  rcases step_cases hne h with ⟨_, _, _, _, hoc⟩ | ⟨c', ha, hg, ⟨_, hoc⟩ | ⟨hi, hoc⟩⟩
  · cases hoc
  · cases hoc
  · cases hoc
    exact ⟨ha, hi, hg⟩

/-- A step keeps the frame sound and leaves alone what it was opened with. -/
theorem Sound.step {f g : Frame} {oc : Option Construction} (hf : f.Sound)
    (hx : f.exhausted = false) (h : f.step = .ok (g, oc)) :
    g.Sound ∧ g.text = f.text ∧ g.rules = f.rules ∧ g.construction = f.construction := by
  rcases step_cases (hf.remaining_ne_nil hx) h with ⟨n, hn, hle, rfl, _⟩ | ⟨c, ha, rfl, _⟩
  · exact ⟨hf.takeLiteral hn hle, rfl, rfl, rfl⟩
  · exact ⟨hf.behind ha.nextText_suffix, f.behind_text c, f.behind_rules c,
      f.behind_construction c⟩

end Frame

end RuleTree
