import RuleTree.Parse.Event
import RuleTree.Proofs.Parse.FrameView

/-!
# Applicable matches

The offsets of a match may be any integers, and cutting a text never fails: a bound below zero counts
from the end and a bound that is too great is clamped. `Applies` says what keeps the cuts where the
spans say, and `Violates` lists the ways to miss it, each with the violation that reports it. A match is
rejected for its spans exactly if there is such a violation. One way to miss it is not among them: a
capture that counts from the end may count too far, and such a match `Strays`. It ends the parse with an
error that is no violation. Any other match divides the text: what it consumes, with the captured text at
its place in it, and what is left, which is shorter. What a supplied formatter makes of the captured text
is left open.
-/

namespace RuleTree

/-- A formatter fails, if it does, with a failure of its own. -/
theorem Formatter.format_error {f : Option Formatter} {t : Text} {e : ParseError}
    (h : format f t = .error e) : ∃ r, e = .raised r := by
  unfold format at h
  split at h
  · cases h
  · cases h
  · next g =>
    cases hrun : g.run _ with
    | ok payload =>
      rw [hrun] at h
      cases h
    | error r =>
      rw [hrun] at h
      cases h
      exact ⟨r, rfl⟩

/-! ## Entries counted from either end -/

section

variable {α β : Type} {xs : List α} {k : Int}

theorem entryAt?_natCast (xs : List α) (n : Nat) : entryAt? xs n = xs[n]? := rfl

theorem entryAt?_mem {x : α} (h : entryAt? xs k = some x) : x ∈ xs := by
  cases k with
  | ofNat n => exact List.mem_of_getElem? h
  | negSucc n => exact List.mem_reverse.mp (List.mem_of_getElem? h)

theorem entryAt?_map (f : α → β) (xs : List α) (k : Int) :
    entryAt? (xs.map f) k = (entryAt? xs k).map f := by
  cases k with
  | ofNat n => rw [entryAt?, entryAt?, List.getElem?_map]
  | negSucc n => rw [entryAt?, entryAt?, ← List.map_reverse, List.getElem?_map]

/-- An index misses a list on the far side of either end. -/
theorem entryAt?_eq_none : entryAt? xs k = none ↔ (xs.length : Int) ≤ k ∨ k < -(xs.length : Int) := by
  cases k with
  | ofNat n =>
    rw [entryAt?, List.getElem?_eq_none_iff, Int.ofNat_eq_natCast]
    omega
  | negSucc n =>
    rw [entryAt?, List.getElem?_eq_none_iff, List.length_reverse]
    omega

end

/-- The span lies in the text and does not end at its start. -/
structure Span.Leads (entire : Span) (text : Text) : Prop where
  starts : 0 ≤ entire.start
  ends : entire.stop ≤ text.length
  consumes : entire.stop ≠ 0

namespace Match

/-- The span that the rule captures, if there is one. -/
def selected? (m : Match) : Option Span :=
  match m.rule.capture with
  | none => m.spans.getLast?
  | some k => entryAt? m.spans k

/-- What is wrong with the spans of a match, of which `entire` is the first. -/
inductive Violates (m : Match) (text : Text) (entire : Span) : Violation → Prop
  | outsideInput : entire.start < 0 ∨ (text.length : Int) < entire.stop →
      Violates m text entire (.outsideInput m.rule.name entire text.length)
  | nothingConsumed : entire.stop = 0 → Violates m text entire (.nothingConsumed m.rule.name)
  | captureBeyondSpans {k : Int} : m.rule.capture = some k → (m.spans.length : Int) ≤ k →
      Violates m text entire (.captureBeyondSpans m.rule.name k m.spans.length)
  | captureAbsent {capture : Span} : m.selected? = some capture → capture.start < 0 →
      Violates m text entire (.captureAbsent m.rule.name)
  | captureBeyondMatch {capture : Span} : m.selected? = some capture → entire.stop < capture.stop →
      Violates m text entire (.captureBeyondMatch m.rule.name capture entire.stop)

/-- The first span is as it should be, and the captured one lies in what is consumed. -/
structure Applies (m : Match) (text : Text) (entire capture : Span) : Prop
    extends entire.Leads text where
  selected : m.selected? = some capture
  present : 0 ≤ capture.start
  inside : capture.stop ≤ entire.stop

/-- The first span is as it should be, but the capture counts from the end to a place in front of it. -/
structure Strays (m : Match) (text : Text) (entire : Span) : Prop extends entire.Leads text where
  counts : ∃ k, m.rule.capture = some k ∧ k < -(m.spans.length : Int)

variable {m : Match} {text : Text} {rules : RuleSet} {entire capture : Span} {e : ParseError}

/-! ## The captured span -/

theorem selected?_of_none (h : m.rule.capture = none) : m.selected? = m.spans.getLast? := by
  rw [selected?, h]

theorem selected?_of_some {k : Int} (h : m.rule.capture = some k) :
    m.selected? = entryAt? m.spans k := by
  rw [selected?, h]

theorem selected?_mem (h : m.selected? = some capture) : capture ∈ m.spans := by
  cases hcapture : m.rule.capture with
  | none =>
    rw [selected?_of_none hcapture] at h
    exact List.mem_of_getLast? h
  | some k =>
    rw [selected?_of_some hcapture] at h
    exact entryAt?_mem h

/-- A match that has spans lacks the captured one only if the rule names one that is not there. -/
theorem selected?_eq_none (hfirst : m.spans.head? = some entire) :
    m.selected? = none ↔ ∃ k, m.rule.capture = some k ∧
      ((m.spans.length : Int) ≤ k ∨ k < -(m.spans.length : Int)) := by
  cases hcapture : m.rule.capture with
  | none =>
    have hne : m.spans ≠ [] := List.ne_nil_of_mem (List.mem_of_mem_head? hfirst)
    simp [selected?_of_none hcapture, hne]
  | some k => simp [selected?_of_some hcapture, entryAt?_eq_none]

theorem captureSpan_eq_ok : m.captureSpan = .ok capture ↔ m.selected? = some capture := by
  unfold captureSpan
  split
  · next hcapture =>
    rw [selected?_of_none hcapture]
    split
    · next s hlast => rw [hlast, pure_eq_ok, Option.some.injEq]
    · next hlast => simp [hlast, throw_ne_ok]
  · next k hcapture =>
    rw [selected?_of_some hcapture]
    split
    · next hle => simp [entryAt?_eq_none.mpr (Or.inl hle), throw_ne_ok]
    · split
      · next s hget => rw [hget, pure_eq_ok, Option.some.injEq]
      · next hget => simp [hget, throw_ne_ok]

/-- A captured span that is not there is reported only if its index is too great. -/
theorem captureSpan_error (hne : m.spans ≠ []) (h : m.captureSpan = .error e) :
    ∃ k, m.rule.capture = some k ∧
      ((m.spans.length : Int) ≤ k ∧
          e = .contract (.captureBeyondSpans m.rule.name k m.spans.length) ∨
        k < -(m.spans.length : Int) ∧ e = .noSuchSpan) := by
  unfold captureSpan at h
  split at h
  · rw [List.getLast?_eq_some_getLast hne] at h
    cases h
  · next k hk =>
    refine ⟨k, hk, ?_⟩
    split at h
    · next hle =>
      cases h
      exact Or.inl ⟨hle, rfl⟩
    · next hlt =>
      split at h
      · cases h
      · next hget =>
        cases h
        exact Or.inr ⟨(entryAt?_eq_none.mp hget).resolve_left hlt, rfl⟩

/-! ## The checks of a match -/

theorem violates_or_leads : (∃ v, m.Violates text entire v) ∨ entire.Leads text := by
  by_cases hinput : entire.start < 0 ∨ (text.length : Int) < entire.stop
  · exact Or.inl ⟨_, .outsideInput hinput⟩
  by_cases hnothing : entire.stop = 0
  · exact Or.inl ⟨_, .nothingConsumed hnothing⟩
  exact Or.inr ⟨by omega, by omega, hnothing⟩

theorem violates_strays_or_applies (hfirst : m.spans.head? = some entire) :
    (∃ v, m.Violates text entire v) ∨ m.Strays text entire ∨
      ∃ capture, m.Applies text entire capture := by
  rcases violates_or_leads with hv | hleads
  · exact Or.inl hv
  cases hselected : m.selected? with
  | none =>
    obtain ⟨k, hk, hle | hlt⟩ := (selected?_eq_none hfirst).mp hselected
    · exact Or.inl ⟨_, .captureBeyondSpans hk hle⟩
    · exact Or.inr (Or.inl ⟨hleads, k, hk, hlt⟩)
  | some capture =>
    by_cases habsent : capture.start < 0
    · exact Or.inl ⟨_, .captureAbsent hselected habsent⟩
    by_cases hbeyond : entire.stop < capture.stop
    · exact Or.inl ⟨_, .captureBeyondMatch hselected hbeyond⟩
    exact Or.inr (Or.inr ⟨capture, hleads, hselected, by omega, by omega⟩)

theorem Applies.not_violates (h : m.Applies text entire capture) {v : Violation} :
    ¬ m.Violates text entire v := by
  have hstarts := h.starts
  have hends := h.ends
  intro hv
  cases hv with
  | outsideInput hout => omega
  | nothingConsumed hs => exact h.consumes hs
  | captureBeyondSpans hk hle =>
    have hnone := (selected?_of_some hk).trans (entryAt?_eq_none.mpr (Or.inl hle))
    cases hnone.symm.trans h.selected
  | captureAbsent hs hneg =>
    cases hs.symm.trans h.selected
    have hpresent := h.present
    omega
  | captureBeyondMatch hs hlt =>
    cases hs.symm.trans h.selected
    have hinside := h.inside
    omega

theorem Strays.selected?_eq_none (h : m.Strays text entire) : m.selected? = none := by
  obtain ⟨k, hk, hlt⟩ := h.counts
  rw [selected?_of_some hk, entryAt?_eq_none]
  exact Or.inr hlt

/-- Nothing is wrong with a straying match that a violation would report. -/
theorem Strays.not_violates (h : m.Strays text entire) {v : Violation} :
    ¬ m.Violates text entire v := by
  have hstarts := h.starts
  have hends := h.ends
  have hnone := h.selected?_eq_none
  intro hv
  cases hv with
  | outsideInput hout => omega
  | nothingConsumed hs => exact h.consumes hs
  | captureBeyondSpans hk hle =>
    obtain ⟨k, hk', hlt⟩ := h.counts
    cases hk.symm.trans hk'
    omega
  | captureAbsent hs => cases hnone.symm.trans hs
  | captureBeyondMatch hs => cases hnone.symm.trans hs

theorem consumedEnd_eq_ok {stop : Int} (hfirst : m.spans.head? = some entire) :
    m.consumedEnd text = .ok stop ↔ entire.Leads text ∧ entire.stop = stop := by
  constructor
  · intro h
    obtain ⟨first, others, hspans, rfl, hstarts, hends, hconsumes⟩ := consumedEnd_ok h
    obtain rfl : first = entire := by rwa [hspans, List.head?_cons, Option.some.injEq] at hfirst
    exact ⟨⟨hstarts, hends, hconsumes⟩, rfl⟩
  · rintro ⟨⟨hstarts, hends, hconsumes⟩, rfl⟩
    obtain ⟨others, hspans⟩ := List.head?_eq_some_iff.mp hfirst
    rw [consumedEnd, hspans]
    simp only
    rw [if_neg (by omega), if_neg hconsumes]
    rfl

/-- A match that passes the checks applies. -/
theorem applies_of_cut {cut : Text × Int} (hfirst : m.spans.head? = some entire)
    (h : m.cut text = .ok cut) : ∃ capture, m.Applies text entire capture := by
  obtain ⟨hstop, capture, hcapture, hpresent, hinside, _⟩ := cut_ok h
  obtain ⟨hleads, hstop⟩ := (consumedEnd_eq_ok hfirst).mp hstop
  rw [← hstop] at hinside
  exact ⟨capture, hleads, captureSpan_eq_ok.mp hcapture, hpresent, hinside⟩

/-- A straying match passes the check of its first span and then has no captured one. -/
theorem Strays.cut_eq (h : m.Strays text entire) (hfirst : m.spans.head? = some entire) :
    m.cut text = .error .noSuchSpan := by
  have hne : m.spans ≠ [] := List.ne_nil_of_mem (List.mem_of_mem_head? hfirst)
  rw [cut, (consumedEnd_eq_ok hfirst).mpr ⟨h.toLeads, rfl⟩]
  cases hspan : m.captureSpan with
  | ok capture => cases h.selected?_eq_none.symm.trans (captureSpan_eq_ok.mp hspan)
  | error e =>
    obtain ⟨k, hk, ⟨hle, _⟩ | ⟨_, rfl⟩⟩ := captureSpan_error hne hspan
    · exact absurd (.captureBeyondSpans hk hle) h.not_violates
    · rfl

theorem Applies.cut_eq (h : m.Applies text entire capture) (hfirst : m.spans.head? = some entire) :
    m.cut text = .ok (Text.slice text capture.start capture.stop, entire.stop) := by
  obtain ⟨hleads, hselected, hpresent, hinside⟩ := h
  rw [cut, (consumedEnd_eq_ok hfirst).mpr ⟨hleads, rfl⟩, captureSpan_eq_ok.mpr hselected]
  simp only [bind, Except.bind]
  rw [if_neg (by omega), if_neg (by omega)]
  rfl

theorem consumedEnd_error (hfirst : m.spans.head? = some entire)
    (h : m.consumedEnd text = .error e) : ∃ v, e = .contract v ∧ m.Violates text entire v := by
  obtain ⟨others, hspans⟩ := List.head?_eq_some_iff.mp hfirst
  rw [consumedEnd, hspans] at h
  simp only at h
  split at h
  · next hout =>
    cases h
    exact ⟨_, rfl, .outsideInput hout⟩
  · split at h
    · next hnothing =>
      cases h
      exact ⟨_, rfl, .nothingConsumed hnothing⟩
    · cases h

/-- A match that fails the checks fails with a violation that it commits, or it strays. -/
theorem cut_error (hfirst : m.spans.head? = some entire) (h : m.cut text = .error e) :
    (∃ v, e = .contract v ∧ m.Violates text entire v) ∨
      m.Strays text entire ∧ e = .noSuchSpan := by
  rcases bind_eq_error.mp h with h | ⟨stop, hstop, h⟩
  · exact Or.inl (consumedEnd_error hfirst h)
  obtain ⟨hleads, rfl⟩ := (consumedEnd_eq_ok hfirst).mp hstop
  rcases bind_eq_error.mp h with h | ⟨capture, hcapture, h⟩
  · have hne : m.spans ≠ [] := List.ne_nil_of_mem (List.mem_of_mem_head? hfirst)
    obtain ⟨k, hk, ⟨hle, rfl⟩ | ⟨hlt, rfl⟩⟩ := captureSpan_error hne h
    · exact Or.inl ⟨_, rfl, .captureBeyondSpans hk hle⟩
    · exact Or.inr ⟨⟨hleads, k, hk, hlt⟩, rfl⟩
  have hselected := captureSpan_eq_ok.mp hcapture
  refine Or.inl ?_
  by_cases habsent : capture.start < 0
  · simp only [habsent, ↓reduceIte] at h
    cases h
    exact ⟨_, rfl, .captureAbsent hselected habsent⟩
  by_cases hbeyond : entire.stop < capture.stop
  · simp only [habsent, hbeyond, ↓reduceIte] at h
    cases h
    exact ⟨_, rfl, .captureBeyondMatch hselected hbeyond⟩
  simp only [habsent, hbeyond, ↓reduceIte] at h
  cases h

/-- A match is not prepared because something is wrong with its spans, because it strays, or because the
formatter fails. -/
theorem prepare_error_cases (hfirst : m.spans.head? = some entire)
    (h : m.prepare text rules = .error e) :
    (∃ v, e = .contract v ∧ m.Violates text entire v) ∨ (m.Strays text entire ∧ e = .noSuchSpan) ∨
      ∃ r, e = .raised r := by
  rcases bind_eq_error.mp h with hcut | ⟨⟨captured, stop⟩, _, h⟩
  · rcases cut_error hfirst hcut with hv | hstrays
    · exact Or.inl hv
    · exact Or.inr (Or.inl hstrays)
  rcases bind_eq_error.mp h with hformat | ⟨payload, _, hok⟩
  · exact Or.inr (Or.inr (Formatter.format_error hformat))
  · cases hok

theorem violates_of_prepare {v : Violation} (hfirst : m.spans.head? = some entire)
    (h : m.prepare text rules = .error (.contract v)) : m.Violates text entire v := by
  rcases prepare_error_cases hfirst h with ⟨_, ⟨⟩, hv⟩ | ⟨_, ⟨⟩⟩ | ⟨_, ⟨⟩⟩
  exact hv

/-- The spans of a match are rejected exactly if something is wrong with them. -/
theorem prepare_violates_iff (hfirst : m.spans.head? = some entire) :
    (∃ v, m.prepare text rules = .error (.contract v)) ↔ ∃ v, m.Violates text entire v := by
  constructor
  · rintro ⟨v, h⟩
    exact ⟨v, violates_of_prepare hfirst h⟩
  · rintro ⟨v, hv⟩
    cases hcut : m.cut text with
    | ok cut =>
      obtain ⟨capture, happlies⟩ := applies_of_cut hfirst hcut
      exact absurd hv happlies.not_violates
    | error e =>
      rcases cut_error hfirst hcut with ⟨w, rfl, _⟩ | ⟨hstrays, _⟩
      · exact ⟨w, bind_eq_error.mpr (Or.inl hcut)⟩
      · exact absurd hv hstrays.not_violates

/-- A match lacks a captured span, without a violation, exactly if it strays. -/
theorem prepare_strays_iff (hfirst : m.spans.head? = some entire) :
    m.prepare text rules = .error .noSuchSpan ↔ m.Strays text entire := by
  constructor
  · intro h
    rcases prepare_error_cases hfirst h with ⟨_, ⟨⟩, _⟩ | ⟨hstrays, _⟩ | ⟨_, ⟨⟩⟩
    exact hstrays
  · intro hstrays
    exact bind_eq_error.mpr (Or.inl (hstrays.cut_eq hfirst))

end Match

/-! ## Exact cuts -/

/-- The text is what a match consumes, up to the end of `entire`, and a rest. The captured text stands in
the consumed part where `capture` says. -/
structure Text.Divided (text : Text) (entire capture : Span) (captured rest : Text) : Prop where
  consumed : ∃ before after, text = (before ++ captured ++ after) ++ rest ∧
    ((before ++ captured ++ after).length : Int) = entire.stop ∧ (before.length : Int) = capture.start
  captured_length : (captured.length : Int) = capture.size
  rest_shorter : rest.length < text.length

/-- A front of a text, cut at two places within it. -/
theorem Text.take_cut_twice (text : Text) {lo hi stop : Nat} (hlo : lo ≤ hi) (hhi : hi ≤ stop) :
    text.take lo ++ (text.take hi).drop lo ++ (text.take stop).drop hi = text.take stop := by
  have hinner : text.take lo = (text.take hi).take lo := by
    rw [List.take_take, Nat.min_eq_left hlo]
  have houter : text.take hi = (text.take stop).take hi := by
    rw [List.take_take, Nat.min_eq_left hhi]
  rw [hinner, List.take_append_drop, houter, List.take_append_drop]

namespace Match

variable {m : Match} {text : Text} {rules : RuleSet} {entire capture : Span}

theorem Applies.divided (h : m.Applies text entire capture) (hcapture : 0 ≤ capture.size) :
    text.Divided entire capture (Text.slice text capture.start capture.stop)
      (Text.sliceFrom text entire.stop) := by
  obtain ⟨⟨hstarts, hends, hconsumes⟩, _, hpresent, hinside⟩ := h
  have hcaptureStop : capture.stop = capture.start + capture.size := rfl
  obtain ⟨lo, hlo⟩ := Int.eq_ofNat_of_zero_le hpresent
  obtain ⟨hi, hhi⟩ := Int.eq_ofNat_of_zero_le (a := capture.stop) (by omega)
  obtain ⟨stop, hstop⟩ := Int.eq_ofNat_of_zero_le (a := entire.stop) (by omega)
  have hordered : lo ≤ hi := by omega
  have hwithin : hi ≤ stop := by omega
  have hfront := text.take_cut_twice hordered hwithin
  rw [Text.slice_of_nonneg text hpresent (by omega), Text.sliceFrom_of_nonneg text (by omega), hlo,
    hhi, hstop, Int.toNat_natCast, Int.toNat_natCast, Int.toNat_natCast]
  constructor
  · refine ⟨text.take lo, (text.take stop).drop hi, ?_, ?_, ?_⟩
    · rw [hfront, List.take_append_drop]
    · rw [hfront, List.length_take]
      omega
    · rw [List.length_take]
      omega
  · rw [List.length_drop, List.length_take]
    omega
  · rw [List.length_drop]
    omega

theorem Applies.prepare_eq (h : m.Applies text entire capture)
    (hfirst : m.spans.head? = some entire) :
    m.prepare text rules =
      (Formatter.format m.rule.formatter (Text.slice text capture.start capture.stop)).map
        fun payload => {
          found := m
          nextText := Text.sliceFrom text entire.stop
          source := text
          payload := payload
          childRules := m.rule.childRules rules } := by
  rw [prepare, h.cut_eq hfirst]
  cases hformat : Formatter.format m.rule.formatter (Text.slice text capture.start capture.stop) with
  | ok payload => simp only [bind, Except.bind, hformat, Except.map, pure, Except.pure]
  | error e => simp only [bind, Except.bind, hformat, Except.map]

theorem Applies.prepareEvents_eq (h : m.Applies text entire capture)
    (hfirst : m.spans.head? = some entire) :
    m.prepareEvents text =
      Formatter.events m.rule.formatter (Text.slice text capture.start capture.stop) := by
  rw [prepareEvents, h.cut_eq hfirst]

/-- A match whose spans have no negative lengths is rejected for them exactly if something is wrong with
them, and the violation says what. It fails without a violation, for want of a captured span, exactly if
it strays. Otherwise its spans divide the text, a supplied formatter is called with the captured text and
nothing else, and unless it fails the construction holds the rest of the text, the text itself and the
child rules. -/
theorem prepare_violates_strays_or_divides (m : Match) (text : Text) (rules : RuleSet)
    (hfirst : m.spans.head? = some entire) (hsize : ∀ s ∈ m.spans, 0 ≤ s.size) :
    ((∃ v, m.prepare text rules = .error (.contract v)) ↔ ∃ v, m.Violates text entire v) ∧
    (∀ v, m.prepare text rules = .error (.contract v) → m.Violates text entire v) ∧
    (m.prepare text rules = .error .noSuchSpan ↔ m.Strays text entire) ∧
    ((¬ ∃ v, m.Violates text entire v) → ¬ m.Strays text entire → ∃ capture captured rest,
      m.selected? = some capture ∧ text.Divided entire capture captured rest ∧
      m.prepareEvents text = Formatter.events m.rule.formatter captured ∧
      m.prepare text rules = (Formatter.format m.rule.formatter captured).map fun payload => {
        found := m
        nextText := rest
        source := text
        payload := payload
        childRules := m.rule.childRules rules }) := by
  refine ⟨prepare_violates_iff hfirst, fun v => violates_of_prepare hfirst, prepare_strays_iff hfirst,
    fun hnone hstays => ?_⟩
  rcases violates_strays_or_applies hfirst with hv | hstrays | ⟨capture, happlies⟩
  · exact absurd hv hnone
  · exact absurd hstrays hstays
  have hcapture := hsize capture (selected?_mem happlies.selected)
  exact ⟨capture, _, _, happlies.selected, happlies.divided hcapture,
    happlies.prepareEvents_eq hfirst, happlies.prepare_eq hfirst⟩

/-- A match of nothing behind the second character that captures the two in front of it, in reverse. -/
def lookingBack : Match where
  rule :=
    { name := "back"
      matcher := .function ⟨.named "back", fun _ => .ok (.list [.tuple [.int 2, .int 0],
        .tuple [.int 0, .int 2]])⟩
      formatter := some (.function ⟨.named "reverse", fun t => .ok t.reverse⟩) }
  spans := [.of 2 0, .of 0 2]

/-- The whole match may be empty and the captured text may stand in front of it. -/
theorem prepare_lookingBack :
    lookingBack.spans.head? = some (.of 2 0) ∧ (∀ s ∈ lookingBack.spans, 0 ≤ s.size) ∧
    ∃ captured rest, Text.Divided ['a', 'b', 'c'] (.of 2 0) (.of 0 2) captured rest ∧
      ∃ c, lookingBack.prepare ['a', 'b', 'c'] [] = .ok c ∧ c.nextText = rest ∧
        c.payload = captured.reverse := by
  have hsize : ∀ s ∈ lookingBack.spans, 0 ≤ s.size := by decide
  have hleads : Span.Leads (.of 2 0) ['a', 'b', 'c'] := by
    constructor <;> decide
  have happlies : lookingBack.Applies ['a', 'b', 'c'] (.of 2 0) (.of 0 2) :=
    ⟨hleads, rfl, by decide, by decide⟩
  have hstays : ¬ lookingBack.Strays ['a', 'b', 'c'] (.of 2 0) := fun hstrays => by
    cases hstrays.selected?_eq_none.symm.trans happlies.selected
  obtain ⟨capture, captured, rest, hselected, hdivided, _, hprepare⟩ :=
    (prepare_violates_strays_or_divides lookingBack ['a', 'b', 'c'] [] rfl hsize).2.2.2
      (fun ⟨_, hv⟩ => happlies.not_violates hv) hstays
  cases hselected.symm.trans happlies.selected
  exact ⟨rfl, hsize, captured, rest, hdivided, _, hprepare, rfl, rfl⟩

/-- A match of two characters, the first of them as a span of its own, under a rule that captures the
fifth span from the end. -/
def countingBack : Match where
  rule :=
    { name := "a"
      matcher := .function ⟨.named "<lambda>", fun _ => .ok (.list [.tuple [.int 0, .int 2],
        .tuple [.int 0, .int 1]])⟩
      capture := some (-5) }
  spans := [.of 0 2, .of 0 1]

/-- There is no fifth span from the end, and yet there is no violation, neither when the match is prepared
nor when a text is parsed under its rule. -/
theorem prepare_countingBack :
    countingBack.rule.matcher.spans ['a', 'b'] = .ok (some countingBack.spans) ∧
    (∀ s ∈ countingBack.spans, 0 ≤ s.size) ∧ countingBack.selected? = none ∧
    countingBack.prepare ['a', 'b'] [countingBack.rule] = .error .noSuchSpan ∧
    parse 1 none ['a', 'b'] [countingBack.rule] = some (.error .noSuchSpan) ∧
    ¬ ∃ v, countingBack.prepare ['a', 'b'] [countingBack.rule] = .error (.contract v) := by
  refine ⟨rfl, by decide, rfl, rfl, rfl, ?_⟩
  rintro ⟨v, h⟩
  cases h

end Match

end RuleTree
