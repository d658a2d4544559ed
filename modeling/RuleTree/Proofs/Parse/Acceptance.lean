import RuleTree.Parse.Construction
import RuleTree.Proofs.Outcome

/-!
# Accepted matches

The rule that answers at the front of a text is the first one, in order of priority, whose matcher
does not pass. `Answers` says so without reference to the search, and the search agrees with it.
An accepted match leaves a proper suffix of the text it was found in; this is the only progress that
parsing makes on a match, and it needs no assumption about supplied functions.
-/

namespace RuleTree

theorem Parse.call_eq_ok {x : Except Raised α} {a : α} : Parse.call x = .ok a ↔ x = .ok a := by
  cases x <;> simp [Parse.call]

namespace RuleSet

/-- No rule finds anything in the text, and none fails. -/
def Silent (rules : RuleSet) (t : Text) : Prop := ∀ r ∈ rules, r.matcher.spans t = .ok none

/-- Every rule of higher priority than `r` passes on the text, so that `r` decides what happens. -/
def Answers (rules : RuleSet) (t : Text) (r : Rule) : Prop :=
  ∃ before after, rules = before ++ r :: after ∧ Silent before t

theorem Silent.nil (t : Text) : Silent [] t := by simp [Silent]

theorem silent_cons {r : Rule} {rs : RuleSet} {t : Text} :
    Silent (r :: rs) t ↔ r.matcher.spans t = .ok none ∧ Silent rs t := by
  simp [Silent]

theorem Answers.mem {rules : RuleSet} {t : Text} {r : Rule} (h : rules.Answers t r) : r ∈ rules := by
  obtain ⟨before, after, rfl, _⟩ := h
  simp

theorem Answers.head (r : Rule) (rs : RuleSet) (t : Text) : Answers (r :: rs) t r :=
  ⟨[], rs, rfl, Silent.nil t⟩

/-- Unless the first rule passes on the text, it is the one that answers. -/
theorem answers_cons {r s : Rule} {rs : RuleSet} {t : Text} :
    Answers (r :: rs) t s ↔ s = r ∨ (r.matcher.spans t = .ok none ∧ Answers rs t s) := by
  constructor
  · rintro ⟨before, after, he, hs⟩
    cases before with
    | nil =>
      simp only [List.nil_append, List.cons.injEq] at he
      exact Or.inl he.1.symm
    | cons b before =>
      simp only [List.cons_append, List.cons.injEq] at he
      obtain ⟨rfl, rfl⟩ := he
      rw [silent_cons] at hs
      exact Or.inr ⟨hs.1, before, after, rfl, hs.2⟩
  · rintro (rfl | ⟨hr, before, after, rfl, hs⟩)
    · exact Answers.head s rs t
    · exact ⟨r :: before, after, rfl, silent_cons.mpr ⟨hr, hs⟩⟩

theorem findMatch_cons_none {r : Rule} {rs : RuleSet} {t : Text}
    (h : r.matcher.spans t = .ok none) : findMatch (r :: rs) t = findMatch rs t := by
  simp [findMatch, h, bind, Except.bind]

theorem findMatch_cons_some {r : Rule} {rs : RuleSet} {t : Text} {spans : List Span}
    (h : r.matcher.spans t = .ok (some spans)) :
    findMatch (r :: rs) t = .ok (some ⟨r, spans⟩) := by
  simp [findMatch, h, bind, Except.bind, pure, Except.pure]

theorem findMatch_cons_error {r : Rule} {rs : RuleSet} {t : Text} {e : ParseError}
    (h : r.matcher.spans t = .error e) : findMatch (r :: rs) t = .error e := by
  simp [findMatch, h, bind, Except.bind]

/-- Of every text either no rule says anything, or a first one succeeds, or a first one fails. -/
theorem answer_cases (rules : RuleSet) (t : Text) :
    rules.Silent t ∨
    (∃ r spans, rules.Answers t r ∧ r.matcher.spans t = .ok (some spans)) ∨
    (∃ r e, rules.Answers t r ∧ r.matcher.spans t = .error e) := by
  induction rules with
  | nil => exact Or.inl (Silent.nil t)
  | cons r rs ih =>
    cases hr : r.matcher.spans t with
    | error e => exact Or.inr (Or.inr ⟨r, e, Answers.head r rs t, hr⟩)
    | ok found =>
      cases found with
      | some spans => exact Or.inr (Or.inl ⟨r, spans, Answers.head r rs t, hr⟩)
      | none =>
        rcases ih with hs | ⟨s, spans, ha, hm⟩ | ⟨s, e, ha, hm⟩
        · exact Or.inl (silent_cons.mpr ⟨hr, hs⟩)
        · exact Or.inr (Or.inl ⟨s, spans, answers_cons.mpr (Or.inr ⟨hr, ha⟩), hm⟩)
        · exact Or.inr (Or.inr ⟨s, e, answers_cons.mpr (Or.inr ⟨hr, ha⟩), hm⟩)

theorem Silent.findMatch_append {before : RuleSet} {t : Text} (h : before.Silent t)
    (after : RuleSet) : RuleSet.findMatch (before ++ after) t = after.findMatch t := by
  induction before with
  | nil => rfl
  | cons r rs ih =>
    rw [silent_cons] at h
    rw [List.cons_append, findMatch_cons_none h.1, ih h.2]

theorem Silent.findMatch {rules : RuleSet} {t : Text} (h : rules.Silent t) :
    rules.findMatch t = .ok none := by
  have he := h.findMatch_append []
  rwa [List.append_nil] at he

theorem Answers.findMatch_some {rules : RuleSet} {t : Text} {r : Rule} {spans : List Span}
    (h : rules.Answers t r) (hm : r.matcher.spans t = .ok (some spans)) :
    rules.findMatch t = .ok (some ⟨r, spans⟩) := by
  obtain ⟨before, after, rfl, hs⟩ := h
  rw [hs.findMatch_append, findMatch_cons_some hm]

theorem Answers.findMatch_error {rules : RuleSet} {t : Text} {r : Rule} {e : ParseError}
    (h : rules.Answers t r) (hm : r.matcher.spans t = .error e) : rules.findMatch t = .error e := by
  obtain ⟨before, after, rfl, hs⟩ := h
  rw [hs.findMatch_append, findMatch_cons_error hm]

theorem silent_of_findMatch {rules : RuleSet} {t : Text} (h : rules.findMatch t = .ok none) :
    rules.Silent t := by
  rcases rules.answer_cases t with hs | ⟨r, spans, ha, hm⟩ | ⟨r, e, ha, hm⟩
  · exact hs
  · cases h.symm.trans (ha.findMatch_some hm)
  · cases h.symm.trans (ha.findMatch_error hm)

theorem answers_of_findMatch_some {rules : RuleSet} {t : Text} {m : Match}
    (h : rules.findMatch t = .ok (some m)) :
    rules.Answers t m.rule ∧ m.rule.matcher.spans t = .ok (some m.spans) := by
  rcases rules.answer_cases t with hs | ⟨r, spans, ha, hm⟩ | ⟨r, e, ha, hm⟩
  · cases h.symm.trans hs.findMatch
  · cases h.symm.trans (ha.findMatch_some hm)
    exact ⟨ha, hm⟩
  · cases h.symm.trans (ha.findMatch_error hm)

theorem answers_of_findMatch_error {rules : RuleSet} {t : Text} {e : ParseError}
    (h : rules.findMatch t = .error e) :
    ∃ r, rules.Answers t r ∧ r.matcher.spans t = .error e := by
  rcases rules.answer_cases t with hs | ⟨r, spans, ha, hm⟩ | ⟨r, e', ha, hm⟩
  · cases h.symm.trans hs.findMatch
  · cases h.symm.trans (ha.findMatch_some hm)
  · cases h.symm.trans (ha.findMatch_error hm)
    exact ⟨r, ha, hm⟩

end RuleSet

/-- Trimming never reaches a span that took part. -/
theorem Span.trimAbsent_cons {s : Span} (h : 0 ≤ s.start) (ss : List Span) :
    ∃ others, Span.trimAbsent (s :: ss) = s :: others := by
  have hs : (decide (s.start < 0)) = false := by simpa using h
  refine ⟨(ss.reverse.dropWhile fun s => s.start < 0).reverse, ?_⟩
  rw [Span.trimAbsent, List.reverse_cons, List.dropWhile_append]
  split
  · next he =>
    rw [List.isEmpty_iff] at he
    simp [he, hs]
  · rw [List.reverse_append, List.reverse_singleton, List.singleton_append]

theorem Pattern.Found.spans_eq_cons (f : Pattern.Found) :
    ∃ others, f.spans = Span.ofRegion (some (f.start, f.stop)) :: others := by
  apply Span.trimAbsent_cons
  rw [Span.ofRegion, Span.start_of]
  exact Int.natCast_nonneg f.start

namespace MatcherFunction

theorem span_size_nonneg {name : String} {item : Datum} {s : Span}
    (h : span name item = .ok s) : 0 ≤ s.size := by
  unfold span at h
  split at h
  · split at h
    · split at h
      · exact absurd h throw_ne_ok
      · obtain rfl := pure_eq_ok.mp h
        simp only [Span.size]
        omega
    · exact absurd h throw_ne_ok
  · exact absurd h throw_ne_ok

theorem mapM_span_size_nonneg {name : String} {items : List Datum} {ss : List Span}
    (h : items.mapM (span name) = .ok ss) : ∀ s ∈ ss, 0 ≤ s.size := by
  intro s hs
  obtain ⟨item, _, hitem⟩ := exists_of_mapM_eq_ok h s hs
  exact span_size_nonneg hitem

theorem spans_some {name : String} {v : Datum} {ss : List Span}
    (h : spans name v = .ok (some ss)) : ss ≠ [] ∧ ∀ s ∈ ss, 0 ≤ s.size := by
  unfold spans at h
  split at h
  · simp [pure, Except.pure] at h
  · split at h
    · exact absurd h throw_ne_ok
    · obtain ⟨found, hfound, h⟩ := bind_eq_ok.mp h
      cases found with
      | nil => simp [bind, Except.bind, throw, throwThe, MonadExceptOf.throw] at h
      | cons s others =>
        simp only [List.isEmpty_cons, Bool.false_eq_true, ↓reduceIte, pure_eq_ok,
          Option.some.injEq] at h
        subst h
        exact ⟨List.cons_ne_nil s others, mapM_span_size_nonneg hfound⟩

end MatcherFunction

/-- A matcher that finds anything finds a first span, and one that starts in the text does not end
before it: a pattern reports places of the text, and a function no negative length. -/
theorem Matcher.spans_first {mt : Matcher} {t : Text} {ss : List Span}
    (h : mt.spans t = .ok (some ss)) :
    ∃ entire others, ss = entire :: others ∧ (0 ≤ entire.start → 0 ≤ entire.stop) := by
  cases mt with
  | pattern p =>
    simp only [Matcher.spans, pure_eq_ok, Option.map_eq_some_iff] at h
    obtain ⟨f, _, rfl⟩ := h
    obtain ⟨others, ho⟩ := f.spans_eq_cons
    refine ⟨_, others, ho, ?_⟩
    intro _
    simp only [Span.ofRegion, Span.stop_of]
    omega
  | function f =>
    obtain ⟨v, _, hv⟩ := bind_eq_ok.mp h
    obtain ⟨hne, hsize⟩ := MatcherFunction.spans_some hv
    obtain ⟨entire, others, rfl⟩ := List.exists_cons_of_ne_nil hne
    refine ⟨entire, others, rfl, ?_⟩
    intro hstart
    have hsize := hsize entire List.mem_cons_self
    unfold Span.stop
    omega

namespace Match

theorem consumedEnd_ok {m : Match} {text : Text} {stop : Int} (h : m.consumedEnd text = .ok stop) :
    ∃ entire others, m.spans = entire :: others ∧ entire.stop = stop ∧ 0 ≤ entire.start ∧
      stop ≤ text.length ∧ stop ≠ 0 := by
  unfold consumedEnd at h
  cases hs : m.spans with
  | nil => simp only [hs, throw_ne_ok] at h
  | cons entire others =>
    simp only [hs] at h
    split at h
    · exact absurd h throw_ne_ok
    · split at h
      · exact absurd h throw_ne_ok
      · rw [pure_eq_ok] at h
        exact ⟨entire, others, rfl, h, by omega, by omega, by omega⟩

/-- The captured text lies within the consumed region. -/
theorem cut_ok {m : Match} {text captured : Text} {stop : Int}
    (h : m.cut text = .ok (captured, stop)) :
    m.consumedEnd text = .ok stop ∧ ∃ capture, m.captureSpan = .ok capture ∧ 0 ≤ capture.start ∧
      capture.stop ≤ stop ∧ captured = Text.slice text capture.start capture.stop := by
  unfold cut at h
  obtain ⟨stop', hstop, h⟩ := bind_eq_ok.mp h
  obtain ⟨capture, hcapture, h⟩ := bind_eq_ok.mp h
  by_cases hneg : capture.start < 0
  · simp [hneg, bind, Except.bind, throw, throwThe, MonadExceptOf.throw] at h
  by_cases hbeyond : stop' < capture.stop
  · simp [hneg, hbeyond, bind, Except.bind, throw, throwThe, MonadExceptOf.throw] at h
  simp only [hneg, hbeyond, ↓reduceIte, pure_eq_ok, Prod.mk.injEq] at h
  obtain ⟨rfl, rfl⟩ := h
  exact ⟨hstop, capture, hcapture, by omega, by omega, rfl⟩

theorem prepare_ok {m : Match} {text : Text} {rules : RuleSet} {c : Construction}
    (h : m.prepare text rules = .ok c) :
    ∃ captured stop, m.cut text = .ok (captured, stop) ∧
      Formatter.format m.rule.formatter captured = .ok c.payload ∧ c.found = m ∧
      c.nextText = Text.sliceFrom text stop ∧ c.source = text ∧
      c.childRules = m.rule.childRules rules := by
  unfold prepare at h
  obtain ⟨⟨captured, stop⟩, hcut, h⟩ := bind_eq_ok.mp h
  obtain ⟨payload, hformat, h⟩ := bind_eq_ok.mp h
  obtain rfl := pure_eq_ok.mp h
  exact ⟨captured, stop, hcut, hformat, rfl, rfl, rfl, rfl⟩

/-- The text behind an accepted match is a proper suffix of the text it was found in. -/
theorem prepare_nextText {m : Match} {text : Text} {rules : RuleSet} {c : Construction}
    (hm : m.rule.matcher.spans text = .ok (some m.spans)) (h : m.prepare text rules = .ok c) :
    c.nextText <:+ text ∧ c.nextText.length < text.length := by
  obtain ⟨captured, stop, hcut, _, _, hnext, _, _⟩ := prepare_ok h
  obtain ⟨entire, others, hspans, rfl, hstart, hle, hne⟩ := consumedEnd_ok (cut_ok hcut).1
  obtain ⟨entire', others', hspans', hstop⟩ := Matcher.spans_first hm
  obtain ⟨rfl, rfl⟩ := List.cons.inj (hspans.symm.trans hspans')
  have hstop := hstop hstart
  rw [hnext, Text.sliceFrom]
  refine ⟨List.drop_suffix _ _, ?_⟩
  obtain ⟨n, hn⟩ := Int.eq_ofNat_of_zero_le hstop
  rw [hn, Text.place_of_nat, List.length_drop]
  omega

/-- Without a formatter the payload is the captured text itself. -/
theorem prepare_unformatted {m : Match} {text : Text} {rules : RuleSet} {c : Construction}
    (hf : m.rule.formatter = none) (h : m.prepare text rules = .ok c) :
    ∃ capture, m.captureSpan = .ok capture ∧ 0 ≤ capture.start ∧
      c.payload = Text.slice text capture.start capture.stop := by
  obtain ⟨captured, stop, hcut, hformat, _⟩ := prepare_ok h
  obtain ⟨_, capture, hcapture, hstart, _, rfl⟩ := cut_ok hcut
  rw [hf] at hformat
  exact ⟨capture, hcapture, hstart, (pure_eq_ok.mp hformat).symm⟩

end Match

/-- A match is found at the front of the text, and `c` is what it is prepared into. -/
structure RuleSet.Accepts (rules : RuleSet) (text : Text) (c : Construction) : Prop where
  answers : rules.Answers text c.found.rule
  finds : c.found.rule.matcher.spans text = .ok (some c.found.spans)
  prepared : c.found.prepare text rules = .ok c

namespace RuleSet.Accepts

variable {rules : RuleSet} {text : Text} {c : Construction}

theorem of_prepare {r : Rule} {spans : List Span} (ha : rules.Answers text r)
    (hm : r.matcher.spans text = .ok (some spans))
    (hp : Match.prepare ⟨r, spans⟩ text rules = .ok c) : rules.Accepts text c := by
  obtain ⟨_, _, _, _, hfound, _⟩ := Match.prepare_ok hp
  rw [← hfound] at hp
  constructor
  · rwa [hfound]
  · rwa [hfound]
  · exact hp

theorem nextText_suffix (h : rules.Accepts text c) : c.nextText <:+ text :=
  (Match.prepare_nextText h.finds h.prepared).1

theorem nextText_length_lt (h : rules.Accepts text c) : c.nextText.length < text.length :=
  (Match.prepare_nextText h.finds h.prepared).2

theorem childRules_eq (h : rules.Accepts text c) :
    c.childRules = c.found.rule.childRules rules := by
  obtain ⟨_, _, _, _, _, _, _, hrules⟩ := Match.prepare_ok h.prepared
  exact hrules

/-- A match is accepted only in front of some text. -/
theorem text_ne_nil (h : rules.Accepts text c) : text ≠ [] :=
  List.ne_nil_of_length_pos (Nat.zero_lt_of_lt h.nextText_length_lt)

end RuleSet.Accepts

end RuleTree
