import RuleTree.Proofs.Parse.Acceptance

/-!
# Results of matcher functions

A matcher function may return any value. Null means that there is no match. A value with items is
taken as a list of spans if every item can be unpacked into two integers, the second of which is not
negative, and there is at least one. Every other value with items is rejected with a violation. A value
without items, such as a number, is not rejected: it fails as something that cannot be read item by
item, which is no violation. Nothing is said of results that fail while their items are read.
-/

namespace RuleTree

namespace Value

variable {α : Type}

theorem whole?_eq_some {v : Value α} {w : Whole} : v.whole? = some w ↔ v = whole w := by
  cases v <;> cases w <;> simp [whole?, whole]

theorem whole?_whole (w : Whole) : (whole w : Value α).whole? = some w := whole?_eq_some.mpr rfl

end Value

/-- The item unpacks into the offset and the length of the span, and the length is not negative. -/
structure Datum.DenotesSpan (item : Datum) (s : Span) : Prop where
  items : item.items? = some [Value.whole s.offset, Value.whole s.length]
  size_nonneg : 0 ≤ s.size

namespace MatcherFunction

variable {name : String} {item v : Datum} {items : List Datum} {s : Span} {ss : List Span}

theorem span_eq_ok : span name item = .ok s ↔ item.DenotesSpan s := by
  constructor
  · intro h
    have hsize := span_size_nonneg h
    unfold span at h
    split at h
    · next a b hitems =>
      split at h
      · next offset length ha hb =>
        split at h
        · exact absurd h throw_ne_ok
        · obtain rfl := pure_eq_ok.mp h
          rw [Value.whole?_eq_some.mp ha, Value.whole?_eq_some.mp hb] at hitems
          exact ⟨hitems, hsize⟩
      · exact absurd h throw_ne_ok
    · exact absurd h throw_ne_ok
  · rintro ⟨hitems, hsize⟩
    rw [span, hitems]
    simp only [Value.whole?_whole]
    rw [if_neg (by unfold Span.size at hsize; omega)]
    rfl

theorem span_error {e : ParseError} (h : span name item = .error e) :
    ∃ violation, e = .contract violation := by
  unfold span at h
  split at h
  · split at h
    · split at h
      · cases h
        exact ⟨_, rfl⟩
      · cases h
    · cases h
      exact ⟨_, rfl⟩
  · cases h
    exact ⟨_, rfl⟩

theorem mapM_span_eq_ok :
    items.mapM (span name) = .ok ss ↔ List.Forall₂ Datum.DenotesSpan items ss := by
  rw [mapM_eq_ok]
  simp only [span_eq_ok]

theorem exists_denoted (h : List.Forall₂ Datum.DenotesSpan items ss) :
    ∀ item ∈ items, ∃ s, Datum.DenotesSpan item s := by
  induction h with
  | nil => simp
  | cons hs _ ih => exact List.forall_mem_cons.mpr ⟨⟨_, hs⟩, ih⟩

/-- A value with items is worked through item by item. -/
theorem spans_of_items (h : v.items? = some items) :
    spans name v = items.mapM (span name) >>= fun ss =>
      if ss.isEmpty then throw (.contract (.noSpans name)) else pure (some ss) := by
  unfold spans
  split
  · cases h
  · rw [h]
    refine congrArg (items.mapM (span name) >>= ·) (funext fun ss => ?_)
    cases ss <;> rfl

theorem spans_of_denoted (h : v.items? = some items) (hne : items ≠ [])
    (hss : List.Forall₂ Datum.DenotesSpan items ss) : spans name v = .ok (some ss) := by
  rw [spans_of_items h, mapM_span_eq_ok.mpr hss]
  cases hss with
  | nil => exact absurd rfl hne
  | cons => rfl

theorem spans_of_no_items (hne : v ≠ .null) (h : v.items? = none) :
    spans name v = .error .notIterable := by
  unfold spans
  split
  · exact absurd rfl hne
  · rw [h]
    rfl

/-- A list of items that are not all spans is rejected, and so is one without any. -/
theorem spans_of_undenoted (h : v.items? = some items)
    (hbad : items = [] ∨ ∃ item ∈ items, ∀ s, ¬ Datum.DenotesSpan item s) :
    ∃ violation, spans name v = .error (.contract violation) := by
  rw [spans_of_items h]
  cases hspans : items.mapM (span name) with
  | error e =>
    obtain ⟨item, _, he⟩ := mapM_eq_error hspans
    obtain ⟨violation, rfl⟩ := span_error he
    exact ⟨violation, rfl⟩
  | ok ss =>
    have hss := mapM_span_eq_ok.mp hspans
    rcases hbad with rfl | ⟨item, hmem, hnone⟩
    · cases hss
      exact ⟨_, rfl⟩
    · obtain ⟨s, hs⟩ := exists_denoted hss item hmem
      exact absurd hs (hnone s)

end MatcherFunction

namespace Matcher

variable {f : MatcherFunction} {t : Text} {v : Datum}

theorem spans_function (h : f.run t = .ok v) :
    (function f).spans t = MatcherFunction.spans f.label.plain v := by
  rw [spans, h]
  rfl

/-- What is made of a value that a matcher function returned: null is no match; items that all denote
spans are these spans, one for one; other items, or none at all, are a violation. A value that has no
items fails in a way that is no violation. The items of a value can always be read to the end; an object
whose reading breaks off with an error is not among the values. -/
theorem spans_of_returned (h : f.run t = .ok v) :
    (v = .null → (function f).spans t = .ok none) ∧
    (∀ items ss, v.items? = some items → items ≠ [] → List.Forall₂ Datum.DenotesSpan items ss →
      (function f).spans t = .ok (some ss)) ∧
    (∀ items, v.items? = some items → (items = [] ∨ ∃ item ∈ items, ∀ s, ¬ Datum.DenotesSpan item s) →
      ∃ violation, (function f).spans t = .error (.contract violation)) ∧
    (v ≠ .null → v.items? = none → (function f).spans t = .error .notIterable) := by
  rw [spans_function h]
  refine ⟨?_, ?_, ?_, ?_⟩
  · rintro rfl
    rfl
  · exact fun items ss => MatcherFunction.spans_of_denoted
  · exact fun items => MatcherFunction.spans_of_undenoted
  · exact MatcherFunction.spans_of_no_items

/-- Items of all kinds that unpack into two integers. -/
def pairItems : List Datum :=
  [.tuple [.int 0, .int 3], .list [.int (-1), .bool true], .bytes [2, 0],
    .mapping [(.int 4, .null), (.int 5, .str "x")], .span (.of 1 0)]

/-- Every kind of pair is a span, whatever its items are held in. -/
theorem spans_of_returned_pairItems :
    MatcherFunction.run ⟨.named "pairs", fun _ => .ok (.stream pairItems)⟩ ['a'] =
      .ok (.stream pairItems) ∧
    (function ⟨.named "pairs", fun _ => .ok (.stream pairItems)⟩).spans ['a'] =
      .ok (some [.of 0 3, ⟨.int (-1), .truth true⟩, .of 2 0, .of 4 5, .of 1 0]) := by
  refine ⟨rfl, (spans_of_returned rfl).2.1 pairItems _ rfl (List.cons_ne_nil _ _) ?_⟩
  exact .cons ⟨rfl, by decide⟩ (.cons ⟨rfl, by decide⟩ (.cons ⟨rfl, by decide⟩
    (.cons ⟨rfl, by decide⟩ (.cons ⟨rfl, by decide⟩ .nil))))

/-- A number has no items: it is neither null nor a list of spans, and there is no violation. -/
theorem spans_of_number :
    MatcherFunction.run ⟨.named "number", fun _ => .ok (.int 42)⟩ ['a', 'b', 'c'] = .ok (.int 42) ∧
    (function ⟨.named "number", fun _ => .ok (.int 42)⟩).spans ['a', 'b', 'c'] =
      .error .notIterable ∧
    ¬ ∃ violation, (function ⟨.named "number", fun _ => .ok (.int 42)⟩).spans ['a', 'b', 'c'] =
      .error (.contract violation) := by
  refine ⟨rfl, rfl, ?_⟩
  rintro ⟨violation, h⟩
  cases h

end Matcher

end RuleTree
