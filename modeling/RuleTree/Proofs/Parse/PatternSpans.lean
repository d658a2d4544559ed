import Mathlib.Data.List.DropRight
import RuleTree.Proofs.Parse.Failure

/-!
# Spans of a pattern

A search reports a region for the whole match and for every group that took part, each under the number
of the group. The spans of a pattern are these regions in the same order, up to the last one that took
part, so a span stands under the number of its group. With that, the match of a pattern is rejected
exactly if it consumes nothing, or if the group that the rule captures took no part or ends behind the
whole match. A capture that counts from the end counts the spans that are left, and is no violation where
it counts beyond the first. Nothing is assumed of a search but that its regions lie in the text.
-/

namespace RuleTree

theorem Span.ofRegion_start_neg_iff {region : Option (Nat × Nat)} :
    (ofRegion region).start < 0 ↔ region = none := by
  cases region with
  | none => simp [ofRegion, absent]
  | some places => simp [ofRegion]

theorem Span.ofRegion_stop (places : Nat × Nat) : (ofRegion (some places)).stop = places.2 := by
  rw [ofRegion, stop_of]
  omega

/-- A captured region is at fault if it took no part or ends behind the place `stop`. -/
theorem Span.ofRegion_faulty_iff {region : Option (Nat × Nat)} {stop : Nat} :
    ((ofRegion region).start < 0 ∨ (stop : Int) < (ofRegion region).stop) ↔
      region = none ∨ ∃ places, region = some places ∧ stop < places.2 := by
  rw [ofRegion_start_neg_iff]
  cases region with
  | none => simp
  | some places => simp [ofRegion_stop]

/-- A search reports on every group of the pattern. -/
theorem Pattern.search_groups_length {p : Pattern} {t : Text} {f : Found} (h : p.search t = some f) :
    f.groups.length = p.groups := by
  obtain ⟨place, c, hfound⟩ := exists_found?_of_search h
  obtain ⟨whole, _, rfl⟩ := Option.map_eq_some_iff.mp hfound
  rw [List.length_map, List.length_range]

namespace Pattern.Found

/-- The regions by the number of their group, the whole match being group 0. -/
def regions (f : Found) : List (Option (Nat × Nat)) := some (f.start, f.stop) :: f.groups

/-- The region of the last group that took part. -/
def lastRegion? (f : Found) : Option (Nat × Nat) := (f.regions.filterMap id).getLast?

/-- The groups up to the last one that took part. -/
def taken (f : Found) : List (Option (Nat × Nat)) := f.regions.rdropWhile Option.isNone

variable {f : Found} {k : Nat}

theorem spans_eq_map_taken (f : Found) : f.spans = f.taken.map Span.ofRegion := by
  have habsent : (fun s : Span => decide (s.start < 0)) ∘ Span.ofRegion = Option.isNone := by
    funext region
    rw [Function.comp_apply, Bool.eq_iff_iff, decide_eq_true_iff, Span.ofRegion_start_neg_iff,
      Option.isNone_iff_eq_none]
  rw [spans, ← List.map_cons, Span.trimAbsent, ← List.map_reverse, List.dropWhile_map, habsent,
    ← List.map_reverse]
  rfl

/-- Only groups that took no part are left out, and they are the last ones. -/
theorem regions_eq_taken_append (f : Found) :
    ∃ n, f.regions = f.taken ++ List.replicate n none := by
  refine ⟨(f.regions.rtakeWhile Option.isNone).length, ?_⟩
  have hnone : ∀ region ∈ f.regions.rtakeWhile Option.isNone, region = none :=
    fun region hr => Option.isNone_iff_eq_none.mp (List.mem_rtakeWhile_imp hr)
  rw [← List.eq_replicate_of_mem hnone]
  exact List.rdropWhile_append_rtakeWhile.symm

/-- The whole match always took part, so there is a last group that did. -/
theorem getLast?_taken (f : Found) : ∃ places, f.taken.getLast? = some (some places) := by
  have hne : f.taken ≠ [] := by
    intro hnil
    have hall := List.rdropWhile_eq_nil_iff.mp hnil _ List.mem_cons_self
    cases hall
  obtain ⟨places, hplaces⟩ := Option.ne_none_iff_exists'.mp fun hnone =>
    List.rdropWhile_last_not _ _ hne (Option.isNone_iff_eq_none.mpr hnone)
  refine ⟨places, ?_⟩
  rw [List.getLast?_eq_some_getLast hne, ← hplaces]
  rfl

theorem lastRegion?_eq {places : Nat × Nat} (h : f.taken.getLast? = some (some places)) :
    f.lastRegion? = some places := by
  obtain ⟨n, hn⟩ := f.regions_eq_taken_append
  obtain ⟨others, hothers⟩ := List.getLast?_eq_some_iff.mp h
  rw [lastRegion?, hn, hothers]
  simp [List.filterMap_append]

theorem regions_getElem?_eq_none (f : Found) : f.regions[k]? = none ↔ f.groups.length < k := by
  rw [regions, List.getElem?_eq_none_iff, List.length_cons]
  omega

/-- The span under a number, by what became of the group. A group that took no part may have lost its
place, if no later one did take part. -/
theorem spans_getElem?_cases (f : Found) (k : Nat) :
    (∃ places, f.regions[k]? = some (some places) ∧
      f.spans[k]? = some (Span.ofRegion (some places))) ∨
    (f.regions[k]? = some none ∧ (f.spans[k]? = none ∨ f.spans[k]? = some .absent)) ∨
    (f.regions[k]? = none ∧ f.spans[k]? = none) := by
  obtain ⟨n, hn⟩ := f.regions_eq_taken_append
  rw [spans_eq_map_taken, List.getElem?_map, hn]
  by_cases hk : k < f.taken.length
  · rw [List.getElem?_append_left hk, List.getElem?_eq_getElem hk]
    cases f.taken[k] with
    | none => exact Or.inr (Or.inl ⟨rfl, Or.inr rfl⟩)
    | some places => exact Or.inl ⟨places, rfl, rfl⟩
  · have hbeyond : f.taken[k]? = none := List.getElem?_eq_none (by omega)
    rw [List.getElem?_append_right (by omega), hbeyond, List.getElem?_replicate]
    split
    · exact Or.inr (Or.inl ⟨rfl, Or.inl rfl⟩)
    · exact Or.inr (Or.inr ⟨rfl, rfl⟩)

theorem spans_head? (f : Found) :
    f.spans.head? = some (Span.ofRegion (some (f.start, f.stop))) := by
  obtain ⟨others, ho⟩ := f.spans_eq_cons
  rw [ho, List.head?_cons]

/-- The whole match lies in the text, so that only its end and the captured span can be at fault. -/
theorem faulty_iff {text : Text} (hf : f.Within text.length) (r : Rule) :
    (∃ v, Match.Violates ⟨r, f.spans⟩ text (Span.ofRegion (some (f.start, f.stop))) v) ↔
      f.stop = 0 ∨ (∃ k, r.capture = some k ∧ (f.spans.length : Int) ≤ k) ∨
      ∃ capture, (Match.mk r f.spans).selected? = some capture ∧
        (capture.start < 0 ∨ (f.stop : Int) < capture.stop) := by
  have hwhole := hf.whole
  have hstop := Span.ofRegion_stop (f.start, f.stop)
  constructor
  · rintro ⟨v, hv⟩
    cases hv with
    | outsideInput hout =>
      rcases hout with hs | hs
      · cases Span.ofRegion_start_neg_iff.mp hs
      · omega
    | nothingConsumed hs => exact Or.inl (by omega)
    | captureBeyondSpans hk hle => exact Or.inr (Or.inl ⟨_, hk, hle⟩)
    | captureAbsent hs hneg => exact Or.inr (Or.inr ⟨_, hs, Or.inl hneg⟩)
    | captureBeyondMatch hs hlt => exact Or.inr (Or.inr ⟨_, hs, Or.inr (by omega)⟩)
  · rintro (hs | ⟨k, hk, hle⟩ | ⟨capture, hs, hneg | hlt⟩)
    · exact ⟨_, .nothingConsumed (by omega)⟩
    · exact ⟨_, .captureBeyondSpans hk hle⟩
    · exact ⟨_, .captureAbsent hs hneg⟩
    · exact ⟨_, .captureBeyondMatch hs (by omega)⟩

/-- The span under the number of a group is missing or at fault exactly if the group is, or took no
part. -/
theorem faulty_group_iff (f : Found) (k : Nat) :
    ((f.spans.length : Int) ≤ k ∨ ∃ capture, entryAt? f.spans k = some capture ∧
        (capture.start < 0 ∨ (f.stop : Int) < capture.stop)) ↔
      f.groups.length < k ∨ f.regions[k]? = some none ∨
        ∃ places, f.regions[k]? = some (some places) ∧ f.stop < places.2 := by
  rw [entryAt?_natCast, Int.ofNat_le, ← List.getElem?_eq_none_iff, ← regions_getElem?_eq_none]
  rcases f.spans_getElem?_cases k with ⟨places, hregion, hspan⟩ | ⟨hregion, hspan | hspan⟩ |
    ⟨hregion, hspan⟩
  · simp [hregion, hspan, Span.ofRegion_faulty_iff]
  · simp [hregion, hspan]
  · simp [hregion, hspan, Span.absent]
  · simp [hregion, hspan]

/-- A span counted from the end is at fault exactly if the group in its place is. -/
theorem faulty_counted_iff (f : Found) (k : Int) :
    (∃ capture, entryAt? f.spans k = some capture ∧
        (capture.start < 0 ∨ (f.stop : Int) < capture.stop)) ↔
      ∃ region, entryAt? f.taken k = some region ∧
        (region = none ∨ ∃ places, region = some places ∧ f.stop < places.2) := by
  rw [spans_eq_map_taken, entryAt?_map]
  cases entryAt? f.taken k with
  | none => simp
  | some region => simp [Span.ofRegion_faulty_iff]

/-- The match of a pattern is rejected for its spans exactly if it ends at the start of the text, or the
group that the rule captures, the last one that took part unless the rule names another, took no part
or ends behind the whole match. A negative capture names a group that is left, counted from the end. -/
theorem violates_iff {text : Text} (hf : f.Within text.length) (r : Rule) (rules : RuleSet) :
    (∃ v, Match.prepare ⟨r, f.spans⟩ text rules = .error (.contract v)) ↔
      f.stop = 0 ∨
      (r.capture = none ∧ ∃ places, f.lastRegion? = some places ∧ f.stop < places.2) ∨
      (∃ k : Nat, r.capture = some (k : Int) ∧ (f.groups.length < k ∨ f.regions[k]? = some none ∨
        ∃ places, f.regions[k]? = some (some places) ∧ f.stop < places.2)) ∨
      ∃ k, r.capture = some k ∧ k < 0 ∧ ∃ region, entryAt? f.taken k = some region ∧
        (region = none ∨ ∃ places, region = some places ∧ f.stop < places.2) := by
  rw [Match.prepare_violates_iff f.spans_head?, faulty_iff hf]
  refine or_congr_right ?_
  cases hcapture : r.capture with
  | none =>
    obtain ⟨places, hplaces⟩ := f.getLast?_taken
    rw [Match.selected?_of_none hcapture, spans_eq_map_taken, List.getLast?_map, hplaces,
      lastRegion?_eq hplaces]
    simp [Span.ofRegion_faulty_iff]
  | some k =>
    rw [Match.selected?_of_some hcapture]
    simp only [reduceCtorEq, false_and, false_or, Option.some.injEq, exists_eq_left']
    rcases Int.lt_or_le k 0 with hneg | hnonneg
    · have hnot (n : Nat) : k ≠ n := by omega
      have hnear : ¬ (f.spans.length : Int) ≤ k := by omega
      simp [hnear, hnot, hneg, f.faulty_counted_iff k]
    · obtain ⟨n, rfl⟩ := Int.eq_ofNat_of_zero_le hnonneg
      have hforward : ¬ (n : Int) < 0 := by omega
      simp only [hforward, false_and, or_false, Int.natCast_inj, exists_eq_left']
      exact f.faulty_group_iff n

/-- A search whose regions lie in the text gives the spans of its groups, each under the number of the
group, and leaves out only groups at the end that took no part. The spans are rejected exactly if the
match ends at the start of the text, or the captured group took no part or ends behind the match. The
groups are numbered from zero on, and a negative capture counts back those that are left. -/
theorem spans_and_violations {f : Found} {text : Text} (hf : f.Within text.length) (r : Rule)
    (rules : RuleSet) :
    (∀ p : Pattern, p.search text = some f →
      (Matcher.pattern p).spans text = .ok (some f.spans) ∧ f.groups.length = p.groups) ∧
    (∃ taken places n, f.regions = taken ++ List.replicate n none ∧
      f.spans = taken.map Span.ofRegion ∧ taken.getLast? = some (some places)) ∧
    ((∃ v, Match.prepare ⟨r, f.spans⟩ text rules = .error (.contract v)) ↔
      f.stop = 0 ∨
      (r.capture = none ∧ ∃ places, f.lastRegion? = some places ∧ f.stop < places.2) ∨
      (∃ k : Nat, r.capture = some (k : Int) ∧ (f.groups.length < k ∨ f.regions[k]? = some none ∨
        ∃ places, f.regions[k]? = some (some places) ∧ f.stop < places.2)) ∨
      ∃ k, r.capture = some k ∧ k < 0 ∧ ∃ region, entryAt? f.taken k = some region ∧
        (region = none ∨ ∃ places, region = some places ∧ f.stop < places.2)) := by
  refine ⟨fun p hp => ⟨?_, ?_⟩, ?_, violates_iff hf r rules⟩
  · rw [Matcher.spans, hp]
    rfl
  · exact search_groups_length hp
  · obtain ⟨n, hn⟩ := f.regions_eq_taken_append
    obtain ⟨places, hplaces⟩ := f.getLast?_taken
    exact ⟨f.taken, places, n, hn, f.spans_eq_map_taken, hplaces⟩

/-- A match of `d` with a look at the `e` behind it, between two groups that may take no part. -/
def lookingAhead : Found := ⟨0, 1, [none, some (1, 2), none]⟩

/-- The last group that took part ends behind the match, the whole match does not. -/
theorem spans_and_violations_lookingAhead :
    lookingAhead.Within ['d', 'e'].length ∧
    ∃ p, Pattern.compile "(x)?d(?=(e))(y)?" .none = .ok p ∧ p.search ['d', 'e'] = some lookingAhead ∧
      (Matcher.pattern p).spans ['d', 'e'] = .ok (some [.of 0 1, .absent, .of 1 1]) ∧
      (∃ v, Match.prepare ⟨{ name := "d", matcher := .pattern p }, lookingAhead.spans⟩ ['d', 'e'] [] =
        .error (.contract v)) ∧
      ¬ ∃ v, Match.prepare ⟨{ name := "d", matcher := .pattern p, capture := some 0 },
        lookingAhead.spans⟩ ['d', 'e'] [] = .error (.contract v) := by
  have hsearch : (Pattern.compile "(x)?d(?=(e))(y)?" .none).toOption.bind (·.search ['d', 'e']) =
      some lookingAhead := by decide +kernel
  obtain ⟨p, hp, hfound⟩ := Option.bind_eq_some_iff.mp hsearch
  have hcompile : Pattern.compile "(x)?d(?=(e))(y)?" .none = .ok p := by
    cases hc : Pattern.compile "(x)?d(?=(e))(y)?" .none with
    | ok q =>
      rw [hc] at hp
      cases hp
      rfl
    | error e =>
      rw [hc] at hp
      cases hp
  have hwithin : lookingAhead.Within ['d', 'e'].length := Pattern.search_within hfound
  have hnone := spans_and_violations hwithin { name := "d", matcher := .pattern p } []
  have hzero := spans_and_violations hwithin { name := "d", matcher := .pattern p, capture := some 0 } []
  refine ⟨hwithin, p, hcompile, hfound, (hnone.1 p hfound).1, hnone.2.2.mpr ?_, ?_⟩
  · exact Or.inr (Or.inl ⟨rfl, (1, 2), rfl, by decide⟩)
  · rw [hzero.2.2]
    rintro (hstop | ⟨hcapture, _⟩ | ⟨k, hk, hgroup⟩ | ⟨k, hk, hneg, _⟩)
    · cases hstop
    · cases hcapture
    · obtain rfl : k = 0 := Int.natCast_eq_zero.mp (Option.some.inj hk).symm
      simp [lookingAhead, regions] at hgroup
    · cases hk
      omega

end Pattern.Found

end RuleTree
