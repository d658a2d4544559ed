import RuleTree.Proofs.Node.Contents
import RuleTree.Proofs.Parse.Applicability
import RuleTree.Proofs.Parse.Drive
import RuleTree.Proofs.Rule.Occurrence

/-!
# Ways to fail

Static rules call no supplied function: they find their matches with patterns, and a pattern only reports
regions of the text that it searches. Nor do they count spans from the end. So a parse under such rules
fails in five ways at most, and each error names a rule that occurs. Whether a parse fails at all is not
said, nor whether it halts.
-/

namespace RuleTree

/-! ## Regions that a search reports -/

namespace Pattern

theorem clip_eq_some {size : Nat} {r s : Nat × Nat} (h : clip size r = some s) :
    s.1 ≤ s.2 ∧ s.2 ≤ size := by
  unfold clip at h
  split at h
  · next hr =>
    cases h
    exact hr
  · cases h

/-- All regions of a search result lie within a text of `size` characters. -/
structure Found.Within (f : Found) (size : Nat) : Prop where
  whole : f.start ≤ f.stop ∧ f.stop ≤ size
  group : ∀ r, some r ∈ f.groups → r.1 ≤ r.2 ∧ r.2 ≤ size

theorem found?_within {p : Pattern} {size start : Nat} {c : Cursor} {f : Found}
    (h : p.found? size start c = some f) : f.Within size := by
  obtain ⟨whole, hwhole, rfl⟩ := Option.map_eq_some_iff.mp h
  refine ⟨clip_eq_some hwhole, ?_⟩
  intro r hr
  obtain ⟨g, _, hg⟩ := List.mem_map.mp hr
  obtain ⟨region, _, hclip⟩ := Option.bind_eq_some_iff.mp hg
  exact clip_eq_some hclip

theorem exists_found?_of_searchFrom {p : Pattern} {s : Array Char} {f : Found} (fuel : Nat) :
    ∀ start, p.searchFrom s fuel start = some f → ∃ place c, p.found? s.size place c = some f := by
  have hat : ∀ start, p.matchAt s start = some f → ∃ place c, p.found? s.size place c = some f := by
    intro start h
    obtain ⟨c, _, hfound⟩ := Option.bind_eq_some_iff.mp h
    exact ⟨start, c, hfound⟩
  induction fuel with
  | zero => exact hat
  | succ fuel ih =>
    intro start h
    rw [searchFrom] at h
    split at h
    · next found hm =>
      cases h
      exact hat start hm
    · exact ih (start + 1) h

/-- A search reports the cursor that it ends with. -/
theorem exists_found?_of_search {p : Pattern} {t : Text} {f : Found} (h : p.search t = some f) :
    ∃ place c, p.found? t.length place c = some f := by
  have hfound := exists_found?_of_searchFrom _ _ h
  rwa [List.size_toArray] at hfound

/-- Whatever the pattern, a search reports only regions of the text. -/
theorem search_within {p : Pattern} {t : Text} {f : Found} (h : p.search t = some f) :
    f.Within t.length := by
  obtain ⟨place, c, hfound⟩ := exists_found?_of_search h
  exact found?_within hfound

end Pattern

/-! ## Static rules -/

/-- Neither matcher nor formatter nor option of the rule is a supplied function, and the captured span is
counted from the first one on. -/
structure Rule.Static (r : Rule) : Prop where
  matcher : ∃ p, r.matcher = .pattern p
  formatter : ∀ f, r.formatter ≠ some (.function f)
  option : ∀ f, r.option ≠ some (.function f)
  capture : ∀ k, r.capture = some k → 0 ≤ k

/-- The errors that are left if all rules are static. Each is about a rule that occurs. -/
inductive ParseError.Foreseen (limit : Option Int) (rules : RuleSet) : ParseError → Prop
  | tooDeep {r : Rule} {most : Int} : RuleSet.Occurs r rules → limit = some most →
      Foreseen limit rules (.tooDeep r.name most)
  | nothingConsumed {r : Rule} : RuleSet.Occurs r rules →
      Foreseen limit rules (.contract (.nothingConsumed r.name))
  | captureBeyondSpans {r : Rule} {k : Int} {count : Nat} : RuleSet.Occurs r rules →
      r.capture = some k → count ≤ k →
      Foreseen limit rules (.contract (.captureBeyondSpans r.name k count))
  | captureAbsent {r : Rule} : RuleSet.Occurs r rules →
      Foreseen limit rules (.contract (.captureAbsent r.name))
  | captureBeyondMatch {r : Rule} {span : Span} {stop : Int} : RuleSet.Occurs r rules →
      stop < span.stop → Foreseen limit rules (.contract (.captureBeyondMatch r.name span stop))

namespace ParseError.Foreseen

variable {limit : Option Int} {rules others : RuleSet} {e : ParseError}

theorem mono (h : Foreseen limit rules e)
    (hocc : ∀ r, RuleSet.Occurs r rules → RuleSet.Occurs r others) : Foreseen limit others e := by
  cases h with
  | tooDeep hr hl => exact .tooDeep (hocc _ hr) hl
  | nothingConsumed hr => exact .nothingConsumed (hocc _ hr)
  | captureBeyondSpans hr hk hle => exact .captureBeyondSpans (hocc _ hr) hk hle
  | captureAbsent hr => exact .captureAbsent (hocc _ hr)
  | captureBeyondMatch hr hlt => exact .captureBeyondMatch (hocc _ hr) hlt

end ParseError.Foreseen

namespace Rule.Static

variable {r : Rule}

theorem spans_ne_error (h : r.Static) (t : Text) (e : ParseError) :
    r.matcher.spans t ≠ .error e := by
  obtain ⟨p, hp⟩ := h.matcher
  rw [hp]
  simp [Matcher.spans, pure, Except.pure]

/-- The first span of a match is a region of the text. -/
theorem spans_first_within (h : r.Static) {t : Text} {spans : List Span}
    (hm : r.matcher.spans t = .ok (some spans)) :
    ∃ entire others, spans = entire :: others ∧ 0 ≤ entire.start ∧ entire.stop ≤ t.length := by
  obtain ⟨p, hp⟩ := h.matcher
  rw [hp, Matcher.spans, pure_eq_ok, Option.map_eq_some_iff] at hm
  obtain ⟨f, hf, rfl⟩ := hm
  have hw := (Pattern.search_within hf).whole
  obtain ⟨others, ho⟩ := f.spans_eq_cons
  refine ⟨_, others, ho, ?_, ?_⟩
  · rw [Span.ofRegion, Span.start_of]
    omega
  · rw [Span.ofRegion, Span.stop_of]
    omega

theorem format_ok (h : r.Static) (t : Text) :
    ∃ payload, Formatter.format r.formatter t = .ok payload := by
  cases hf : r.formatter with
  | none => exact ⟨t, rfl⟩
  | some f =>
    cases f with
    | literal s => exact ⟨s, rfl⟩
    | function f => exact absurd hf (h.formatter f)

theorem shape_ok {c : Construction} (h : c.found.rule.Static) (children : List Node) :
    ∃ s, c.shape children = .ok s := by
  cases hs : c.found.rule.skip with
  | true => exact ⟨_, Construction.shape_of_skip hs children⟩
  | false =>
    cases ho : c.found.rule.option with
    | none => exact ⟨_, Construction.shape_of_branch hs ho children⟩
    | some o =>
      rw [Construction.shape_of_tagged hs ho]
      cases o with
      | literal v => exact ⟨_, rfl⟩
      | function f => exact absurd ho (h.option f)

/-- A capture that counts forward does not get in front of the first span. -/
theorem not_strays {m : Match} (h : m.rule.Static) (text : Text) (entire : Span) :
    ¬ m.Strays text entire := by
  intro hstrays
  obtain ⟨k, hk, hlt⟩ := hstrays.counts
  have hnonneg := h.capture k hk
  omega

end Rule.Static

namespace Match

variable {m : Match} {text : Text} {e : ParseError}

/-- A match of a static rule is rejected in one of four ways. -/
theorem prepare_error {limit : Option Int} {rules others : RuleSet} (hstatic : m.rule.Static)
    (hr : RuleSet.Occurs m.rule others) (hm : m.rule.matcher.spans text = .ok (some m.spans))
    (h : m.prepare text rules = .error e) : ParseError.Foreseen limit others e := by
  obtain ⟨entire, _, hspans, hstart, hstop⟩ := hstatic.spans_first_within hm
  have hfirst : m.spans.head? = some entire := by rw [hspans, List.head?_cons]
  rcases bind_eq_error.mp h with hcut | ⟨⟨captured, stop⟩, _, h⟩
  · rcases cut_error hfirst hcut with ⟨_, rfl, hv⟩ | ⟨hstrays, _⟩
    · cases hv with
      | outsideInput hout => omega
      | nothingConsumed => exact .nothingConsumed hr
      | captureBeyondSpans hk hle => exact .captureBeyondSpans hr hk hle
      | captureAbsent => exact .captureAbsent hr
      | captureBeyondMatch _ hbeyond => exact .captureBeyondMatch hr hbeyond
    · exact absurd hstrays (hstatic.not_strays text entire)
  · obtain ⟨payload, hformat⟩ := hstatic.format_ok captured
    simp only [hformat] at h
    cases h

end Match

/-- A parse under static rules fails, if it does, in a foreseen way. -/
theorem Drive.error_foreseen {limit : Option Int} {depth : Nat} {rules : RuleSet}
    {pending rest : Text} {out : Parse (List Node)} (h : Drive limit depth rules pending rest out)
    (hrules : ∀ r, RuleSet.Occurs r rules → r.Static) :
    ∀ e, out = .error e → ParseError.Foreseen limit rules e := by
  induction h with
  | done => intro e he; cases he
  | literal _ _ ih => exact ih hrules
  | failed _ ha hm => exact absurd hm ((hrules _ (.member ha.mem)).spans_ne_error _ _)
  | rejected _ ha hm hp =>
    intro e he
    cases he
    have hocc : RuleSet.Occurs _ _ := .member ha.mem
    exact Match.prepare_error (hrules _ hocc) hocc hm hp
  | ignored _ _ _ ih => exact fun e he => ih hrules e (map_eq_error.mp he)
  | tooDeep ha _ hl _ =>
    intro e he
    cases he
    exact .tooDeep (.member ha.answers.mem) hl
  | broken ha _ _ _ hs ih =>
    intro e he
    cases he
    have hmem := ha.answers.mem
    have hchild := fun r (hr : RuleSet.Occurs r _) => hr.of_childRules hmem
    rcases bind_eq_error.mp hs with hin | ⟨children, _, hshape⟩
    · exact (ih (fun r hr => hrules r (hchild r hr)) _ hin).mono hchild
    · obtain ⟨s, hok⟩ := (hrules _ (.member hmem)).shape_ok children
      cases hshape.symm.trans hok
  | nested _ _ _ _ _ _ _ ihrest => exact fun e he => ihrest hrules e (map_eq_error.mp he)

end RuleTree
