import RuleTree.Proofs.Parse.MachineRun

/-!
# The recursive meaning of a parse

`Drive` says what a text parses into by recursion on its nesting, with no stack and no positions.
The machine halts with an outcome exactly when that is the outcome of `Drive`, whatever the rules do;
in particular the one has no outcome where the other has none. Nothing here says that there is one.
-/

namespace RuleTree

/-- `Drive limit depth rules pending rest out`: with `depth` matches open around it, `rest` comes out
as `out` under `rules`, where `pending` is the literal run that leads up to it. -/
inductive Drive (limit : Option Int) : Nat → RuleSet → Text → Text → Parse (List Node) → Prop
  | done {depth : Nat} {rules : RuleSet} {pending : Text} :
      Drive limit depth rules pending [] (.ok (Node.ofRun pending))
  | literal {depth : Nat} {rules : RuleSet} {pending rest : Text} {ch : Char}
      {out : Parse (List Node)} :
      rules.Silent (ch :: rest) →
      Drive limit depth rules (pending ++ [ch]) rest out →
      Drive limit depth rules pending (ch :: rest) out
  | failed {depth : Nat} {rules : RuleSet} {pending rest : Text} {r : Rule} {e : ParseError} :
      rest ≠ [] → rules.Answers rest r → r.matcher.spans rest = .error e →
      Drive limit depth rules pending rest (.error e)
  | rejected {depth : Nat} {rules : RuleSet} {pending rest : Text} {r : Rule} {spans : List Span}
      {e : ParseError} :
      rest ≠ [] → rules.Answers rest r → r.matcher.spans rest = .ok (some spans) →
      Match.prepare ⟨r, spans⟩ rest rules = .error e →
      Drive limit depth rules pending rest (.error e)
  -- The captured text is not looked at, so neither depth nor child rules matter.
  | ignored {depth : Nat} {rules : RuleSet} {pending rest : Text} {c : Construction}
      {out : Parse (List Node)} :
      rules.Accepts rest c → c.found.rule.ignore = true →
      Drive limit depth rules [] c.nextText out →
      Drive limit depth rules pending rest ((Node.ofRun pending ++ ·) <$> out)
  | tooDeep {depth : Nat} {rules : RuleSet} {pending rest : Text} {c : Construction} {most : Int} :
      rules.Accepts rest c → c.found.rule.ignore = false →
      limit = some most → most < (depth : Int) + 1 →
      Drive limit depth rules pending rest (.error (.tooDeep c.found.rule.name most))
  -- The captured text fails, or an option fails on the nodes that it has become.
  | broken {depth : Nat} {rules : RuleSet} {pending rest : Text} {c : Construction}
      {inner : Parse (List Node)} {e : ParseError} :
      rules.Accepts rest c → c.found.rule.ignore = false → Permits limit (depth + 1) →
      Drive limit (depth + 1) (c.found.rule.childRules rules) [] c.payload inner →
      inner >>= c.shape = .error e →
      Drive limit depth rules pending rest (.error e)
  | nested {depth : Nat} {rules : RuleSet} {pending rest : Text} {c : Construction}
      {inner out : Parse (List Node)} {s : Shaped} :
      rules.Accepts rest c → c.found.rule.ignore = false → Permits limit (depth + 1) →
      Drive limit (depth + 1) (c.found.rule.childRules rules) [] c.payload inner →
      inner >>= c.shape = .ok s →
      Drive limit depth rules [] c.nextText out →
      Drive limit depth rules pending rest ((Node.ofRun pending ++ s.nodes ++ ·) <$> out)

namespace Drive

variable {limit : Option Int} {depth : Nat} {rules : RuleSet} {pending rest : Text}
  {out : Parse (List Node)}

/-- Without rules, the whole text joins the run. -/
theorem of_no_rules (h : Drive limit depth [] pending rest out) :
    out = .ok (Node.ofRun (pending ++ rest)) := by
  generalize hr : ([] : RuleSet) = rules at h
  induction h with
  | done => rw [List.append_nil]
  | literal _ _ ih => rw [ih hr, List.append_assoc, List.singleton_append]
  | failed _ ha _ => subst hr; exact absurd ha.mem List.not_mem_nil
  | rejected _ ha _ _ => subst hr; exact absurd ha.mem List.not_mem_nil
  | ignored ha _ _ _ => subst hr; exact absurd ha.answers.mem List.not_mem_nil
  | tooDeep ha _ _ _ => subst hr; exact absurd ha.answers.mem List.not_mem_nil
  | broken ha _ _ _ _ _ => subst hr; exact absurd ha.answers.mem List.not_mem_nil
  | nested ha _ _ _ _ _ _ _ => subst hr; exact absurd ha.answers.mem List.not_mem_nil

theorem no_rules (limit : Option Int) (depth : Nat) (pending rest : Text) :
    Drive limit depth [] pending rest (.ok (Node.ofRun (pending ++ rest))) := by
  induction rest generalizing pending with
  | nil => rw [List.append_nil]; exact .done
  | cons ch rest ih =>
    rw [← List.singleton_append, ← List.append_assoc]
    exact .literal (RuleSet.Silent.nil _) (ih _)

end Drive

/-- The machine works off the frame `f`: it fails, or it exhausts the frame with the frames below as
they were and the given nodes added. -/
def Delivers (limit : Option Int) (f : Frame) (below : List Frame) : Parse (List Node) → Prop
  | .error e => Machine.Halts limit ⟨f, below⟩ (.error e)
  | .ok nodes => ∃ g, Machine.Reaches limit ⟨f, below⟩ ⟨g, below⟩ ∧ g.exhausted = true ∧
      g.construction = f.construction ∧ g.closeLiteral.nodes = f.nodes ++ nodes

namespace Delivers

variable {limit : Option Int} {f g : Frame} {below : List Frame} {out : Parse (List Node)}

theorem of_reaches {front : List Node} (hr : Machine.Reaches limit ⟨f, below⟩ ⟨g, below⟩)
    (hc : g.construction = f.construction) (hn : g.nodes = f.nodes ++ front)
    (h : Delivers limit g below out) : Delivers limit f below ((front ++ ·) <$> out) := by
  cases out with
  | error e => exact hr.halts_iff.mpr h
  | ok nodes =>
    obtain ⟨last, hlast, hx, hcl, hnl⟩ := h
    refine ⟨last, hr.trans hlast, hx, hcl.trans hc, ?_⟩
    rw [hnl, hn, List.append_assoc]

/-- A frame that takes literal text adds nothing yet. -/
theorem of_literal (hn : Machine.Next limit ⟨f, below⟩ ⟨g, below⟩)
    (hc : g.construction = f.construction) (hg : g.nodes = f.nodes)
    (h : Delivers limit g below out) : Delivers limit f below out := by
  cases out with
  | error e => exact hn.halts_iff.mpr h
  | ok nodes =>
    obtain ⟨last, hlast, hx, hcl, hnl⟩ := h
    exact ⟨last, .head hn hlast, hx, hcl.trans hc, hg ▸ hnl⟩

theorem of_error {e : ParseError} (h : Machine.step limit ⟨f, below⟩ = .error e) :
    Delivers limit f below (.error e) :=
  Machine.halts_of_error h

/-- The frame of a construction, laid over `g`, hands over what its own nodes are shaped into. -/
theorem child_shaped {c : Construction} {inner : Parse (List Node)} {s : Shaped}
    (h : Delivers limit (.ofConstruction c) (g :: below) inner) (hs : inner >>= c.shape = .ok s) :
    Machine.Reaches limit ⟨.ofConstruction c, g :: below⟩ ⟨g.add s, below⟩ := by
  obtain ⟨children, rfl, hs⟩ := bind_eq_ok.mp hs
  obtain ⟨last, hr, hx, hc, hnodes⟩ := h
  refine hr.tail (Machine.step_pop hx hc ?_)
  rw [hnodes]
  exact hs

theorem child_broken {c : Construction} {inner : Parse (List Node)} {e : ParseError}
    (h : Delivers limit (.ofConstruction c) (g :: below) inner)
    (hs : inner >>= c.shape = .error e) :
    Machine.Halts limit ⟨.ofConstruction c, g :: below⟩ (.error e) := by
  cases inner with
  | error e' =>
    cases hs
    exact h
  | ok children =>
    obtain ⟨last, hr, hx, hc, hnodes⟩ := h
    refine hr.halts_iff.mpr (Machine.halts_of_error (Machine.step_unshaped hx hc ?_))
    rw [hnodes]
    exact hs

end Delivers

namespace Drive

variable {limit : Option Int} {depth : Nat} {rules : RuleSet} {pending rest : Text}
  {out : Parse (List Node)}

/-- The machine does what the recursion says, on any stack of the right height. -/
theorem delivers (h : Drive limit depth rules pending rest out) :
    ∀ (f : Frame) (below : List Frame), f.Sound → below.length = depth → f.rules = rules →
      f.pending = pending → f.remaining = rest → Delivers limit f below out := by
  induction h with
  | done =>
    intro f below hf _ _ hp hrest
    refine ⟨f, .refl, hf.exhausted_iff.mpr hrest, rfl, ?_⟩
    rw [hf.closeLiteral_nodes, hp]
  | @literal depth rules pending rest ch out hs hd ih =>
    intro f below hf hb hr hp hrest
    have hne : f.remaining ≠ [] := by rw [hrest]; exact List.cons_ne_nil ch rest
    have hx := hf.exhausted_eq_false hne
    by_cases hnil : rules = []
    · -- The frame takes all of the text at once, where the recursion goes character by character.
      subst hnil
      obtain ⟨hg, hpend, hrem⟩ := hf.takeLiteral_all hne
      refine .of_literal (Machine.step_within hx (Frame.step_of_no_rules hr)) rfl rfl ?_
      rw [hd.of_no_rules, List.append_assoc, List.singleton_append]
      refine ⟨_, .refl, hg.exhausted_iff.mpr hrem, rfl, ?_⟩
      rw [hg.closeLiteral_nodes, hpend, hp, hrest]
    · obtain ⟨hg, hpend, hrem⟩ := hf.takeLiteral_one hrest
      have hstep := Frame.step_of_silent (by rwa [hr]) (by rwa [hr, hrest])
      exact .of_literal (Machine.step_within hx hstep) rfl rfl
        (ih (f.takeLiteral 1) below hg hb hr (by rw [hpend, hp]) hrem)
  | failed hne ha hm =>
    intro f below hf _ hr _ hrest
    subst hr hrest
    exact .of_error (Machine.step_error (hf.exhausted_eq_false hne) (Frame.step_of_failing ha hm))
  | rejected hne ha hm hp =>
    intro f below hf _ hr _ hrest
    subst hr hrest
    exact .of_error (Machine.step_error (hf.exhausted_eq_false hne)
      (Frame.step_of_rejected ha hm hp))
  | @ignored depth rules pending rest c out ha hi _ ih =>
    intro f below hf hb hr hp hrest
    subst hr hrest hp
    have hn : Machine.Next limit ⟨f, below⟩ ⟨f.behind c, below⟩ :=
      Machine.step_within (hf.exhausted_eq_false ha.text_ne_nil) (Frame.step_of_ignored ha hi)
    refine .of_reaches (.single hn) (f.behind_construction c) (hf.behind_nodes c) ?_
    exact ih (f.behind c) below (hf.behind ha.nextText_suffix) hb (f.behind_rules c)
      (f.behind_pending c) (hf.behind_remaining ha.nextText_suffix)
  | tooDeep ha hi hl hlt =>
    intro f below hf hb hr _ hrest
    subst hr hrest hl hb
    exact .of_error (Machine.step_tooDeep (hf.exhausted_eq_false ha.text_ne_nil)
      (Frame.step_of_opened ha hi) hlt)
  | @broken depth rules pending rest c inner e ha hi hl _ hs ih =>
    intro f below hf hb hr _ hrest
    subst hr hrest hb
    have hn := Machine.step_push (hf.exhausted_eq_false ha.text_ne_nil)
      (Frame.step_of_opened ha hi) hl
    have hchild := ih (.ofConstruction c) (f.behind c :: below) (Frame.sound_ofConstruction c) rfl
      ha.childRules_eq rfl (Frame.ofConstruction_remaining c)
    exact hn.halts_iff.mpr (Delivers.child_broken hchild hs)
  | @nested depth rules pending rest c inner out s ha hi hl _ hs _ ih ihrest =>
    intro f below hf hb hr hp hrest
    subst hr hrest hb hp
    have hn := Machine.step_push (hf.exhausted_eq_false ha.text_ne_nil)
      (Frame.step_of_opened ha hi) hl
    have hchild := ih (.ofConstruction c) (f.behind c :: below) (Frame.sound_ofConstruction c) rfl
      ha.childRules_eq rfl (Frame.ofConstruction_remaining c)
    refine .of_reaches (.head hn (Delivers.child_shaped hchild hs)) (f.behind_construction c) ?_
      (ihrest _ below ((hf.behind ha.nextText_suffix).add s) rfl (f.behind_rules c)
        (f.behind_pending c) (hf.behind_remaining ha.nextText_suffix))
    rw [Frame.add_nodes, hf.behind_nodes, List.append_assoc]

/-- The step of `exists_of_run` over an accepted match. -/
theorem exists_of_accepted {steps : Nat}
    (ih : ∀ fewer < steps + 1, ∀ (f : Frame) (below : List Frame) (final : Parse (List Node)),
      f.Sound → Machine.run limit fewer ⟨f, below⟩ = some final →
      ∃ out, Drive limit below.length f.rules f.pending f.remaining out)
    {f : Frame} {below : List Frame} {final : Parse (List Node)} (hf : f.Sound) {c : Construction}
    (ha : f.rules.Accepts f.remaining c)
    (hrun : Machine.run limit (steps + 1) ⟨f, below⟩ = some final) :
    ∃ out, Drive limit below.length f.rules f.pending f.remaining out := by
  have hx := hf.exhausted_eq_false ha.text_ne_nil
  have hg := hf.behind ha.nextText_suffix
  have hrem := hf.behind_remaining ha.nextText_suffix
  cases hi : c.found.rule.ignore with
  | true =>
    have hn : Machine.Next limit ⟨f, below⟩ ⟨f.behind c, below⟩ :=
      Machine.step_within hx (Frame.step_of_ignored ha hi)
    rw [hn.run_succ] at hrun
    obtain ⟨out, hd⟩ := ih steps (Nat.lt_succ_self steps) _ below final hg hrun
    rw [f.behind_rules, f.behind_pending, hrem] at hd
    exact ⟨_, .ignored ha hi hd⟩
  | false =>
    have hstep := Frame.step_of_opened ha hi
    rcases permits_or_exceeded limit (below.length + 1) with hl | ⟨most, hmost, hlt⟩
    · have hn := Machine.step_push hx hstep hl
      rw [hn.run_succ] at hrun
      obtain ⟨inner, hd⟩ := ih steps (Nat.lt_succ_self steps) _ _ final
        (Frame.sound_ofConstruction c) hrun
      have hchild := hd.delivers _ _ (Frame.sound_ofConstruction c) rfl rfl rfl rfl
      change Drive limit (below.length + 1) c.childRules [] _ inner at hd
      rw [ha.childRules_eq, Frame.ofConstruction_remaining] at hd
      cases hs : inner >>= c.shape with
      | error e => exact ⟨_, .broken ha hi hl hd hs⟩
      | ok s =>
        obtain ⟨fewer, hle, hrun⟩ := (Delivers.child_shaped hchild hs).run_le hrun
        obtain ⟨out, hd'⟩ := ih fewer (by omega) _ below final (hg.add s) hrun
        rw [Frame.add_rules, Frame.add_pending, Frame.add_remaining, f.behind_rules,
          f.behind_pending, hrem] at hd'
        exact ⟨_, .nested ha hi hl hd hs hd'⟩
    · exact ⟨_, .tooDeep ha hi hmost (by omega)⟩

/-- Where the machine halts, the recursion has an outcome. The run is cut where the frame of a nested
match has been worked off: what is left of it is shorter. -/
theorem exists_of_run (steps : Nat) :
    ∀ (f : Frame) (below : List Frame) (final : Parse (List Node)), f.Sound →
      Machine.run limit steps ⟨f, below⟩ = some final →
      ∃ out, Drive limit below.length f.rules f.pending f.remaining out := by
  induction steps using Nat.strongRecOn with
  | ind steps ih =>
    intro f below final hf hrun
    by_cases hnil : f.rules = []
    · rw [hnil]
      exact ⟨_, no_rules limit _ _ _⟩
    cases hrest : f.remaining with
    | nil => exact ⟨_, .done⟩
    | cons ch rest =>
      have hne : f.remaining ≠ [] := by rw [hrest]; exact List.cons_ne_nil ch rest
      have hx := hf.exhausted_eq_false hne
      obtain ⟨steps, rfl⟩ : ∃ fewer, steps = fewer + 1 := by
        cases steps with
        | zero => cases hrun
        | succ fewer => exact ⟨fewer, rfl⟩
      rw [← hrest]
      rcases f.rules.answer_cases f.remaining with hs | ⟨r, spans, ha, hm⟩ | ⟨r, e, ha, hm⟩
      · obtain ⟨hg, hpend, hrem⟩ := hf.takeLiteral_one hrest
        have hn : Machine.Next limit ⟨f, below⟩ ⟨f.takeLiteral 1, below⟩ :=
          Machine.step_within hx (Frame.step_of_silent hnil hs)
        rw [hn.run_succ] at hrun
        obtain ⟨out, hd⟩ := ih steps (Nat.lt_succ_self steps) _ below final hg hrun
        rw [hpend, hrem] at hd
        rw [hrest] at hs ⊢
        exact ⟨out, .literal hs hd⟩
      · cases hp : Match.prepare ⟨r, spans⟩ f.remaining f.rules with
        | error e => exact ⟨_, .rejected hne ha hm hp⟩
        | ok c => exact exists_of_accepted ih hf (.of_prepare ha hm hp) hrun
      · exact ⟨_, .failed hne ha hm⟩

end Drive

theorem Machine.start_halts_of_drive {limit : Option Int} {text : Text} {rules : RuleSet}
    {out : Parse (List Node)} (h : Drive limit 0 rules [] text out) :
    (Machine.start text rules).Halts limit out := by
  have hd := h.delivers { text := text, rules := rules } [] (Frame.sound_fresh _ _ _) rfl rfl rfl
    (Frame.remaining_fresh _ _ _)
  cases out with
  | error e => exact hd
  | ok nodes =>
    obtain ⟨last, hr, hx, _, hnodes⟩ := hd
    rw [List.nil_append] at hnodes
    exact hr.halts_iff.mpr (halts_of_finished (hnodes ▸ step_finished hx))

theorem Machine.drive_of_start_halts {limit : Option Int} {text : Text} {rules : RuleSet}
    {out : Parse (List Node)} (h : (Machine.start text rules).Halts limit out) :
    Drive limit 0 rules [] text out := by
  obtain ⟨steps, hrun⟩ := h
  obtain ⟨out', hd⟩ := Drive.exists_of_run steps _ _ out (Frame.sound_fresh _ _ _) hrun
  change Drive limit 0 rules [] _ out' at hd
  rw [Frame.remaining_fresh] at hd
  obtain rfl := Halts.unique ⟨steps, hrun⟩ (start_halts_of_drive hd)
  exact hd

/-- The loop over the stack of frames computes exactly the recursive meaning: it halts with a list of
nodes, or with an error, if and only if the recursion comes to that same list or error. -/
theorem parse_eq_some_iff_drive (limit : Option Int) (text : Text) (rules : RuleSet)
    (out : Parse (List Node)) :
    (∃ steps, parse steps limit text rules = some out) ↔ Drive limit 0 rules [] text out := by
  constructor
  · exact Machine.drive_of_start_halts
  · exact Machine.start_halts_of_drive

end RuleTree
