import RuleTree.Proofs.Parse.Drive

/-!
# Nested regions

A match opens a region: its payload, to be parsed under its child rules one level deeper. The stack
of a running machine is a chain of regions, each opened from the one below. Hence the height of the
stack and the halting of the machine are both questions about how regions can be opened, and not
about the machine: within one region every step makes progress of its own.
-/

namespace RuleTree

/-- A text that is parsed as a whole, with so many matches open around it. -/
structure Region where
  depth : Nat
  rules : RuleSet
  text : Text

namespace Region

/-- Somewhere in the outer region a match is accepted that is not ignored and not too deep. -/
inductive Opens (limit : Option Int) (outer : Region) : Region → Prop
  | intro {rest : Text} {c : Construction} :
      rest <:+ outer.text → outer.rules.Accepts rest c → c.found.rule.ignore = false →
      Permits limit (outer.depth + 1) →
      Opens limit outer ⟨outer.depth + 1, c.childRules, c.payload⟩

variable {limit : Option Int} {outer inner : Region}

theorem Opens.depth_eq (h : Opens limit outer inner) : inner.depth = outer.depth + 1 := by
  cases h with
  | intro => rfl

theorem Opens.permits (h : Opens limit outer inner) : Permits limit inner.depth := by
  cases h with
  | intro _ _ _ hl => exact hl

/-- A region comes to an outcome if all regions that it opens do. The induction is on the text that
remains: a literal character or a match always shortens it. -/
theorem drive_of_inner {depth : Nat} {rules : RuleSet} {text : Text}
    (hin : ∀ inner, Opens limit ⟨depth, rules, text⟩ inner →
      ∃ out, Drive limit inner.depth inner.rules [] inner.text out) (size : Nat) :
    ∀ rest pending : Text, rest.length ≤ size → rest <:+ text →
      ∃ out, Drive limit depth rules pending rest out := by
  induction size with
  | zero =>
    intro rest pending hle _
    rw [List.eq_nil_of_length_eq_zero (Nat.le_zero.mp hle)]
    exact ⟨_, .done⟩
  | succ size ih =>
    intro rest pending hle hsuffix
    cases rest with
    | nil => exact ⟨_, .done⟩
    | cons ch rest =>
      have hne := List.cons_ne_nil ch rest
      rcases rules.answer_cases (ch :: rest) with hs | ⟨r, spans, ha, hm⟩ | ⟨r, e, ha, hm⟩
      · obtain ⟨out, hd⟩ := ih rest (pending ++ [ch]) (Nat.le_of_succ_le_succ hle)
          ((List.suffix_cons ch rest).trans hsuffix)
        exact ⟨out, .literal hs hd⟩
      · cases hp : Match.prepare ⟨r, spans⟩ (ch :: rest) rules with
        | error e => exact ⟨_, .rejected hne ha hm hp⟩
        | ok c =>
          have hc := RuleSet.Accepts.of_prepare ha hm hp
          have hlt := hc.nextText_length_lt
          obtain ⟨out, hd⟩ := ih c.nextText [] (by omega) (hc.nextText_suffix.trans hsuffix)
          cases hi : c.found.rule.ignore with
          | true => exact ⟨_, .ignored hc hi hd⟩
          | false =>
            rcases permits_or_exceeded limit (depth + 1) with hl | ⟨most, hmost, hlt⟩
            · obtain ⟨inside, hinside⟩ := hin _ (.intro hsuffix hc hi hl)
              change Drive limit (depth + 1) c.childRules [] c.payload inside at hinside
              rw [hc.childRules_eq] at hinside
              cases hs : inside >>= c.shape with
              | error e => exact ⟨_, .broken hc hi hl hinside hs⟩
              | ok s => exact ⟨_, .nested hc hi hl hinside hs hd⟩
            · exact ⟨_, .tooDeep hc hi hmost (by omega)⟩
      · exact ⟨_, .failed hne ha hm⟩

/-- If regions cannot be opened one in another forever, the recursion comes to an outcome. -/
theorem drive_of_acc {region : Region}
    (h : Acc (fun inner outer => Opens limit outer inner) region) :
    ∃ out, Drive limit region.depth region.rules [] region.text out := by
  induction h with
  | intro region _ ih =>
    exact drive_of_inner ih region.text.length region.text [] (Nat.le_refl _)
      (List.suffix_refl region.text)

/-- A rank that every opening lowers, under a property that every opening keeps, bounds the nesting. -/
theorem acc_of_rank {α : Type} {lt : α → α → Prop} (hwf : WellFounded lt) (P : Region → Prop)
    (rank : Region → α)
    (hopen : ∀ outer inner, P outer → Opens limit outer inner →
      P inner ∧ lt (rank inner) (rank outer))
    {region : Region} (hregion : P region) :
    Acc (fun inner outer => Opens limit outer inner) region := by
  have hacc := hwf.apply (rank region)
  generalize hr : rank region = a at hacc
  induction hacc generalizing region with
  | intro a _ ih =>
    refine Acc.intro region fun inner hin => ?_
    obtain ⟨hp, hlt⟩ := hopen region inner hregion hin
    exact ih (rank inner) (hr ▸ hlt) hp rfl

/-- Down a chain of regions the depth grows no faster than such a rank falls. -/
theorem depth_add_rank_le (P : Region → Prop) (rank : Region → Nat)
    (hopen : ∀ outer inner, P outer → Opens limit outer inner →
      P inner ∧ rank inner < rank outer)
    (h : Relation.ReflTransGen (Opens limit) outer inner) (houter : P outer) :
    P inner ∧ inner.depth + rank inner ≤ outer.depth + rank outer := by
  induction h with
  | refl => exact ⟨houter, Nat.le_refl _⟩
  | tail _ ho ih =>
    obtain ⟨hp, hlt⟩ := hopen _ _ ih.1 ho
    have hd := ho.depth_eq
    exact ⟨hp, by omega⟩

end Region

/-- `child` lies on `parent` for a match that the parent has just consumed. -/
structure Frame.LiesOn (limit : Option Int) (depth : Nat) (child parent : Frame)
    (c : Construction) : Prop where
  construction : child.construction = some c
  text : child.text = c.payload
  rules : child.rules = c.childRules
  closed : parent.literalStart = none
  behind : parent.remaining = c.nextText
  opened : Region.Opens limit ⟨depth, parent.rules, parent.text⟩
    ⟨depth + 1, c.childRules, c.payload⟩

/-- The frames of a parse of `text` under `rules`: the first on top of the others. -/
inductive Stacked (limit : Option Int) (text : Text) (rules : RuleSet) : Frame → List Frame → Prop
  | bottom {f : Frame} : f.Sound → f.construction = none → f.text = text → f.rules = rules →
      Stacked limit text rules f []
  | above {f parent : Frame} {below : List Frame} {c : Construction} : f.Sound →
      f.LiesOn limit below.length parent c → Stacked limit text rules parent below →
      Stacked limit text rules f (parent :: below)

namespace Stacked

variable {limit : Option Int} {text : Text} {rules : RuleSet} {f g : Frame} {below : List Frame}

theorem sound (h : Stacked limit text rules f below) : f.Sound := by
  cases h with
  | bottom hf => exact hf
  | above hf => exact hf

theorem start (limit : Option Int) (text : Text) (rules : RuleSet) :
    Stacked limit text rules { text := text, rules := rules } [] :=
  .bottom (Frame.sound_fresh _ _ _) rfl rfl rfl

/-- The top frame may be exchanged for a sound one that was opened in the same way. -/
theorem exchange (h : Stacked limit text rules f below) (hg : g.Sound) (ht : g.text = f.text)
    (hr : g.rules = f.rules) (hc : g.construction = f.construction) :
    Stacked limit text rules g below := by
  cases h with
  | bottom hf hfc hft hfr => exact .bottom hg (hc.trans hfc) (ht.trans hft) (hr.trans hfr)
  | above hf hl hs =>
    exact .above hg ⟨hc.trans hl.construction, ht.trans hl.text, hr.trans hl.rules, hl.closed,
      hl.behind, hl.opened⟩ hs

theorem push {c : Construction} (h : Stacked limit text rules f below)
    (ha : f.rules.Accepts f.remaining c) (hi : c.found.rule.ignore = false)
    (hl : Permits limit (below.length + 1)) :
    Stacked limit text rules (.ofConstruction c) (f.behind c :: below) := by
  have hf := h.sound
  have hs : f.remaining <:+ f.text := by
    rw [hf.remaining_eq]
    exact List.drop_suffix _ _
  refine .above (Frame.sound_ofConstruction c) ⟨rfl, rfl, rfl, f.behind_literalStart c,
    hf.behind_remaining ha.nextText_suffix, ?_⟩ (h.exchange (hf.behind ha.nextText_suffix)
      (f.behind_text c) (f.behind_rules c) (f.behind_construction c))
  rw [f.behind_rules, f.behind_text]
  exact .intro hs ha hi hl

/-- One turn of the loop keeps the stack in order. -/
theorem next {m n : Machine} (h : Stacked limit text rules m.top m.below)
    (hn : Machine.Next limit m n) : Stacked limit text rules n.top n.below := by
  rcases hn.cases with ⟨_, parent, below, s, hb, rfl⟩ | ⟨hx, g, hg, rfl⟩ | ⟨hx, g, c, hg, hl, rfl⟩
  · rw [hb] at h
    cases h with
    | above _ _ hs => exact hs.exchange (hs.sound.add s) rfl rfl rfl
  · obtain ⟨hs, ht, hr, hc⟩ := h.sound.step hx hg
    exact h.exchange hs ht hr hc
  · obtain ⟨ha, hi, rfl⟩ := Frame.opens_of_step (h.sound.remaining_ne_nil hx) hg
    exact h.push ha hi hl

/-- Every machine that a parse comes to has its stack in order. -/
theorem of_reaches {m : Machine} (h : Machine.Reaches limit (Machine.start text rules) m) :
    Stacked limit text rules m.top m.below := by
  induction h with
  | refl => exact start limit text rules
  | tail _ hn ih => exact ih.next hn

/-- The region of the top frame was opened from that of the whole text, level by level. -/
theorem opened (h : Stacked limit text rules f below) :
    Relation.ReflTransGen (Region.Opens limit) ⟨0, rules, text⟩
      ⟨below.length, f.rules, f.text⟩ := by
  induction h with
  | bottom _ _ ht hr => rw [ht, hr]; exact .refl
  | above _ hl _ ih =>
    rw [hl.rules, hl.text]
    exact ih.tail hl.opened

end Stacked

namespace Machine

variable {limit : Option Int} {text : Text} {rules : RuleSet} {m n : Machine}

/-- On the way to `m` the match of `c` was found in what remained of the top frame, and accepted. -/
def Opened (limit : Option Int) (text : Text) (rules : RuleSet) (m : Machine) (c : Construction) :
    Prop :=
  ∃ k, Reaches limit (start text rules) k ∧ k.top.rules.Accepts k.top.remaining c ∧
    c.found.rule.ignore = false ∧ Reaches limit k m

theorem Opened.next {c : Construction} (h : Opened limit text rules m c) (hn : Next limit m n) :
    Opened limit text rules n c := by
  obtain ⟨k, hk, ha, hi, hkm⟩ := h
  exact ⟨k, hk, ha, hi, hkm.tail hn⟩

/-- Every frame but the outermost lies on the stack for a match that was accepted. -/
theorem Reaches.opened (h : Reaches limit (start text rules) m) :
    ∀ f ∈ m.frames, ∀ c, f.construction = some c → Opened limit text rules m c := by
  induction h with
  | refl =>
    intro f hf c hc
    obtain rfl := List.mem_singleton.mp hf
    cases hc
  | @tail m n hm hn ih =>
    have hs := Stacked.of_reaches hm
    have htop : ∀ c, m.top.construction = some c → Opened limit text rules n c :=
      fun c hc => (ih m.top List.mem_cons_self c hc).next hn
    have hbelow : ∀ f ∈ m.below, ∀ c, f.construction = some c → Opened limit text rules n c :=
      fun f hf c hc => (ih f (List.mem_cons_of_mem _ hf) c hc).next hn
    rcases hn.cases with ⟨_, parent, below, s, hb, rfl⟩ | ⟨hx, g, hg, rfl⟩ | ⟨hx, g, c, hg, _, rfl⟩
    · intro f hf c hc
      rcases List.mem_cons.mp hf with rfl | hf
      · exact hbelow parent (hb ▸ List.mem_cons_self) c hc
      · exact hbelow f (hb ▸ List.mem_cons_of_mem _ hf) c hc
    · obtain ⟨_, _, _, hcon⟩ := hs.sound.step hx hg
      intro f hf c hc
      rcases List.mem_cons.mp hf with rfl | hf
      · exact htop c (hcon ▸ hc)
      · exact hbelow f hf c hc
    · obtain ⟨_, _, _, hcon⟩ := hs.sound.step hx hg
      intro f hf c' hc
      rcases List.mem_cons.mp hf with rfl | hf
      · cases hc
        obtain ⟨ha, hi, _⟩ := Frame.opens_of_step (hs.sound.remaining_ne_nil hx) hg
        exact ⟨m, hm, ha, hi, .single hn⟩
      · rcases List.mem_cons.mp hf with rfl | hf
        · exact htop c' (hcon ▸ hc)
        · exact hbelow f hf c' hc

end Machine

end RuleTree
