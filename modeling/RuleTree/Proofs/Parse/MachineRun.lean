import Mathlib.Logic.Relation
import RuleTree.Parse.Machine
import RuleTree.Proofs.Parse.FrameView

/-!
# Runs of the parse machine

`Reaches` is about the machines at the head of the loop, `Halts` about the outcome. A halting run has
one outcome and passes through every machine that is reached, so a run can be cut wherever a proof
needs it. The number of steps never appears outside this module except as a bound.
-/

namespace RuleTree

/-- Matches may nest as deep as this. -/
def Permits (limit : Option Int) (depth : Nat) : Prop :=
  ∀ most, limit = some most → (depth : Int) ≤ most

theorem permits_none (depth : Nat) : Permits none depth := by
  intro most h
  cases h

theorem permits_or_exceeded (limit : Option Int) (depth : Nat) :
    Permits limit depth ∨ ∃ most, limit = some most ∧ most < depth := by
  cases limit with
  | none => exact Or.inl (permits_none depth)
  | some most =>
    by_cases h : (depth : Int) ≤ most
    · exact Or.inl fun _ he => Option.some.inj he ▸ h
    · exact Or.inr ⟨most, rfl, by omega⟩

namespace Machine

/-- The frames on the stack, the innermost first. -/
def frames (m : Machine) : List Frame := m.top :: m.below

def Next (limit : Option Int) (m n : Machine) : Prop := m.step limit = .ok (.running n)

/-- A machine at the head of the loop in some run from `m`. -/
def Reaches (limit : Option Int) : Machine → Machine → Prop := Relation.ReflTransGen (Next limit)

def Halts (limit : Option Int) (m : Machine) (out : Parse (List Node)) : Prop :=
  ∃ steps, m.run limit steps = some out

variable {limit : Option Int} {m n : Machine} {out out' : Parse (List Node)}

theorem Next.run_succ (h : Next limit m n) (steps : Nat) :
    m.run limit (steps + 1) = n.run limit steps := by
  unfold Next at h
  simp only [run, h]

theorem Next.halts_iff (h : Next limit m n) : m.Halts limit out ↔ n.Halts limit out := by
  constructor
  · rintro ⟨steps, hr⟩
    cases steps with
    | zero => cases hr
    | succ steps => exact ⟨steps, h.run_succ steps ▸ hr⟩
  · rintro ⟨steps, hr⟩
    exact ⟨steps + 1, h.run_succ steps ▸ hr⟩

theorem halts_of_error {e : ParseError} (h : m.step limit = .error e) :
    m.Halts limit (.error e) :=
  ⟨1, by simp only [run, h]⟩

theorem halts_of_finished {nodes : List Node} (h : m.step limit = .ok (.finished nodes)) :
    m.Halts limit (.ok nodes) :=
  ⟨1, by simp only [run, h]⟩

/-- A run that has stopped is not changed by more steps. -/
theorem run_stable {steps : Nat} (h : m.run limit steps = some out) (more : Nat) :
    m.run limit (steps + more) = some out := by
  induction steps generalizing m with
  | zero => cases h
  | succ steps ih =>
    rw [Nat.succ_add]
    simp only [run] at h ⊢
    split at h
    · exact h
    · exact h
    · exact ih h

theorem Halts.unique (h : m.Halts limit out) (h' : m.Halts limit out') : out = out' := by
  obtain ⟨steps, hr⟩ := h
  obtain ⟨steps', hr'⟩ := h'
  have he := run_stable hr steps'
  rw [Nat.add_comm, run_stable hr' steps] at he
  exact (Option.some.inj he).symm

theorem Reaches.halts_iff (h : Reaches limit m n) : m.Halts limit out ↔ n.Halts limit out := by
  induction h with
  | refl => rfl
  | tail _ hn ih => exact ih.trans hn.halts_iff

/-- A halting run passes through every machine that is reached. -/
theorem Reaches.run_le (h : Reaches limit m n) {steps : Nat} (hr : m.run limit steps = some out) :
    ∃ fewer ≤ steps, n.run limit fewer = some out := by
  induction h with
  | refl => exact ⟨steps, Nat.le_refl steps, hr⟩
  | tail _ hn ih =>
    obtain ⟨fewer, hle, hf⟩ := ih
    cases fewer with
    | zero => cases hf
    | succ fewer => exact ⟨fewer, by omega, hn.run_succ fewer ▸ hf⟩

/-! ## Single steps -/

variable {f g : Frame} {below : List Frame} {c : Construction}

theorem step_finished (hx : f.exhausted = true) :
    step limit ⟨f, []⟩ = .ok (.finished f.closeLiteral.nodes) := by
  simp only [step, hx, pop, ↓reduceIte]
  rfl

theorem step_pop {parent : Frame} {s : Shaped} (hx : f.exhausted = true)
    (hc : f.construction = some c) (hs : c.shape f.closeLiteral.nodes = .ok s) :
    Next limit ⟨f, parent :: below⟩ ⟨parent.add s, below⟩ := by
  simp only [Next, step, hx, pop, hc, hs, ↓reduceIte]
  rfl

theorem step_unshaped {parent : Frame} {e : ParseError} (hx : f.exhausted = true)
    (hc : f.construction = some c) (hs : c.shape f.closeLiteral.nodes = .error e) :
    step limit ⟨f, parent :: below⟩ = .error e := by
  simp only [step, hx, pop, hc, hs, ↓reduceIte]
  rfl

/-- An exhausted frame that has a construction fails where its shaping fails, and nowhere else. -/
theorem step_shape {parent : Frame} (hx : f.exhausted = true) (hc : f.construction = some c) :
    step limit ⟨f, parent :: below⟩ =
      (c.shape f.closeLiteral.nodes).map fun s => .running ⟨parent.add s, below⟩ := by
  cases hs : c.shape f.closeLiteral.nodes with
  | ok s => exact step_pop hx hc hs
  | error e => exact step_unshaped hx hc hs

theorem step_error {e : ParseError} (hx : f.exhausted = false) (hf : f.step = .error e) :
    step limit ⟨f, below⟩ = .error e := by
  simp only [step, hx, hf, Bool.false_eq_true, ↓reduceIte]
  rfl

theorem step_within (hx : f.exhausted = false) (hf : f.step = .ok (g, none)) :
    Next limit ⟨f, below⟩ ⟨g, below⟩ := by
  simp only [Next, step, hx, hf, Bool.false_eq_true, ↓reduceIte]
  rfl

theorem exceeds_some {most : Int} :
    m.exceeds (some most) = true ↔ most < (m.below.length : Int) + 1 := by
  rw [exceeds, decide_eq_true_eq, depth]

theorem step_push (hx : f.exhausted = false) (hf : f.step = .ok (g, some c))
    (hl : Permits limit (below.length + 1)) :
    Next limit ⟨f, below⟩ ⟨.ofConstruction c, g :: below⟩ := by
  cases limit with
  | none =>
    simp only [Next, step, hx, hf, Bool.false_eq_true, ↓reduceIte]
    rfl
  | some most =>
    have hle := hl most rfl
    have hexc : exceeds ⟨f, below⟩ (some most) = false := by
      rw [Bool.eq_false_iff, Ne, exceeds_some]
      change ¬ most < (below.length : Int) + 1
      omega
    simp only [Next, step, hx, hf, hexc, Bool.false_eq_true, ↓reduceIte, bind, Except.bind]
    rfl

theorem step_tooDeep {most : Int} (hx : f.exhausted = false) (hf : f.step = .ok (g, some c))
    (hl : most < (below.length : Int) + 1) :
    step (some most) ⟨f, below⟩ = .error (.tooDeep c.found.rule.name most) := by
  have hexc : exceeds ⟨f, below⟩ (some most) = true := exceeds_some.mpr hl
  simp only [step, hx, hf, hexc, Bool.false_eq_true, ↓reduceIte, bind, Except.bind]
  rfl

/-- Everything that a machine can turn into. -/
theorem Next.cases (h : Next limit m n) :
    (m.top.exhausted = true ∧ ∃ parent below s, m.below = parent :: below ∧
      n = ⟨parent.add s, below⟩) ∨
    (m.top.exhausted = false ∧ ∃ g, m.top.step = .ok (g, none) ∧ n = ⟨g, m.below⟩) ∨
    (m.top.exhausted = false ∧ ∃ g c, m.top.step = .ok (g, some c) ∧
      Permits limit (m.below.length + 1) ∧ n = ⟨.ofConstruction c, g :: m.below⟩) := by
  obtain ⟨f, below⟩ := m
  cases hx : f.exhausted with
  | true =>
    refine Or.inl ⟨rfl, ?_⟩
    simp only [Next, step, hx, pop, ↓reduceIte] at h
    cases below with
    | nil => cases h
    | cons parent below =>
      cases hc : f.construction with
      | none =>
        simp only [hc] at h
        cases h
        exact ⟨parent, below, _, rfl, rfl⟩
      | some c =>
        simp only [hc] at h
        obtain ⟨s, _, h⟩ := bind_eq_ok.mp h
        cases h
        exact ⟨parent, below, s, rfl, rfl⟩
  | false =>
    refine Or.inr ?_
    cases hf : f.step with
    | error e =>
      have he : step limit ⟨f, below⟩ = .error e := step_error hx hf
      rw [Next, he] at h
      cases h
    | ok r =>
      obtain ⟨g, oc⟩ := r
      cases oc with
      | none =>
        have he : Next limit ⟨f, below⟩ ⟨g, below⟩ := step_within hx hf
        cases h.symm.trans he
        exact Or.inl ⟨rfl, g, rfl, rfl⟩
      | some c =>
        rcases permits_or_exceeded limit (below.length + 1) with hp | ⟨most, rfl, hlt⟩
        · cases h.symm.trans (step_push hx hf hp)
          exact Or.inr ⟨rfl, g, c, rfl, hp, rfl⟩
        · have he : step (some most) ⟨f, below⟩ = _ := step_tooDeep hx hf (by omega)
          rw [Next, he] at h
          cases h

/-- A machine finishes with the nodes of the outermost frame, once that is exhausted. -/
theorem finished_cases {nodes : List Node} (h : m.step limit = .ok (.finished nodes)) :
    m.below = [] ∧ m.top.exhausted = true ∧ nodes = m.top.closeLiteral.nodes := by
  obtain ⟨f, below⟩ := m
  cases hx : f.exhausted with
  | true =>
    simp only [step, hx, pop, ↓reduceIte] at h
    split at h
    · cases h
      exact ⟨rfl, rfl, rfl⟩
    · obtain ⟨s, _, h⟩ := bind_eq_ok.mp h
      cases h
    · cases h
  | false =>
    cases hf : f.step with
    | error e => cases h.symm.trans (step_error hx hf)
    | ok r =>
      obtain ⟨g, oc⟩ := r
      cases oc with
      | none => cases h.symm.trans (step_within hx hf)
      | some c =>
        rcases permits_or_exceeded limit (below.length + 1) with hp | ⟨most, rfl, hlt⟩
        · cases h.symm.trans (step_push hx hf hp)
        · cases h.symm.trans (step_tooDeep hx hf (by omega))

/-- A run that halts has come to a machine that stops there with the outcome. -/
theorem Halts.reaches_last (h : m.Halts limit out) :
    ∃ n, Reaches limit m n ∧ n.step limit = Progress.finished <$> out := by
  obtain ⟨steps, hr⟩ := h
  induction steps generalizing m with
  | zero => cases hr
  | succ steps ih =>
    simp only [run] at hr
    split at hr
    · next hs =>
      cases hr
      exact ⟨m, .refl, hs⟩
    · next hs =>
      cases hr
      exact ⟨m, .refl, hs⟩
    · next hs =>
      obtain ⟨n, hn, hlast⟩ := ih hr
      exact ⟨n, .head hs hn, hlast⟩

end Machine

end RuleTree
