import RuleTree.Rule.Build
import RuleTree.Rule.Compare
import RuleTree.Proofs.Value.HashKeys

/-!
# Keys of equal rule sets

Rules are compared field by field, and so are their keys. Every field of equal rules has agreeing keys,
except for the option: two literal options are equal by value, while their keys are made from their
texts. So the keys of equal rule sets agree exactly if all literal options in them, those of included
and replacing rules too, are written alike.
-/

namespace RuleTree

/-- The text that the key of an option is made from. -/
def RuleOption.keyText? : Option RuleOption → Option String
  | some (.literal v) => some (Datum.text v)
  | _ => none

mutual

/-- The texts of the options of a rule and of all rules that occur below it, one for each rule. -/
def Rule.optionTexts : Rule → List (Option String)
  | ⟨_, _, _, _, option, _, _, _, included, replacement⟩ =>
    RuleOption.keyText? option :: (RuleSet.optionTexts included ++
      match replacement with
      | none => []
      | some rs => RuleSet.optionTexts rs)

def RuleSet.optionTexts : RuleSet → List (Option String)
  | [] => []
  | r :: rs => r.optionTexts ++ RuleSet.optionTexts rs

end

/-! ## Keys of fields -/

theorem Matcher.agree_of_same {m n : Matcher} (h : m.same n = true) :
    m.hashKey.agree n.hashKey = true := by
  unfold same at h
  split at h
  · next p q =>
    simp only [Pattern.same, Bool.and_eq_true, beq_iff_eq] at h
    simp only [hashKey, h.1, h.2, HashKey.agree, HashKey.agreeAll, beq_self_eq_true, Bool.and_self]
  · cases h

/-- Equal options have agreeing keys only if their texts are equal. -/
theorem RuleOption.agree_iff_keyText? {a b : Option RuleOption} (h : same a b = true) :
    (hashKey a).agree (hashKey b) = true ↔ keyText? a = keyText? b := by
  unfold same at h
  split at h
  · simp [hashKey, keyText?, HashKey.agree, HashKey.agreeAll]
  · simp [hashKey, keyText?, HashKey.agree_ofText]
  · cases h

namespace Excluder

variable {k l : HashKey}

/-- The key of an option that an excluder asks for. -/
def optionKey? : Option Datum → Option HashKey
  | none => some (.seq "any" [])
  | some d => Value.hashKey? Foreign.text d

theorem hashKey?_eq_some {e : Excluder} : e.hashKey? = some k ↔
    ∃ name option, Value.hashKey? Foreign.text e.name = some name ∧
      optionKey? e.option = some option ∧ .seq "tuple" [name, option] = k := by
  obtain ⟨name, option⟩ := e
  cases option <;> simp [hashKey?, optionKey?, Option.bind_eq_some_iff]

theorem agree_of_sameOption {a b : Option Datum} (h : sameOption a b = true)
    (hk : optionKey? a = some k) (hl : optionKey? b = some l) : k.agree l = true := by
  unfold sameOption at h
  split at h
  · cases hk
    cases hl
    rfl
  · exact Value.agree_of_same h hk hl
  · cases h

theorem agree_of_same {a b : Excluder} (h : a.same b = true) (hk : a.hashKey? = some k)
    (hl : b.hashKey? = some l) : k.agree l = true := by
  obtain ⟨kn, ko, hkn, hko, rfl⟩ := hashKey?_eq_some.mp hk
  obtain ⟨ln, lo, hln, hlo, rfl⟩ := hashKey?_eq_some.mp hl
  rw [same, Bool.and_eq_true] at h
  simp [HashKey.agree, HashKey.agreeAll, Value.agree_of_same h.1 hkn hln,
    agree_of_sameOption h.2 hko hlo]

theorem agreeAll_of_sameAll {as bs : List Excluder} {ks ls : List HashKey}
    (h : sameAll as bs = true) (hk : as.mapM hashKey? = some ks) (hl : bs.mapM hashKey? = some ls) :
    HashKey.agreeAll ks ls = true := by
  induction as generalizing bs ks ls with
  | nil =>
    cases bs with
    | nil =>
      cases hk
      cases hl
      rfl
    | cons b bs => cases h
  | cons a as ih =>
    cases bs with
    | nil => cases h
    | cons b bs =>
      simp only [sameAll, Bool.and_eq_true] at h
      rw [List.mapM_cons] at hk hl
      obtain ⟨k, hka, hk⟩ := Option.bind_eq_some_iff.mp hk
      obtain ⟨l, hlb, hl⟩ := Option.bind_eq_some_iff.mp hl
      obtain ⟨ks, hks, ⟨⟩⟩ := Option.bind_eq_some_iff.mp hk
      obtain ⟨ls, hls, ⟨⟩⟩ := Option.bind_eq_some_iff.mp hl
      rw [HashKey.agreeAll, agree_of_same h.1 hka hlb, ih h.2 hks hls, Bool.and_self]

theorem agree_of_sameExclude {a b : Option (List Excluder)} (h : Rule.sameExclude a b = true)
    (hk : hashKeys? a = some k) (hl : hashKeys? b = some l) : k.agree l = true := by
  unfold Rule.sameExclude at h
  split at h
  · cases hk
    cases hl
    rfl
  · obtain ⟨ks, hks, ⟨⟩⟩ := Option.bind_eq_some_iff.mp hk
    obtain ⟨ls, hls, ⟨⟩⟩ := Option.bind_eq_some_iff.mp hl
    simpa [HashKey.agree] using agreeAll_of_sameAll h hks hls
  · cases h

end Excluder

/-! ## Keys of rules -/

/-- Two parts of rule sets have as many option texts each, and their keys agree exactly if the texts are
equal. -/
structure Reflects (agrees : Bool) (texts texts' : List (Option String)) : Prop where
  length : texts.length = texts'.length
  iff : agrees = true ↔ texts = texts'

theorem Reflects.and {p q : Bool} {as bs cs ds : List (Option String)} (h : Reflects p as bs)
    (h' : Reflects q cs ds) : Reflects (p && q) (as ++ cs) (bs ++ ds) where
  length := by rw [List.length_append, List.length_append, h.length, h'.length]
  iff := by
    rw [Bool.and_eq_true, h.iff, h'.iff]
    constructor
    · rintro ⟨rfl, rfl⟩
      rfl
    · exact fun heq => List.append_inj heq h.length

namespace Rule

def captureKey : Option Int → HashKey
  | none => .seq "null" []
  | some n => .ofInt n

def sameReplacement : Option (List Rule) → Option (List Rule) → Bool
  | none, none => true
  | some rs, some ss => sameAll rs ss
  | _, _ => false

def replacementKey? : Option (List Rule) → Option HashKey
  | none => some (.seq "null" [])
  | some rs => (hashKeys? rs).map (.seq "tuple")

def replacementTexts : Option (List Rule) → List (Option String)
  | none => []
  | some rs => RuleSet.optionTexts rs

variable {r s : Rule} {k l : HashKey}

theorem same_eq (r s : Rule) : r.same s =
    (r.name == s.name && r.matcher.same s.matcher && r.capture == s.capture &&
    r.formatter.isNone && s.formatter.isNone && RuleOption.same r.option s.option &&
    r.ignore == s.ignore && r.skip == s.skip && sameExclude r.exclude s.exclude &&
    sameAll r.included s.included && sameReplacement r.replacement s.replacement) := by
  obtain ⟨_, _, _, _, _, _, _, _, _, replacement⟩ := r
  obtain ⟨_, _, _, _, _, _, _, _, _, replacement'⟩ := s
  cases replacement <;> cases replacement' <;> rfl

theorem hashKey?_eq_some : r.hashKey? = some k ↔
    ∃ exclude included replacement, Excluder.hashKeys? r.exclude = some exclude ∧
      hashKeys? r.included = some included ∧ replacementKey? r.replacement = some replacement ∧
      .seq "tuple" [.ofText r.name, r.matcher.hashKey, captureKey r.capture,
        (if r.formatter.isSome then .unique else .seq "null" []), RuleOption.hashKey r.option,
        .ofInt (if r.ignore then 1 else 0), .ofInt (if r.skip then 1 else 0),
        exclude, .seq "tuple" included, replacement] = k := by
  obtain ⟨_, _, capture, _, _, _, _, _, _, replacement⟩ := r
  cases capture <;> cases replacement <;>
    simp [hashKey?, captureKey, replacementKey?, Option.bind_eq_some_iff]

theorem optionTexts_eq (r : Rule) : r.optionTexts = RuleOption.keyText? r.option ::
    (RuleSet.optionTexts r.included ++ replacementTexts r.replacement) := by
  obtain ⟨_, _, _, _, _, _, _, _, _, replacement⟩ := r
  cases replacement <;> rfl

theorem hashKeys?_cons_eq_some {rs : List Rule} {ks : List HashKey} :
    hashKeys? (r :: rs) = some ks ↔
      ∃ k ls, r.hashKey? = some k ∧ hashKeys? rs = some ls ∧ k :: ls = ks := by
  simp [hashKeys?, Option.bind_eq_some_iff]

theorem agree_captureKey (capture : Option Int) :
    (captureKey capture).agree (captureKey capture) = true := by
  cases capture with
  | none => rfl
  | some n => exact HashKey.agree_ofInt n

/-- Lists of equal rules, their keys and their texts: what the induction over rules says of the rules
below one. -/
def AllReflect (rs ss : List Rule) : Prop :=
  ∀ ks ls, sameAll rs ss = true → hashKeys? rs = some ks → hashKeys? ss = some ls →
    Reflects (HashKey.agreeAll ks ls) (RuleSet.optionTexts rs) (RuleSet.optionTexts ss)

theorem reflects_replacement {a b : Option (List Rule)} (h : sameReplacement a b = true)
    (hk : replacementKey? a = some k) (hl : replacementKey? b = some l)
    (hall : ∀ rs ss, a = some rs → b = some ss → AllReflect rs ss) :
    Reflects (k.agree l) (replacementTexts a) (replacementTexts b) := by
  unfold sameReplacement at h
  split at h
  · cases hk
    cases hl
    exact ⟨rfl, by simp [HashKey.agree, HashKey.agreeAll, replacementTexts]⟩
  · next rs ss =>
    obtain ⟨ks, hks, rfl⟩ := Option.map_eq_some_iff.mp hk
    obtain ⟨ls, hls, rfl⟩ := Option.map_eq_some_iff.mp hl
    simpa [HashKey.agree, replacementTexts] using hall rs ss rfl rfl ks ls h hks hls
  · cases h

theorem reflects_option {a b : Option RuleOption} (h : RuleOption.same a b = true) :
    Reflects ((RuleOption.hashKey a).agree (RuleOption.hashKey b)) [RuleOption.keyText? a]
      [RuleOption.keyText? b] where
  length := rfl
  iff := by rw [RuleOption.agree_iff_keyText? h, List.cons.injEq, and_iff_left rfl]

/-- One rule, given the rules below it: all but the option, the included rules and the replacement has
agreeing keys. -/
theorem reflects_of_below (h : r.same s = true) (hk : r.hashKey? = some k) (hl : s.hashKey? = some l)
    (hincluded : AllReflect r.included s.included)
    (hreplacement : ∀ rs ss, r.replacement = some rs → s.replacement = some ss → AllReflect rs ss) :
    Reflects (k.agree l) r.optionTexts s.optionTexts := by
  simp only [same_eq, Bool.and_eq_true, beq_iff_eq, Option.isNone_iff_eq_none, and_assoc] at h
  obtain ⟨hname, hmatcher, hcapture, hformatter, hformatter', hoption, hignore, hskip, hexclude,
    hin, hrep⟩ := h
  obtain ⟨ke, ki, kr, hke, hki, hkr, rfl⟩ := hashKey?_eq_some.mp hk
  obtain ⟨le, li, lr, hle, hli, hlr, rfl⟩ := hashKey?_eq_some.mp hl
  have hparts := (reflects_option hoption).and
    ((hincluded ki li hin hki hli).and (reflects_replacement hrep hkr hlr hreplacement))
  rw [optionTexts_eq, optionTexts_eq]
  simpa [HashKey.agree, HashKey.agreeAll, HashKey.agree_ofText.mpr hname, hcapture, hformatter,
    hformatter', hignore, hskip, Matcher.agree_of_same hmatcher, agree_captureKey,
    Excluder.agree_of_sameExclude hexclude hke hle] using hparts

mutual

-- The recursion is on the left rule only. The right one has the same shape, or they are not equal.
theorem reflects : (r : Rule) → ∀ {s : Rule} {k l : HashKey}, r.same s = true →
    r.hashKey? = some k → s.hashKey? = some l → Reflects (k.agree l) r.optionTexts s.optionTexts
  | ⟨_, _, _, _, _, _, _, _, included, none⟩, s, _, _, h, hk, hl =>
    reflects_of_below h hk hl (allReflect included s.included) fun rs ss hrs => by cases hrs
  | ⟨_, _, _, _, _, _, _, _, included, some rs⟩, s, _, _, h, hk, hl =>
    reflects_of_below h hk hl (allReflect included s.included) fun rs ss hrs => by
      cases hrs
      exact fun _ => allReflect rs ss

theorem allReflect : ∀ rs ss : List Rule, AllReflect rs ss
  | [], [] => by
    rintro ks ls - ⟨⟩ ⟨⟩
    exact ⟨rfl, by simp [HashKey.agreeAll]⟩
  | r :: rs, s :: ss => by
    intro ks ls h hk hl
    obtain ⟨k, ks, hkr, hks, rfl⟩ := hashKeys?_cons_eq_some.mp hk
    obtain ⟨l, ls, hls, hlss, rfl⟩ := hashKeys?_cons_eq_some.mp hl
    rw [sameAll, Bool.and_eq_true] at h
    exact (reflects r h.1 hkr hls).and (allReflect rs ss ks ls h.2 hks hlss)
  | [], _ :: _ => by
    rintro ks ls ⟨⟩
  | _ :: _, [] => by
    rintro ks ls ⟨⟩

end

end Rule

/-- The keys of equal rule sets that have keys agree exactly if the literal options in them have the same
texts, one rule after another and at every depth. The sets are built apart from each other: one that holds
a function or a formatter does not even equal itself here, so sets that share such an object are left
out. -/
theorem RuleSet.agree_iff_optionTexts {a b : RuleSet} {k l : HashKey} (h : a.same b = true)
    (hk : a.hashKey? = some k) (hl : b.hashKey? = some l) :
    k.agree l = true ↔ a.optionTexts = b.optionTexts := by
  obtain ⟨ks, hks, rfl⟩ := Option.map_eq_some_iff.mp hk
  obtain ⟨ls, hls, rfl⟩ := Option.map_eq_some_iff.mp hl
  rw [HashKey.agree, beq_self_eq_true, Bool.true_and]
  exact (Rule.allReflect a b ks ls h hks hls).iff

namespace Lookalikes

/-- A rule with an option, and with other settings. -/
def optioned (option : Spec) (others : List (Spec × Spec)) : Spec :=
  .tuple [.str "a", .mapping ((.str "match", .str "x") :: (.str "option", option) :: others)]

/-- Drops the rules `b` with an option and brings in a rule `b` without one. -/
def dropping (option : Spec) : List (Spec × Spec) :=
  [(.str "exclude", .tuple [.str "b", option]),
    (.str "include", .list [.tuple [.str "b", .mapping [(.str "match", .str "y")]]])]

/-- Both specifications are of rule sets with keys, and `p` holds of these. -/
def check (p : RuleSet → RuleSet → HashKey → HashKey → Bool) (s t : Spec) : Bool :=
  match Spec.ruleset s, Spec.ruleset t with
  | .ok a, .ok b =>
    match a.hashKey?, b.hashKey? with
    | some k, some l => p a b k l
    | _, _ => false
  | _, _ => false

theorem exists_of_check {p : RuleSet → RuleSet → HashKey → HashKey → Bool} {s t : Spec}
    (h : check p s t = true) :
    ∃ a b k l, Spec.ruleset s = .ok a ∧ Spec.ruleset t = .ok b ∧ a.hashKey? = some k ∧
      b.hashKey? = some l ∧ p a b k l = true := by
  unfold check at h
  split at h
  · next a b ha hb =>
    split at h
    · next k l hk hl => exact ⟨a, b, k, l, ha, hb, hk, hl, h⟩
    · cases h
  · cases h

end Lookalikes

/-- Excluders have keys by value: the keys agree although one drops an option 1 and the other `True`. -/
theorem RuleSet.agree_iff_optionTexts_dropping :
    ∃ a b k l, Spec.ruleset (Lookalikes.optioned (.int 7) (Lookalikes.dropping (.int 1))) = .ok a ∧
      Spec.ruleset (Lookalikes.optioned (.int 7) (Lookalikes.dropping (.bool true))) = .ok b ∧
      a.same b = true ∧ a.hashKey? = some k ∧ b.hashKey? = some l ∧ k.agree l = true := by
  obtain ⟨a, b, k, l, ha, hb, hk, hl, hp⟩ := Lookalikes.exists_of_check
    (p := fun a b _ _ => a.same b && a.optionTexts == b.optionTexts)
    (s := Lookalikes.optioned (.int 7) (Lookalikes.dropping (.int 1)))
    (t := Lookalikes.optioned (.int 7) (Lookalikes.dropping (.bool true))) (by decide +kernel)
  rw [Bool.and_eq_true, beq_iff_eq] at hp
  exact ⟨a, b, k, l, ha, hb, hp.1, hk, hl, (agree_iff_optionTexts hp.1 hk hl).mpr hp.2⟩

/-- Options have keys by text: the rule sets with the options 1 and `True` are equal, but their keys do
not agree. -/
theorem RuleSet.same_with_differing_keys :
    ∃ a b k l, Spec.ruleset (Lookalikes.optioned (.int 1) []) = .ok a ∧
      Spec.ruleset (Lookalikes.optioned (.bool true) []) = .ok b ∧ a.same b = true ∧
      a.hashKey? = some k ∧ b.hashKey? = some l ∧ k.agree l = false := by
  obtain ⟨a, b, k, l, ha, hb, hk, hl, hp⟩ := Lookalikes.exists_of_check
    (p := fun a b k l => a.same b && !k.agree l)
    (s := Lookalikes.optioned (.int 1) []) (t := Lookalikes.optioned (.bool true) [])
    (by decide +kernel)
  rw [Bool.and_eq_true, Bool.not_eq_true'] at hp
  exact ⟨a, b, k, l, ha, hb, hp.1, hk, hl, hp.2⟩

end RuleTree
