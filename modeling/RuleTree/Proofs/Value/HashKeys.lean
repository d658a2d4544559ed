import Mathlib.Data.Nat.ModEq
import RuleTree.Value.Equality
import RuleTree.Value.HashKey

/-!
# Equal values have agreeing keys

Numbers are equal by value, whatever their kind, and so are their keys: a power of two in the
mantissa can be moved to the exponent, which only counts modulo 61, since 2⁶¹ leaves the residue 1.
From the scalars it goes on to tuples and spans. Lists, mappings and sets have no key, and values
that differ may still have agreeing ones.
-/

namespace RuleTree

/-! ## Keys of numbers -/

/-- Equal numbers differ by a power of two in the mantissa, which makes up for the exponents. -/
theorem Binary64.sameDyadic_cases {a d b e : Int} (h : sameDyadic a d b e = true) :
    (∃ k : Nat, a = b * 2 ^ k ∧ e = d + k) ∨ ∃ k : Nat, b = a * 2 ^ k ∧ d = e + k := by
  simp only [sameDyadic, beq_iff_eq, Nat.pow_eq] at h
  rcases Int.le_total d e with hle | hle
  · refine Or.inl ⟨(e - d).toNat, ?_, by omega⟩
    rw [Int.min_eq_left hle, Int.sub_self] at h
    simpa using h
  · refine Or.inr ⟨(d - e).toNat, ?_, by omega⟩
    rw [Int.min_eq_right hle, Int.sub_self] at h
    simpa using h.symm

namespace HashKey

theorem two_pow_modEq (n : Nat) : 2 ^ n ≡ 2 ^ (n % 61) [MOD 2305843009213693951] := by
  have hone : 2 ^ 61 ≡ 1 [MOD 2305843009213693951] := by decide
  calc 2 ^ n = (2 ^ 61) ^ (n / 61) * 2 ^ (n % 61) := by
        rw [← Nat.pow_mul, ← Nat.pow_add, Nat.div_add_mod]
    _ ≡ 1 ^ (n / 61) * 2 ^ (n % 61) [MOD 2305843009213693951] := (hone.pow _).mul_right _
    _ = 2 ^ (n % 61) := by rw [Nat.one_pow, Nat.one_mul]

theorem natCast_emod_modulus {a b : Nat} (h : a ≡ b [MOD 2305843009213693951]) :
    (a : Int) % modulus = (b : Int) % modulus := by
  unfold Nat.ModEq at h
  unfold modulus
  omega

/-- The key depends on the number only, not on how it is written as a product. -/
theorem ofDyadic_mul_two_pow (m : Int) (k : Nat) (e : Int) :
    ofDyadic (m * 2 ^ k) e = ofDyadic m (e + k) := by
  have hpos : (0 : Int) < 2 ^ k := Int.pow_pos (by decide)
  have hsign : m * 2 ^ k < 0 ↔ m < 0 := by
    constructor
    · intro h
      refine Int.not_le.mp fun hm => ?_
      have hle := Int.mul_nonneg hm (Int.le_of_lt hpos)
      omega
    · exact fun h => Int.mul_neg_of_neg_of_pos h hpos
  have hresidue : (m * 2 ^ k).natAbs * 2 ^ (e % 61).toNat ≡
      m.natAbs * 2 ^ ((e + k) % 61).toNat [MOD 2305843009213693951] := by
    have hexp : (k + (e % 61).toNat) % 61 = ((e + k) % 61).toNat := by omega
    have hpow := two_pow_modEq (k + (e % 61).toNat)
    rw [hexp, Nat.pow_add] at hpow
    rw [Int.natAbs_mul, Int.natAbs_pow, Nat.mul_assoc]
    exact hpow.mul_left _
  simp only [ofDyadic, Nat.pow_eq, hsign, natCast_emod_modulus hresidue]

theorem ofInt_eq_ofDyadic (i : Int) : ofInt i = ofDyadic i 0 := by
  have hresidue : (if i < 0 then -(-i % modulus) else i % modulus) =
      if i < 0 then -((i.natAbs * 2 ^ ((0 : Int) % 61).toNat : Nat) % modulus)
        else ((i.natAbs * 2 ^ ((0 : Int) % 61).toNat : Nat) : Int) % modulus := by
    have hmul : i.natAbs * 2 ^ ((0 : Int) % 61).toNat = i.natAbs := Nat.mul_one _
    rw [hmul]
    split
    · rw [Int.ofNat_natAbs_of_nonpos (by omega)]
    · rw [Int.natAbs_of_nonneg (by omega)]
  simp only [ofInt, ofDyadic, Nat.pow_eq, hresidue]

theorem ofDyadic_eq_of_same {a d b e : Int} (h : Binary64.sameDyadic a d b e = true) :
    ofDyadic a d = ofDyadic b e := by
  rcases Binary64.sameDyadic_cases h with ⟨k, rfl, rfl⟩ | ⟨k, rfl, rfl⟩
  · exact ofDyadic_mul_two_pow b k d
  · exact (ofDyadic_mul_two_pow a k e).symm

theorem agree_ofDyadic_of_same {a d b e : Int} (h : Binary64.sameDyadic a d b e = true) :
    agree (ofDyadic a d) (ofDyadic b e) = true := by
  rw [ofDyadic_eq_of_same h]
  simp [ofDyadic, agree]

@[simp] theorem agree_ofInt (i : Int) : agree (ofInt i) (ofInt i) = true := by
  simp [ofInt, agree]

mutual

/-- Keys that agree are equal; the converse fails for keys with an identity of their own. -/
theorem eq_of_agree : ∀ {k l : HashKey}, k.agree l = true → k = l := by
  intro k l h
  cases k with
  | seq s xs =>
    cases l with
    | seq t ys =>
      simp only [agree, Bool.and_eq_true, beq_iff_eq] at h
      rw [h.1, eq_of_agreeAll h.2]
    | _ => simp [agree] at h
  | _ => cases l <;> simp_all [agree]

theorem eq_of_agreeAll : ∀ {ks ls : List HashKey}, agreeAll ks ls = true → ks = ls := by
  intro ks ls h
  cases ks with
  | nil =>
    cases ls with
    | nil => rfl
    | cons l ls => simp [agreeAll] at h
  | cons k ks =>
    cases ls with
    | nil => simp [agreeAll] at h
    | cons l ls =>
      simp only [agreeAll, Bool.and_eq_true] at h
      rw [eq_of_agree h.1, eq_of_agreeAll h.2]

end

theorem agreeAll_symm {ks ls : List HashKey} (h : agreeAll ks ls = true) :
    agreeAll ls ks = true := by
  cases eq_of_agreeAll h
  exact h

/-- Texts have agreeing keys only if they are equal. -/
theorem agree_ofText {s t : String} : agree (ofText s) (ofText t) = true ↔ s = t := by
  unfold ofText
  by_cases hs : s = ""
  · by_cases ht : t = ""
    · simp [hs, ht, agree]
    · simp [hs, ht, agree, Ne.symm ht]
  · by_cases ht : t = ""
    · simp [hs, ht, agree]
    · simp [hs, ht, agree]

end HashKey

/-! ## Keys of values -/

namespace Value

variable {α : Type} {objectText : α → String} {v w : Value α} {k l : HashKey}

theorem hashKey?_of_dyadic? {m e : Int} (h : v.dyadic? = some (m, e)) :
    v.hashKey? objectText = some (.ofDyadic m e) := by
  cases v with
  | bool b =>
    cases h
    rw [hashKey?, HashKey.ofInt_eq_ofDyadic]
  | int i =>
    cases h
    rw [hashKey?, HashKey.ofInt_eq_ofDyadic]
  | float x =>
    cases x with
    | finite negative mantissa exponent =>
      cases h
      rfl
    | _ => cases h
  | _ => cases h

theorem hashKeys?_cons_eq_some {vs : List (Value α)} {ks : List HashKey} :
    hashKeys? objectText (v :: vs) = some ks ↔
      ∃ k ls, v.hashKey? objectText = some k ∧ hashKeys? objectText vs = some ls ∧ k :: ls = ks := by
  simp [hashKeys?, Option.bind_eq_some_iff]

theorem agree_of_dyadic? {a d b e : Int} (hv : v.dyadic? = some (a, d))
    (hw : w.dyadic? = some (b, e)) (h : Binary64.sameDyadic a d b e = true)
    (hk : v.hashKey? objectText = some k) (hl : w.hashKey? objectText = some l) :
    k.agree l = true := by
  cases hk.symm.trans (hashKey?_of_dyadic? hv)
  cases hl.symm.trans (hashKey?_of_dyadic? hw)
  exact HashKey.agree_ofDyadic_of_same h

theorem agree_of_moment_same {m n : Moment} (h : m.same n = true)
    (hk : (moment m : Value α).hashKey? objectText = some k)
    (hl : (moment n : Value α).hashKey? objectText = some l) : k.agree l = true := by
  cases hk
  cases hl
  unfold Moment.same at h
  split at h
  · next x y hx hy => simpa [hx, hy, HashKey.agree] using h
  · next hx hy => simpa [hx, hy, HashKey.agree] using h
  · cases h

theorem agree_of_float_same {x y : Binary64} (h : x.same y = true)
    (hk : (float x : Value α).hashKey? objectText = some k)
    (hl : (float y : Value α).hashKey? objectText = some l) : k.agree l = true := by
  unfold Binary64.same at h
  split at h
  · cases hk
    cases hl
    simp_all [HashKey.agree]
  · split at h
    · next hx hy => exact agree_of_dyadic? (v := float x) (w := float y) hx hy h hk hl
    · cases h

variable [BEq α]

theorem agree_of_sameScalar [LawfulBEq α] (h : v.sameScalar w = true)
    (hk : v.hashKey? objectText = some k) (hl : w.hashKey? objectText = some l) :
    k.agree l = true := by
  unfold sameScalar at h
  split at h
  case h_5 => exact agree_of_moment_same h hk hl
  case h_7 => exact agree_of_float_same h hk hl
  case h_8 =>
    split at h
    · next hv hw => exact agree_of_dyadic? hv hw h hk hl
    · cases h
  case h_2 =>
    cases hk
    cases hl
    exact HashKey.agree_ofText.mpr (eq_of_beq h)
  -- The other kinds are equal only if they are the same.
  all_goals
    cases hk
    cases hl
    simp_all [HashKey.agree, HashKey.agreeAll]

theorem agree_whole [LawfulBEq α] {n : Whole} (h : (whole n).sameScalar v = true)
    (hk : v.hashKey? objectText = some k) : (HashKey.ofInt n.val).agree k = true := by
  refine agree_of_sameScalar h ?_ hk
  cases n with
  | int i => rfl
  | truth b => cases b <;> rfl

theorem agreeAll_of_sameAsSpan [LawfulBEq α] {s : Span} {ys : List (Value α)} {ls : List HashKey}
    (h : sameAsSpan s ys = true) (hl : hashKeys? objectText ys = some ls) :
    HashKey.agreeAll [.ofInt s.start, .ofInt s.size] ls = true := by
  unfold sameAsSpan at h
  split at h
  · next x y =>
    rw [Bool.and_eq_true] at h
    obtain ⟨kx, _, hx, hrest, rfl⟩ := hashKeys?_cons_eq_some.mp hl
    obtain ⟨ky, _, hy, hnil, rfl⟩ := hashKeys?_cons_eq_some.mp hrest
    cases hnil
    simp [HashKey.agreeAll, Span.start, Span.size, agree_whole h.1 hx, agree_whole h.2 hy]
  · cases h

mutual

/-- Equal values have agreeing keys, if they have keys at all. -/
theorem agree_of_same [LawfulBEq α] : ∀ {v w : Value α} {k l : HashKey}, v.same w = true →
    v.hashKey? objectText = some k → w.hashKey? objectText = some l → k.agree l = true := by
  intro v w k l h hk hl
  unfold same at h
  split at h
  -- Lists, mappings and sets have no key; a span has the key of the pair of its coordinates.
  · cases hk
  · next xs ys =>
    obtain ⟨ks, hks, rfl⟩ := Option.map_eq_some_iff.mp hk
    obtain ⟨ls, hls, rfl⟩ := Option.map_eq_some_iff.mp hl
    simpa [HashKey.agree] using agreeAll_of_sameItems h hks hls
  · next s t =>
    cases hk
    cases hl
    simp_all [HashKey.agree, HashKey.agreeAll]
  · next s ys =>
    cases hk
    obtain ⟨ls, hls, rfl⟩ := Option.map_eq_some_iff.mp hl
    simpa [HashKey.agree] using agreeAll_of_sameAsSpan h hls
  · next xs t =>
    obtain ⟨ks, hks, rfl⟩ := Option.map_eq_some_iff.mp hk
    cases hl
    simpa [HashKey.agree] using HashKey.agreeAll_symm (agreeAll_of_sameAsSpan h hks)
  · cases hk
  · cases hk
  · exact agree_of_sameScalar h hk hl

theorem agreeAll_of_sameItems [LawfulBEq α] : ∀ {xs ys : List (Value α)} {ks ls : List HashKey},
    sameItems xs ys = true → hashKeys? objectText xs = some ks → hashKeys? objectText ys = some ls →
    HashKey.agreeAll ks ls = true := by
  intro xs ys ks ls h hk hl
  unfold sameItems at h
  split at h
  · cases hk
    cases hl
    rfl
  · next x xs y ys =>
    rw [Bool.and_eq_true] at h
    obtain ⟨kx, ks, hx, hxs, rfl⟩ := hashKeys?_cons_eq_some.mp hk
    obtain ⟨ky, ls, hy, hys, rfl⟩ := hashKeys?_cons_eq_some.mp hl
    rw [HashKey.agreeAll, agree_of_same h.1 hx hy, agreeAll_of_sameItems h.2 hxs hys, Bool.and_self]
  · cases h

end

end Value

end RuleTree
