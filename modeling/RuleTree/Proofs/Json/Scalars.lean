import Mathlib.Tactic.IntervalCases
import RuleTree.Json.Reader
import RuleTree.Json.Writer

/-!
# Written texts and numbers

What the writer makes of a text or of an integer, the reader takes back. Characters are read back one
by one: those written as themselves, by a short escape, by one UTF-16 unit, or by two. A unit that
stands for a character of its own never opens a pair, so what is written behind it does not matter.
-/

namespace RuleTree

/-! ## Digits -/

namespace Number

/-- The value of a row of digits; no digits have the value zero. -/
def digitsIn? (base : Nat) (t : List Char) : Option Nat :=
  t.foldl (fun acc c => acc.bind fun n => (digitIn? base c).map (n * base + ·)) (some 0)

theorem natIn?_of_ne_nil {base : Nat} {t : List Char} (h : t ≠ []) :
    natIn? base t = digitsIn? base t :=
  if_neg h

theorem digitIn?_digitChar {base d : Nat} (hd : d < base) (hbase : base ≤ 16) :
    digitIn? base (Nat.digitChar d) = some d := by
  have hlt : d < 16 := by omega
  unfold digitIn?
  interval_cases d <;> exact if_pos hd

/-- A further digit multiplies the value of those before it by the base. -/
theorem digitsIn?_concat {base n d : Nat} {t : List Char} (ht : digitsIn? base t = some n)
    (hd : d < base) (hbase : base ≤ 16) :
    digitsIn? base (t ++ [Nat.digitChar d]) = some (n * base + d) := by
  rw [digitsIn?, List.foldl_append]
  rw [digitsIn?] at ht
  rw [ht, List.foldl_cons, List.foldl_nil, Option.bind_some, digitIn?_digitChar hd hbase]
  rfl

theorem digitsIn?_hexDigits (width n : Nat) :
    digitsIn? 16 (Text.hexDigits n width) = some (n % 16 ^ width) := by
  induction width generalizing n with
  | zero => rw [Nat.pow_zero, Nat.mod_one]; rfl
  | succ width ih =>
    have hdigit : n % 16 < 16 := Nat.mod_lt n (by decide)
    rw [Text.hexDigits, Text.hexDigit, digitsIn?_concat (ih (n / 16)) hdigit (Nat.le_refl 16),
      Nat.pow_succ', Nat.mod_mul]
    congr 1
    omega

theorem digitsIn?_toDigits (n : Nat) : digitsIn? 10 (Nat.toDigits 10 n) = some n := by
  induction n using Nat.strongRecOn with
  | ind n ih =>
    by_cases hn : n < 10
    · rw [Nat.toDigits_of_lt_base hn]
      have hnil : digitsIn? 10 [] = some 0 := rfl
      have hone := digitsIn?_concat hnil hn (by decide)
      rwa [List.nil_append, Nat.zero_mul, Nat.zero_add] at hone
    · have hdigit : n % 10 < 10 := Nat.mod_lt n (by decide)
      rw [Nat.toDigits_of_base_le (by decide) (by omega),
        digitsIn?_concat (ih (n / 10) (by omega)) hdigit (by decide)]
      congr 1
      omega

theorem natIn?_toDigits (n : Nat) : natIn? 10 (Nat.toDigits 10 n) = some n := by
  rw [natIn?_of_ne_nil Nat.toDigits_ne_nil, digitsIn?_toDigits]

/-- Only zero is written with a leading zero. -/
theorem toDigits_head {n : Nat} (hn : n ≠ 0) : (Nat.toDigits 10 n).head? ≠ some '0' := by
  induction n using Nat.strongRecOn with
  | ind n ih =>
    by_cases hlt : n < 10
    · rw [Nat.toDigits_of_lt_base hlt]
      interval_cases n
      · exact absurd rfl hn
      all_goals decide
    · rw [Nat.toDigits_of_base_le (by decide) (by omega), List.head?_append]
      have hhead := ih (n / 10) (by omega) (by omega)
      cases hc : (Nat.toDigits 10 (n / 10)).head? with
      | none => exact absurd (List.head?_eq_none_iff.mp hc) Nat.toDigits_ne_nil
      | some c => rwa [hc] at hhead

end Number

namespace Json

/-! ## Texts -/

theorem hex4?_hexDigits {x : Nat} (hx : x < 0x10000) :
    ∃ a b c d, Text.hexDigits x 4 = [a, b, c, d] ∧ hex4? a b c d = some x := by
  refine ⟨_, _, _, _, rfl, ?_⟩
  refine (Number.digitsIn?_hexDigits 4 x).trans ?_
  exact congrArg some (Nat.mod_eq_of_lt hx)

/-- The character goes in front of what is read behind it. -/
def prepend (c : Char) (p : Text × Text) : Text × Text := (c :: p.1, p.2)

theorem readText_plain {c : Char} (hquote : c ≠ '"') (hslash : c ≠ '\\') (hc : 32 ≤ c.toNat)
    (rest : Text) : readText (c :: rest) = (readText rest).map (prepend c) := by
  have hcond : (decide (c = '\\') || decide (c.toNat < 32)) = false := by
    simp only [hslash, decide_false, Bool.false_or, decide_eq_false_iff_not]
    omega
  rw [readText.eq_6 c rest hquote (fun _ _ _ _ _ _ _ _ _ h _ => hslash h)
    (fun _ _ _ _ _ h _ => hslash h) (fun _ _ h _ => hslash h), hcond]
  cases readText rest <;> rfl

theorem readText_short {c x : Char} (hc : c ≠ 'u') (hx : shortEscape? c = some x) (rest : Text) :
    readText ('\\' :: c :: rest) = (readText rest).map (prepend x) := by
  rw [readText.eq_5 c rest (fun _ _ _ _ _ _ _ _ _ h _ => hc h) (fun _ _ _ _ _ h _ => hc h), hx]
  cases readText rest <;> rfl

/-- Four characters that are not all digits make the text unreadable, whatever follows. -/
theorem readText_unit_none {a b c d : Char} (h : hex4? a b c d = none) (rest : Text) :
    readText ('\\' :: 'u' :: a :: b :: c :: d :: rest) = none := by
  by_cases hpair : ∃ a' b' c' d' more, rest = '\\' :: 'u' :: a' :: b' :: c' :: d' :: more
  · obtain ⟨a', b', c', d', more, rfl⟩ := hpair
    rw [readText.eq_3, h]
    rfl
  · rw [readText.eq_4 a b c d rest fun a' b' c' d' more he => hpair ⟨a', b', c', d', more, he⟩, h]
    rfl

theorem readText_unit {a b c d : Char} {x : Nat} (h : hex4? a b c d = some x)
    (hx : isHighUnit x = false) (rest : Text) :
    readText ('\\' :: 'u' :: a :: b :: c :: d :: rest) =
      (readText rest).map (prepend (Char.ofNat x)) := by
  by_cases hpair : ∃ a' b' c' d' more, rest = '\\' :: 'u' :: a' :: b' :: c' :: d' :: more
  · -- The reader looks ahead for the second half of a pair. If it finds no unit there, it fails at
    -- once, as it would have failed on coming to that place.
    obtain ⟨a', b', c', d', more, rfl⟩ := hpair
    cases hy : hex4? a' b' c' d' with
    | none =>
      rw [readText.eq_3, h, hy, readText_unit_none hy]
      rfl
    | some y =>
      rw [readText.eq_3, h, hy]
      simp only [Option.bind_eq_bind, Option.bind_some, hx, Bool.false_and, Bool.false_eq_true,
        ↓reduceIte]
      cases readText ('\\' :: 'u' :: a' :: b' :: c' :: d' :: more) <;> rfl
  · rw [readText.eq_4 a b c d rest fun a' b' c' d' more he => hpair ⟨a', b', c', d', more, he⟩, h]
    cases readText rest <;> rfl

theorem readText_pair {a b c d a' b' c' d' : Char} {x y : Nat} (hx : hex4? a b c d = some x)
    (hy : hex4? a' b' c' d' = some y) (hhigh : isHighUnit x = true) (hlow : isLowUnit y = true)
    (rest : Text) :
    readText ('\\' :: 'u' :: a :: b :: c :: d :: '\\' :: 'u' :: a' :: b' :: c' :: d' :: rest) =
      (readText rest).map (prepend (Char.ofNat (joinUnits x y))) := by
  rw [readText.eq_3, hx, hy]
  simp only [Option.bind_eq_bind, Option.bind_some, hhigh, hlow, Bool.and_self, ↓reduceIte]
  cases readText rest <;> rfl

theorem readText_unitEscape {c : Char} (hc : c.toNat < 0x10000) (rest : Text) :
    readText (unitEscape c.toNat ++ rest) = (readText rest).map (prepend c) := by
  obtain ⟨a, b, c', d, hdigits, hx⟩ := hex4?_hexDigits hc
  -- Surrogates are not characters.
  have hhigh : isHighUnit c.toNat = false := by
    have hvalid : c.toNat < 0xd800 ∨ (0xdfff < c.toNat ∧ c.toNat < 0x110000) := c.valid
    simp only [isHighUnit, Bool.and_eq_false_iff, decide_eq_false_iff_not]
    omega
  rw [unitEscape, hdigits]
  refine (readText_unit hx hhigh rest).trans ?_
  rw [Char.ofNat_toNat]

/-- A character beyond the first plane is written by two units and read back from both. -/
theorem readText_unitEscapes {c : Char} (hc : 0x10000 ≤ c.toNat) (rest : Text) :
    readText (unitEscape (0xd800 + (c.toNat - 0x10000) / 0x400) ++
        unitEscape (0xdc00 + (c.toNat - 0x10000) % 0x400) ++ rest) =
      (readText rest).map (prepend c) := by
  have hvalid : c.toNat < 0xd800 ∨ (0xdfff < c.toNat ∧ c.toNat < 0x110000) := c.valid
  obtain ⟨a, b, e, d, hhi, hx⟩ := hex4?_hexDigits
    (show 0xd800 + (c.toNat - 0x10000) / 0x400 < 0x10000 by omega)
  obtain ⟨a', b', e', d', hlo, hy⟩ := hex4?_hexDigits
    (show 0xdc00 + (c.toNat - 0x10000) % 0x400 < 0x10000 by omega)
  rw [unitEscape, unitEscape, hhi, hlo]
  refine (readText_pair hx hy ?_ ?_ rest).trans ?_
  · simp only [isHighUnit, Bool.and_eq_true, decide_eq_true_eq]
    omega
  · simp only [isLowUnit, Bool.and_eq_true, decide_eq_true_eq]
    omega
  · have hjoin : joinUnits (0xd800 + (c.toNat - 0x10000) / 0x400)
        (0xdc00 + (c.toNat - 0x10000) % 0x400) = c.toNat := by
      unfold joinUnits
      omega
    rw [hjoin, Char.ofNat_toNat]

/-- Each character is read back from what is written for it. -/
theorem readText_escapeChar (c : Char) (rest : Text) :
    readText (escapeChar c ++ rest) = (readText rest).map (prepend c) := by
  unfold escapeChar
  split_ifs with hquote hslash hn hr ht hb hf hplain hunit
  · subst hquote
    exact readText_short (by decide) rfl rest
  · subst hslash
    exact readText_short (by decide) rfl rest
  · subst hn
    exact readText_short (by decide) rfl rest
  · subst hr
    exact readText_short (by decide) rfl rest
  · subst ht
    exact readText_short (by decide) rfl rest
  · rw [← Char.ofNat_toNat c, hb]
    exact readText_short (by decide) rfl rest
  · rw [← Char.ofNat_toNat c, hf]
    exact readText_short (by decide) rfl rest
  · exact readText_plain hquote hslash hplain.1 rest
  · exact readText_unitEscape hunit rest
  · exact readText_unitEscapes (by omega) rest

theorem readText_escaped (s rest : Text) :
    readText (s.flatMap escapeChar ++ '"' :: rest) = some (s, rest) := by
  induction s with
  | nil => exact readText.eq_2 rest
  | cons c s ih =>
    rw [List.flatMap_cons, List.append_assoc, readText_escapeChar, ih]
    rfl

/-! ## Integers -/

/-- Nothing that could continue a number stands at the front. -/
def Ends (rest : Text) : Prop :=
  ∀ c, rest.head? = some c → isSpace c = true ∨ c = ',' ∨ c = ']' ∨ c = '\x7d'

theorem Ends.not_continues {c : Char} {rest : Text} (h : Ends (c :: rest)) :
    c.isDigit = false ∧ c ≠ '.' ∧ c ≠ 'e' ∧ c ≠ 'E' := by
  have hc := h c rfl
  simp only [isSpace, Bool.or_eq_true, decide_eq_true_eq] at hc
  rcases hc with ((((rfl | rfl) | rfl) | rfl) | rfl | rfl | rfl) <;> decide

theorem splitDigits_append {ds rest : Text} (hds : ∀ c ∈ ds, c.isDigit = true) (hrest : Ends rest) :
    splitDigits (ds ++ rest) = (ds, rest) := by
  rw [splitDigits, List.takeWhile_append_of_pos hds, List.dropWhile_append_of_pos hds]
  cases rest with
  | nil => rw [List.takeWhile_nil, List.dropWhile_nil, List.append_nil]
  | cons c rest =>
    have hc : ¬ c.isDigit = true := by rw [hrest.not_continues.1]; exact Bool.false_ne_true
    rw [List.takeWhile_cons_of_neg hc, List.dropWhile_cons_of_neg hc, List.append_nil]

theorem fractionDigits_of_ends {rest : Text} (h : Ends rest) :
    fractionDigits rest = ([], rest) := by
  unfold fractionDigits
  split
  · exact absurd rfl h.not_continues.2.1
  · rfl

theorem exponentDigits_of_ends {rest : Text} (h : Ends rest) :
    exponentDigits rest = (none, rest) := by
  unfold exponentDigits
  split
  · next c more =>
    obtain ⟨_, _, he, hE⟩ := h.not_continues
    simp only [he, hE, decide_false, Bool.or_self, Bool.false_eq_true, ↓reduceIte]
  · rfl

theorem toDigits_eq_cons (n : Nat) :
    ∃ d ds, Nat.toDigits 10 n = d :: ds ∧ ∀ c ∈ d :: ds, c.isDigit = true := by
  obtain ⟨d, ds, hds⟩ := List.exists_cons_of_ne_nil (Nat.toDigits_ne_nil (n := n) (b := 10))
  refine ⟨d, ds, hds, fun c hc => ?_⟩
  exact Nat.isDigit_of_mem_toDigits (by decide) (by decide) (hds ▸ hc)

theorem wholeDigits?_toDigits (n : Nat) {rest : Text} (h : Ends rest) :
    wholeDigits? (Nat.toDigits 10 n ++ rest) = some (Nat.toDigits 10 n, rest) := by
  obtain ⟨d, ds, hds, hdigits⟩ := toDigits_eq_cons n
  have hsplit := splitDigits_append hdigits h
  by_cases hn : n = 0
  · subst hn
    rfl
  · have hd : d ≠ '0' := by
      have hhead := Number.toDigits_head hn
      rw [hds] at hhead
      exact fun he => hhead (congrArg some he)
    rw [hds]
    unfold wholeDigits?
    split
    · next he => exact absurd (List.cons.inj he).1 hd
    · rw [hsplit]

theorem dropWord?_of_head_ne {w c : Char} (h : w ≠ c) (word t : Text) :
    dropWord? (w :: word) (c :: t) = none := by
  simp only [dropWord?, List.isPrefixOf_cons_cons, beq_false_of_ne h, Bool.false_and,
    Bool.false_eq_true, ↓reduceIte]

/-- A sign, if there is one, and digits. -/
def signedDigits (negative : Bool) (n : Nat) : Text :=
  (if negative then ['-'] else []) ++ Nat.toDigits 10 n

theorem readNumber_signedDigits (negative : Bool) (n : Nat) {rest : Text} (h : Ends rest) :
    readNumber (signedDigits negative n ++ rest) = some (.int (Number.signed negative n), rest) := by
  obtain ⟨d, ds, hds, hdigits⟩ := toDigits_eq_cons n
  have hd : ∀ c : Char, c.isDigit = false → c ≠ d := by
    rintro c hc rfl
    rw [hdigits c List.mem_cons_self] at hc
    cases hc
  have hbody : ∀ more, Nat.toDigits 10 n ++ rest ≠ '-' :: more := by
    rw [hds]
    exact fun more he => hd '-' rfl (List.cons.inj he).1.symm
  have hword : dropWord? "Infinity".toList (Nat.toDigits 10 n ++ rest) = none := by
    rw [hds]
    exact dropWord?_of_head_ne (hd 'I' rfl) _ _
  -- With a sign the first character is dropped, without one `hbody` says that there is none to drop.
  cases negative <;>
  · simp only [signedDigits, readNumber, Bool.false_eq_true, ↓reduceIte, List.cons_append,
      List.nil_append, hword, wholeDigits?_toDigits n h, fractionDigits_of_ends h,
      exponentDigits_of_ends h, List.append_nil, Number.natIn?_toDigits, Option.bind_eq_bind,
      Option.bind_some, decide_true, Option.isNone_none, Bool.and_self]
    rfl

theorem toString_int_toList (i : Int) :
    (toString i).toList = signedDigits (decide (i < 0)) i.natAbs := by
  cases i with
  | ofNat n => exact Nat.toList_repr
  | negSucc n =>
    rw [decide_eq_true (Int.negSucc_lt_zero n)]
    change ("-" ++ (n + 1).repr).toList = _
    rw [String.toList_append, Nat.toList_repr]
    rfl

theorem signed_natAbs (i : Int) : Number.signed (decide (i < 0)) i.natAbs = i := by
  unfold Number.signed
  split
  · next h =>
    have hneg := of_decide_eq_true h
    omega
  · next h =>
    have hpos := of_decide_eq_false (Bool.eq_false_iff.mpr h)
    omega

/-- A number starts with a minus or with a digit, and with no other character. -/
theorem signedDigits_eq_cons (negative : Bool) (n : Nat) :
    ∃ c more, signedDigits negative n = c :: more ∧
      ∀ w : Char, w ≠ '-' → w.isDigit = false → w ≠ c := by
  obtain ⟨d, ds, hds, hdigits⟩ := toDigits_eq_cons n
  cases negative with
  | true => exact ⟨'-', Nat.toDigits 10 n, rfl, fun w hw _ => hw⟩
  | false =>
    refine ⟨d, ds, hds, ?_⟩
    rintro w _ hw rfl
    rw [hdigits w List.mem_cons_self] at hw
    cases hw

theorem readWord_int (i : Int) {rest : Text} (h : Ends rest) :
    readWord ((toString i).toList ++ rest) = some (.int i, rest) := by
  have hnumber := readNumber_signedDigits (decide (i < 0)) i.natAbs h
  rw [signed_natAbs] at hnumber
  rw [toString_int_toList]
  obtain ⟨c, more, hc, hfirst⟩ := signedDigits_eq_cons (decide (i < 0)) i.natAbs
  have hdrop : ∀ (w : Char) (word : Text), w ≠ '-' → w.isDigit = false →
      dropWord? (w :: word) (signedDigits (decide (i < 0)) i.natAbs ++ rest) = none := by
    intro w word hw hdigit
    rw [hc]
    exact dropWord?_of_head_ne (hfirst w hw hdigit) _ _
  have hnull : dropWord? "null".toList _ = none := hdrop 'n' _ (by decide) rfl
  have htrue : dropWord? "true".toList _ = none := hdrop 't' _ (by decide) rfl
  have hfalse : dropWord? "false".toList _ = none := hdrop 'f' _ (by decide) rfl
  have hnan : dropWord? "NaN".toList _ = none := hdrop 'N' _ (by decide) rfl
  rw [readWord, hnull, htrue, hfalse, hnan, hnumber]

end Json

end RuleTree
