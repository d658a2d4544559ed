import RuleTree.Proofs.Json.Scalars

/-!
# Reading back what was written

A JSON value that is written in either layout is read back as it was, whatever stands behind it. This
needs every object to have distinct member names, since of two members of one name the reader keeps
one. Values with doubles are left out: how doubles are written is not treated here.

The reader runs on fuel. As much of it as there are characters is enough, because every nested value
and every further item is preceded by a character of its own.
-/

namespace RuleTree.Json

/-- The value holds no doubles, and no object in it has two members of one name. -/
inductive Exact : Json → Prop
  | null : Exact .null
  | bool (b : Bool) : Exact (.bool b)
  | int (i : Int) : Exact (.int i)
  | str (s : String) : Exact (.str s)
  | arr {items : List Json} : (∀ x ∈ items, Exact x) → Exact (.arr items)
  | obj {members : List (String × Json)} : (members.map Prod.fst).Nodup →
      (∀ m ∈ members, Exact m.2) → Exact (.obj members)

/-! ## Blanks -/

def Blank (t : Text) : Prop := ∀ c ∈ t, isSpace c = true

theorem skipSpace_append {blanks : Text} (h : Blank blanks) (t : Text) :
    skipSpace (blanks ++ t) = skipSpace t :=
  List.dropWhile_append_of_pos h

theorem skipSpace_cons {c : Char} (h : isSpace c = false) (t : Text) :
    skipSpace (c :: t) = c :: t :=
  List.dropWhile_cons_of_neg (by rw [h]; exact Bool.false_ne_true)

/-- Behind blanks, the reader finds a character that is none. -/
theorem skipSpace_blank_cons {blanks : Text} (h : Blank blanks) {c : Char} (hc : isSpace c = false)
    (t : Text) : skipSpace (blanks ++ c :: t) = c :: t := by
  rw [skipSpace_append h, skipSpace_cons hc]

/-- Items are separated by a comma, and by blanks from it and from the brackets. -/
structure Breaks.Neat (b : Breaks) (blanks : Text) : Prop where
  first : Blank b.first
  between : b.between = ',' :: blanks
  blanks : Blank blanks
  last : Blank b.last

theorem Breaks.Neat.between_length_pos {b : Breaks} {blanks : Text} (h : b.Neat blanks) :
    0 < b.between.length := by
  rw [h.between]
  exact Nat.succ_pos _

theorem Layout.breaks_neat (layout : Layout) (depth : Nat) :
    ∃ blanks, (layout.breaks depth).Neat blanks := by
  cases layout with
  | compact =>
    refine ⟨[' '], ⟨?_, rfl, ?_, ?_⟩⟩ <;> simp [Layout.breaks, Blank, isSpace]
  | pretty =>
    refine ⟨'\n' :: List.replicate (2 * (depth + 1)) ' ', ⟨?_, rfl, ?_, ?_⟩⟩ <;>
      simp [Layout.breaks, Blank, isSpace]

/-! ## What stands before and behind a value -/

theorem Ends.cons {c : Char} (hc : c = ',' ∨ c = ']' ∨ c = '\x7d') (rest : Text) :
    Ends (c :: rest) := by
  intro c' h
  cases h
  exact Or.inr hc

theorem Ends.blank_cons {blanks : Text} (h : Blank blanks) {c : Char}
    (hc : c = ',' ∨ c = ']' ∨ c = '\x7d') (rest : Text) : Ends (blanks ++ c :: rest) := by
  cases blanks with
  | nil => exact .cons hc rest
  | cons b blanks =>
    intro c' h'
    cases h'
    exact Or.inl (h b List.mem_cons_self)

theorem ends_nil : Ends [] := by
  intro c h
  cases h

/-- The text does not start with a blank, and not with a bracket that closes a container. -/
def Starts (t : Text) : Prop :=
  ∃ c more, t = c :: more ∧ isSpace c = false ∧ c ≠ ']' ∧ c ≠ '\x7d'

/-- Wherever the value is written, the reader finds it and stops behind it. -/
structure ReadsBack (layout : Layout) (j : Json) : Prop where
  starts : ∀ depth, Starts (j.write layout depth)
  read : ∀ (depth fuel : Nat) (rest : Text), (j.write layout depth).length ≤ fuel → Ends rest →
    readValue fuel (j.write layout depth ++ rest) = some (j, rest)

variable {layout : Layout} {depth fuel : Nat} {b : Breaks} {blanks : Text}

theorem ReadsBack.skipSpace_append {j : Json} (h : ReadsBack layout j) (hb : Blank blanks)
    (depth : Nat) (rest : Text) :
    skipSpace (blanks ++ (j.write layout depth ++ rest)) = j.write layout depth ++ rest := by
  obtain ⟨c, more, hc, hspace, _⟩ := h.starts depth
  rw [hc]
  exact skipSpace_blank_cons hb hspace _

/-! ## Items -/

/-- Items are read back up to the closing bracket. The induction is on the items behind the first. -/
theorem readItems_write (hb : b.Neat blanks) {x : Json} {xs : List Json}
    (hx : ReadsBack layout x) (hxs : ∀ y ∈ xs, ReadsBack layout y)
    (hfuel : (x.write layout depth).length + (writeItems layout depth b.between xs).length < fuel)
    (rest : Text) :
    readItems fuel (x.write layout depth ++
        (writeItems layout depth b.between xs ++ (b.last ++ ']' :: rest))) =
      some (x :: xs, rest) := by
  induction xs generalizing x fuel with
  | nil =>
    obtain ⟨fuel, rfl⟩ := Nat.exists_eq_succ_of_ne_zero (Nat.ne_zero_of_lt hfuel)
    rw [writeItems] at hfuel ⊢
    rw [List.nil_append, readItems,
      hx.read depth fuel _ (by omega) (.blank_cons hb.last (by simp) rest)]
    simp only [Option.bind_eq_bind, Option.bind_some,
      skipSpace_blank_cons hb.last (show isSpace ']' = false from rfl)]
    rfl
  | cons y ys ih =>
    obtain ⟨fuel, rfl⟩ := Nat.exists_eq_succ_of_ne_zero (Nat.ne_zero_of_lt hfuel)
    have hy := hxs y List.mem_cons_self
    have hlen : (writeItems layout depth b.between (y :: ys)).length = b.between.length +
        (y.write layout depth).length + (writeItems layout depth b.between ys).length := by
      rw [writeItems, List.length_append, List.length_append]
    have hcomma := hb.between_length_pos
    have hrest := ih hy (fun z hz => hxs z (List.mem_cons_of_mem _ hz))
      (show _ + _ < fuel by omega)
    rw [writeItems, hb.between, readItems]
    simp only [List.append_assoc, List.cons_append]
    rw [hx.read depth fuel _ (by omega) (.cons (Or.inl rfl) _)]
    simp only [Option.bind_eq_bind, Option.bind_some,
      skipSpace_cons (show isSpace ',' = false from rfl), hy.skipSpace_append hb.blanks depth]
    rw [← hb.between, hrest]
    rfl

/-! ## Members -/

/-- A member of a new name comes last. -/
theorem insertMember_of_not_mem {k : String} {ms : List (String × Json)}
    (h : k ∉ ms.map Prod.fst) (v : Json) : insertMember k v ms = ms ++ [(k, v)] := by
  induction ms with
  | nil => rfl
  | cons m ms ih =>
    rw [List.map_cons, List.mem_cons, not_or] at h
    rw [insertMember, if_neg (Ne.symm h.1), ih h.2, List.cons_append]

theorem not_mem_of_nodup {k : String} {v : Json} {before ms : List (String × Json)}
    (h : ((before ++ (k, v) :: ms).map Prod.fst).Nodup) : k ∉ before.map Prod.fst := by
  rw [List.map_append, List.map_cons] at h
  exact fun hk => (List.nodup_append.mp h).2.2 k hk k List.mem_cons_self rfl

/-- A member as it is written, with what follows it. -/
theorem quote_append (k : String) (rest : Text) :
    quote k ++ rest = '"' :: (k.toList.flatMap escapeChar ++ '"' :: rest) := by
  rw [quote, List.cons_append, List.cons_append, List.append_assoc, List.singleton_append]

theorem skipSpace_quote (hb : Blank blanks) (k : String) (rest : Text) :
    skipSpace (blanks ++ (quote k ++ rest)) = quote k ++ rest := by
  rw [quote_append]
  exact skipSpace_blank_cons hb rfl _

/-- One member is read back; what stands behind it decides how to go on. -/
theorem readMembers_succ {k : String} {v : Json} (hv : ReadsBack layout v)
    (hfuel : (v.write layout depth).length ≤ fuel) (before : List (String × Json)) {tail : Text}
    (htail : Ends tail) :
    readMembers (fuel + 1) (quote k ++ ':' :: ' ' :: (v.write layout depth ++ tail)) before =
      match skipSpace tail with
      | '\x7d' :: r => some (insertMember k v before, r)
      | ',' :: r => readMembers fuel (skipSpace r) (insertMember k v before)
      | _ => none := by
  have hblank : Blank [' '] := by simp [Blank, isSpace]
  have hvalue : skipSpace (' ' :: (v.write layout depth ++ tail)) = v.write layout depth ++ tail :=
    hv.skipSpace_append hblank depth tail
  rw [quote_append, readMembers, readText_escaped]
  simp only [Option.bind_eq_bind, Option.bind_some,
    skipSpace_cons (show isSpace ':' = false from rfl), hvalue,
    hv.read depth fuel tail hfuel htail, String.ofList_toList]
  rfl

/-- Members are read back up to the closing brace, and put behind those before. The induction is on
the members behind the first. -/
theorem readMembers_write (hb : b.Neat blanks) {k : String} {v : Json} {ms : List (String × Json)}
    {before : List (String × Json)} (hv : ReadsBack layout v)
    (hms : ∀ m ∈ ms, ReadsBack layout m.2)
    (hnodup : ((before ++ (k, v) :: ms).map Prod.fst).Nodup)
    (hfuel : (v.write layout depth).length + (writeMembers layout depth b.between ms).length < fuel)
    (rest : Text) :
    readMembers fuel (quote k ++ ':' :: ' ' :: (v.write layout depth ++
        (writeMembers layout depth b.between ms ++ (b.last ++ '\x7d' :: rest)))) before =
      some (before ++ (k, v) :: ms, rest) := by
  induction ms generalizing k v before fuel with
  | nil =>
    obtain ⟨fuel, rfl⟩ := Nat.exists_eq_succ_of_ne_zero (Nat.ne_zero_of_lt hfuel)
    rw [writeMembers, List.nil_append,
      readMembers_succ hv (by omega) before (.blank_cons hb.last (by simp) rest),
      skipSpace_blank_cons hb.last rfl, insertMember_of_not_mem (not_mem_of_nodup hnodup)]
    rfl
  | cons m ms ih =>
    obtain ⟨fuel, rfl⟩ := Nat.exists_eq_succ_of_ne_zero (Nat.ne_zero_of_lt hfuel)
    obtain ⟨k', v'⟩ := m
    have hlen : (writeMembers layout depth b.between ((k', v') :: ms)).length =
        b.between.length + (quote k').length + (2 + (v'.write layout depth).length) +
          (writeMembers layout depth b.between ms).length := by
      simp only [writeMembers, List.length_append, List.length_cons]
      omega
    have hcomma := hb.between_length_pos
    have hv' : ReadsBack layout v' := hms (k', v') List.mem_cons_self
    have hrest := ih hv' (fun m hm => hms m (List.mem_cons_of_mem _ hm))
      (show ((before ++ [(k, v)] ++ (k', v') :: ms).map Prod.fst).Nodup by
        rwa [List.append_assoc]) (show _ + _ < fuel by omega)
    rw [writeMembers, hb.between]
    simp only [List.append_assoc, List.cons_append]
    rw [readMembers_succ hv (by omega) before (.cons (Or.inl rfl) _), skipSpace_cons rfl,
      insertMember_of_not_mem (not_mem_of_nodup hnodup)]
    simp only [skipSpace_quote hb.blanks]
    rw [← hb.between, hrest, List.append_assoc, List.singleton_append]

/-! ## Values -/

/-- Blanks, the quote and the brackets. No word and no number starts with one of them. -/
def marks : List Char := [' ', '\t', '\n', '\r', '"', '[', ']', '\x7b', '\x7d']

theorem isSpace_of_not_mem_marks {c : Char} (h : c ∉ marks) : isSpace c = false := by
  simp only [marks, List.mem_cons, not_or] at h
  simp only [isSpace, h, decide_false, Bool.or_self]

theorem readValue_word {c : Char} {t : Text} (hc : c ∉ marks) (hfuel : fuel ≠ 0) :
    readValue fuel (c :: t) = readWord (c :: t) := by
  obtain ⟨fuel, rfl⟩ := Nat.exists_eq_succ_of_ne_zero hfuel
  have hne : ∀ w ∈ marks, ∀ rest, c :: t ≠ w :: rest := by
    rintro w hw rest he
    rw [(List.cons.inj he).1] at hc
    exact hc hw
  rw [readValue]
  · exact hne '"' (by decide)
  · exact hne '[' (by decide)
  · exact hne '\x7b' (by decide)

namespace ReadsBack

/-- A value that is written as one word or number, at any depth, and read back from it. -/
theorem of_word {j : Json} {c : Char} {word : Text}
    (hwrite : ∀ depth, j.write layout depth = c :: word) (hc : c ∉ marks)
    (hread : ∀ rest, Ends rest → readWord (c :: word ++ rest) = some (j, rest)) :
    ReadsBack layout j := by
  constructor
  · intro depth
    refine ⟨c, word, hwrite depth, isSpace_of_not_mem_marks hc, ?_, ?_⟩
    · rintro rfl
      exact hc (by decide)
    · rintro rfl
      exact hc (by decide)
  · intro depth fuel rest hfuel hrest
    rw [hwrite] at hfuel ⊢
    rw [List.length_cons] at hfuel
    rw [List.cons_append, readValue_word hc (by omega)]
    exact hread rest hrest

theorem null : ReadsBack layout .null :=
  of_word (fun _ => rfl) (by decide) fun _ _ => rfl

theorem bool (b : Bool) : ReadsBack layout (.bool b) := by
  cases b with
  | true => exact of_word (fun _ => rfl) (by decide) fun _ _ => rfl
  | false => exact of_word (fun _ => rfl) (by decide) fun _ _ => rfl

theorem int (i : Int) : ReadsBack layout (.int i) := by
  obtain ⟨c, more, hc, hfirst⟩ := signedDigits_eq_cons (decide (i < 0)) i.natAbs
  have hwrite : (toString i).toList = c :: more := (toString_int_toList i).trans hc
  have hmarks : ∀ w ∈ marks, w ≠ '-' ∧ w.isDigit = false := by
    intro w hw
    simp only [marks, List.mem_cons, List.not_mem_nil, or_false] at hw
    rcases hw with rfl | rfl | rfl | rfl | rfl | rfl | rfl | rfl | rfl <;> decide
  refine of_word (fun _ => hwrite) (fun hmem => ?_) fun rest hrest => ?_
  · exact hfirst c (hmarks c hmem).1 (hmarks c hmem).2 rfl
  · rw [← hwrite]
    exact readWord_int i hrest

theorem str (s : String) : ReadsBack layout (.str s) := by
  constructor
  · exact fun depth => ⟨'"', _, rfl, rfl, by decide, by decide⟩
  · intro depth fuel rest hfuel _
    simp only [write, quote, List.cons_append, List.length_cons] at hfuel
    obtain ⟨fuel, rfl⟩ := Nat.exists_eq_succ_of_ne_zero (Nat.ne_zero_of_lt hfuel)
    rw [write, quote_append, readValue, readText_escaped]
    simp only [Option.bind_eq_bind, Option.bind_some, String.ofList_toList]
    rfl

theorem arr {items : List Json} (h : ∀ x ∈ items, ReadsBack layout x) :
    ReadsBack layout (.arr items) := by
  constructor
  · intro depth
    cases items with
    | nil => exact ⟨'[', _, rfl, rfl, by decide, by decide⟩
    | cons x xs => exact ⟨'[', _, rfl, rfl, by decide, by decide⟩
  · intro depth fuel rest hfuel _
    cases items with
    | nil =>
      obtain ⟨fuel, rfl⟩ := Nat.exists_eq_succ_of_ne_zero (Nat.ne_zero_of_lt hfuel)
      rfl
    | cons x xs =>
      simp only [write, List.length_append, List.length_cons] at hfuel
      obtain ⟨fuel, rfl⟩ := Nat.exists_eq_succ_of_ne_zero (show fuel ≠ 0 by omega)
      obtain ⟨blanks, hb⟩ := layout.breaks_neat depth
      have hx := h x List.mem_cons_self
      have hlen : (x.write layout (depth + 1)).length +
          (writeItems layout (depth + 1) (layout.breaks depth).between xs).length < fuel := by
        omega
      have hitems := readItems_write hb hx (fun y hy => h y (List.mem_cons_of_mem _ hy)) hlen rest
      obtain ⟨c, more, hc, _, hclose, _⟩ := hx.starts (depth + 1)
      simp only [write, List.cons_append, List.append_assoc, List.nil_append]
      rw [readValue, hx.skipSpace_append hb.first]
      split
      · next hempty =>
        rw [hc] at hempty
        exact absurd (List.cons.inj hempty).1 hclose
      · rw [hitems]
        rfl

theorem obj {members : List (String × Json)} (hnodup : (members.map Prod.fst).Nodup)
    (h : ∀ m ∈ members, ReadsBack layout m.2) : ReadsBack layout (.obj members) := by
  constructor
  · intro depth
    cases members with
    | nil => exact ⟨'\x7b', _, rfl, rfl, by decide, by decide⟩
    | cons m ms => exact ⟨'\x7b', _, rfl, rfl, by decide, by decide⟩
  · intro depth fuel rest hfuel _
    cases members with
    | nil =>
      obtain ⟨fuel, rfl⟩ := Nat.exists_eq_succ_of_ne_zero (Nat.ne_zero_of_lt hfuel)
      rfl
    | cons m ms =>
      obtain ⟨k, v⟩ := m
      simp only [write, List.length_append, List.length_cons] at hfuel
      obtain ⟨fuel, rfl⟩ := Nat.exists_eq_succ_of_ne_zero (show fuel ≠ 0 by omega)
      obtain ⟨blanks, hb⟩ := layout.breaks_neat depth
      have hv : ReadsBack layout v := h (k, v) List.mem_cons_self
      have hlen : (v.write layout (depth + 1)).length +
          (writeMembers layout (depth + 1) (layout.breaks depth).between ms).length < fuel := by
        omega
      have hnodup : (([] ++ (k, v) :: ms).map Prod.fst).Nodup := hnodup
      have hmembers := readMembers_write hb hv (fun m hm => h m (List.mem_cons_of_mem _ hm)) hnodup
        hlen rest
      simp only [write, List.cons_append, List.append_assoc, List.nil_append]
      rw [readValue, skipSpace_quote hb.first]
      split
      · next hempty => cases (quote_append k _).symm.trans hempty
      · rw [hmembers]
        rfl

end ReadsBack

theorem Exact.readsBack {j : Json} (h : j.Exact) (layout : Layout) : ReadsBack layout j := by
  induction h with
  | null => exact .null
  | bool b => exact .bool b
  | int i => exact .int i
  | str s => exact .str s
  | arr _ ih => exact .arr ih
  | obj hnodup _ ih => exact .obj hnodup ih

/-- An exact value is read back from its text in either layout. -/
theorem read?_render {j : Json} (h : j.Exact) (layout : Layout) :
    read? (j.render layout).toList = some j := by
  have hj := h.readsBack layout
  have hskip : skipSpace (j.write layout 0) = j.write layout 0 := by
    have hnil : Blank [] := by simp [Blank]
    have hfront := hj.skipSpace_append hnil 0 []
    rwa [List.nil_append, List.append_nil] at hfront
  have hread := hj.read 0 ((j.write layout 0).length + 1) [] (Nat.le_succ _) ends_nil
  rw [List.append_nil] at hread
  rw [render, String.toList_ofList, read?, hskip, hread]
  rfl

end RuleTree.Json
