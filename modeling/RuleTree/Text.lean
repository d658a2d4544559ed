/-!
# Texts

A text is a list of Unicode characters, and every length, offset and position counts characters.
Regions are cut out with bounds that may be negative (counted from the end) or too large (clamped),
so cutting never fails.
-/

namespace RuleTree

abbrev Text := List Char

namespace Text

/-- The place that a bound denotes in a text of `size` characters. -/
def place (size : Nat) (i : Int) : Nat :=
  if i < 0 then (i + size).toNat else min i.toNat size

/-- The characters from `lo` up to, but not including, `hi`. -/
def slice (t : Text) (lo hi : Int) : Text :=
  (t.take (place t.length hi)).drop (place t.length lo)

/-- The characters from `lo` on. -/
def sliceFrom (t : Text) (lo : Int) : Text :=
  t.drop (place t.length lo)

theorem place_of_nat (size n : Nat) : place size (n : Int) = min n size := by
  unfold place
  rw [if_neg (by omega), Int.toNat_natCast]

/-- The first place at which `needle` stands. -/
def indexOf? (needle : Text) : Text → Option Nat
  | [] => if needle = [] then some 0 else none
  | c :: rest =>
    if needle.isPrefixOf (c :: rest) then some 0 else (indexOf? needle rest).map (· + 1)

/-- The pieces between the separators, one more than there are separators. -/
def splitOnChar (sep : Char) : Text → List Text
  | [] => [[]]
  | c :: rest =>
    if c = sep then [] :: splitOnChar sep rest
    else match splitOnChar sep rest with
      | [] => [[c]]
      | piece :: more => (c :: piece) :: more

/-- The lines of a text; a break ends a line, so the text after the last break is a line only if it
is not empty. -/
def lines (t : Text) : List Text :=
  match (splitOnChar '\n' t).reverse with
  | [] :: more => more.reverse
  | pieces => pieces.reverse

/-- `\r\n` and a lone `\r` become `\n`. -/
def unifyBreaks : Text → Text
  | [] => []
  | '\r' :: '\n' :: rest => '\n' :: unifyBreaks rest
  | '\r' :: rest => '\n' :: unifyBreaks rest
  | c :: rest => c :: unifyBreaks rest

end Text

end RuleTree
