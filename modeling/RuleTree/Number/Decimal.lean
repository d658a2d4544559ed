import RuleTree.Number.Binary64
import RuleTree.Text.Blank
import RuleTree.Text.Digit

/-!
# Reading numbers

Integers and doubles as they are written in settings and data: blanks around the number, one sign,
digits of any script, and single underscores between digits.
-/

namespace RuleTree.Number

open RuleTree.Text

/-- Digits of every script become the digits `0` to `9`. -/
def plainDigit (c : Char) : Char :=
  match digitValue? c with
  | some d => Nat.digitChar d
  | none => c

/-- Drops the underscores of a text in which each of them stands between two digits. -/
def dropUnderscores? : Option Char → List Char → Option (List Char)
  | _, [] => some []
  | previous, c :: rest =>
    if c = '_' then
      match previous, rest with
      | some p, n :: _ =>
        if p.isDigit && n.isDigit then dropUnderscores? (some c) rest else none
      | _, _ => none
    else (dropUnderscores? (some c) rest).map (c :: ·)

/-- Splits off one sign; `true` stands for minus. -/
def splitSign : List Char → Bool × List Char
  | '-' :: rest => (true, rest)
  | '+' :: rest => (false, rest)
  | t => (false, t)

def digitIn? (base : Nat) (c : Char) : Option Nat :=
  let x := c.toNat
  let d := if 48 ≤ x ∧ x ≤ 57 then x - 48
    else if 97 ≤ x ∧ x ≤ 122 then x - 87
    else if 65 ≤ x ∧ x ≤ 90 then x - 55
    else base
  if d < base then some d else none

def natIn? (base : Nat) (t : List Char) : Option Nat :=
  if t = [] then none
  else t.foldl (fun acc c => acc.bind fun n => (digitIn? base c).map (n * base + ·)) (some 0)

/-- Drops the mark that announces digits of the base. -/
def dropBaseMark (base : Nat) (t : List Char) : List Char :=
  match t with
  | '0' :: m :: rest =>
    if (base = 2 ∧ (m = 'b' ∨ m = 'B')) ∨ (base = 8 ∧ (m = 'o' ∨ m = 'O')) ∨
        (base = 16 ∧ (m = 'x' ∨ m = 'X')) then rest else t
  | _ => t

def signed (negative : Bool) (n : Nat) : Int := if negative then -(n : Int) else n

def readInt? (base : Nat) (t : List Char) : Option Int := do
  let (negative, body) := splitSign ((trim t).map plainDigit)
  let body ← dropUnderscores? none body
  let n ← natIn? base (dropBaseMark base body)
  return signed negative n

/-- The fraction and exponent that follow the digits before the point. -/
def readFraction? (negative : Bool) (whole : List Char) (t : List Char) : Option Binary64 := do
  let (fraction, rest) : List Char × List Char := match t with
    | '.' :: r => (r.takeWhile Char.isDigit, r.dropWhile Char.isDigit)
    | _ => ([], t)
  guard (whole ++ fraction ≠ [])
  let digits ← natIn? 10 (whole ++ fraction)
  let shift : Int := fraction.length
  match rest with
  | [] => return Binary64.ofDecimal negative digits (-shift)
  | e :: r =>
    guard (e = 'e' ∨ e = 'E')
    let (negativeExponent, ds) := splitSign r
    guard (ds.all Char.isDigit)
    let n ← natIn? 10 ds
    return Binary64.ofDecimal negative digits (signed negativeExponent n - shift)

/-- Reads a double, also from `inf`, `infinity` and `nan` in any case of letters. -/
def readFloat? (t : List Char) : Option Binary64 := do
  let (negative, body) := splitSign ((trim t).map plainDigit)
  let word := String.ofList (body.map Char.toLower)
  if word = "inf" ∨ word = "infinity" then return .infinite negative
  if word = "nan" then return .nan
  let body ← dropUnderscores? none body
  readFraction? negative (body.takeWhile Char.isDigit) (body.dropWhile Char.isDigit)

end RuleTree.Number
