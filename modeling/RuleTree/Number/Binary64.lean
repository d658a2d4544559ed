/-!
# Binary floating point

A double is kept as a sign, a natural mantissa and a binary exponent, so that every operation below
is exact integer arithmetic followed by one rounding to the nearest double, ties to even. Nothing
is said about mantissas that do not fit; `ofRatio` never makes one.
-/

namespace RuleTree

/-- A finite value is `mantissa * 2 ^ exponent` with the given sign. -/
inductive Binary64 where
  | nan
  | infinite (negative : Bool)
  | finite (negative : Bool) (mantissa : Nat) (exponent : Int)
deriving DecidableEq, Repr, Inhabited

namespace Binary64

/-- The quotient rounded to the nearest natural number, ties to even. -/
def roundDiv (num den : Nat) : Nat :=
  let q := num / den
  let r := num % den
  if 2 * r < den then q
  else if 2 * r > den then q + 1
  else if q % 2 = 0 then q else q + 1

/-- `num / den / 2 ^ e` as a quotient of naturals. -/
def scaleDown (num den : Nat) (e : Int) : Nat × Nat :=
  if 0 ≤ e then (num, den <<< e.toNat) else (num <<< (-e).toNat, den)

/-- The double nearest to `num / den`. -/
def ofRatio (negative : Bool) (num den : Nat) : Binary64 :=
  if num = 0 then finite negative 0 (-1074)
  else
    let guess : Int := max ((num.log2 : Int) - den.log2 - 53) (-1074)
    let first := scaleDown num den guess
    let e := if Nat.pow 2 53 ≤ first.1 / first.2 then guess + 1 else guess
    let last := scaleDown num den e
    let m := roundDiv last.1 last.2
    let (m, e) := if m < Nat.pow 2 53 then (m, e) else (Nat.pow 2 52, e + 1)
    if 971 < e then infinite negative else finite negative m e

/-- The double nearest to `m * 2 ^ e`. A zero takes the sign `negativeZero`. -/
def ofDyadic (negativeZero : Bool) (m e : Int) : Binary64 :=
  let negative := if m = 0 then negativeZero else decide (m < 0)
  if 0 ≤ e then ofRatio negative (m.natAbs <<< e.toNat) 1
  else ofRatio negative m.natAbs (1 <<< (-e).toNat)

/-- The double nearest to `digits * 10 ^ e`. Exponents far outside the range of doubles are cut
short, which does not change the result. -/
def ofDecimal (negative : Bool) (digits : Nat) (e : Int) : Binary64 :=
  if digits = 0 then ofRatio negative 0 1
  else if 400 < e then infinite negative
  else if e + (digits.log2 + 1 : Nat) < -1200 then ofRatio negative 0 1
  else if 0 ≤ e then ofRatio negative (digits * Nat.pow 10 e.toNat) 1
  else ofRatio negative digits (Nat.pow 10 (-e).toNat)

/-- The value as `m * 2 ^ e`, for finite doubles. -/
def dyadic? : Binary64 → Option (Int × Int)
  | finite negative m e => some (if negative then -(m : Int) else m, e)
  | _ => none

/-- Whether `a * 2 ^ d = b * 2 ^ e`. -/
def sameDyadic (a d b e : Int) : Bool :=
  let low := min d e
  a * (Nat.pow 2 (d - low).toNat : Nat) == b * (Nat.pow 2 (e - low).toNat : Nat)

def isZero : Binary64 → Bool
  | finite _ 0 _ => true
  | _ => false

def neg : Binary64 → Binary64
  | nan => nan
  | infinite negative => infinite !negative
  | finite negative m e => finite (!negative) m e

/-- Addition. Opposite infinities have no sum, and a sum of zeros is negative only if both are. -/
def add : Binary64 → Binary64 → Binary64
  | nan, _ => nan
  | _, nan => nan
  | infinite a, infinite b => if a = b then infinite a else nan
  | infinite a, _ => infinite a
  | _, infinite b => infinite b
  | finite n a d, finite k b e =>
    let low := min d e
    let sa : Int := (if n then -(a : Int) else a) * (Nat.pow 2 (d - low).toNat : Nat)
    let sb : Int := (if k then -(b : Int) else b) * (Nat.pow 2 (e - low).toNat : Nat)
    ofDyadic (n && k) (sa + sb) low

/-- Multiplication by a natural number. -/
def scale (x : Binary64) (n : Nat) : Binary64 :=
  match x with
  | nan => nan
  | infinite a => if n = 0 then nan else infinite a
  | finite a m e => ofDyadic a ((if a then -(m : Int) else m) * n) e

/-- Doubles are compared by value: the zeros are equal and a NaN differs from everything. -/
def same : Binary64 → Binary64 → Bool
  | infinite a, infinite b => a == b
  | x, y => match x.dyadic?, y.dyadic? with
    | some (a, d), some (b, e) => sameDyadic a d b e
    | _, _ => false

/-- The integer that a finite double without fraction stands for. -/
def toInt? (x : Binary64) : Option Int :=
  match x.dyadic? with
  | none => none
  | some (m, e) =>
    if 0 ≤ e then some (m * (Nat.pow 2 e.toNat : Nat))
    else
      let d : Int := (Nat.pow 2 (-e).toNat : Nat)
      if m % d = 0 then some (m / d) else none

end Binary64

end RuleTree
