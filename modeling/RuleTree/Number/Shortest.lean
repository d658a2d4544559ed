import RuleTree.Number.Binary64

/-!
# Shortest decimal text of a double

The decimal with the fewest digits among those that round to the double, and of those the nearest
one. For each number of digits the two neighbours of the value on that decimal grid are tried in
exact arithmetic; seventeen digits always suffice.
-/

namespace RuleTree.Binary64

/-- The reals that round to one double: from `low / den` to `high / den` around `mid / den`, the
ends belonging to it if `closed`. -/
structure Basin where
  low : Nat
  mid : Nat
  high : Nat
  den : Nat
  closed : Bool

def basin (m : Nat) (e : Int) : Basin :=
  let unit := Nat.pow 2 e.toNat
  let below := if m = Nat.pow 2 52 ∧ -1074 < e then 1 else 2
  { low := (4 * m - below) * unit
    mid := 4 * m * unit
    high := (4 * m + 2) * unit
    den := 4 * Nat.pow 2 (-e).toNat
    closed := m % 2 = 0 }

/-- `d * 10 ^ g` and `x / den` brought to a common denominator. -/
def Basin.align (b : Basin) (d : Nat) (g : Int) (x : Nat) : Nat × Nat :=
  if 0 ≤ g then (d * Nat.pow 10 g.toNat * b.den, x)
  else (d * b.den, x * Nat.pow 10 (-g).toNat)

/-- `d * 10 ^ g` rounds to the double. -/
def Basin.holds (b : Basin) (d : Nat) (g : Int) : Bool :=
  let (l, low) := b.align d g b.low
  let (h, high) := b.align d g b.high
  if b.closed then low ≤ l && h ≤ high else low < l && h < high

/-- The digit count of the integral part, as the least `p` with value below `10 ^ p`. -/
def Basin.magnitude (b : Basin) : Int :=
  let guess := (((b.mid.log2 : Int) - b.den.log2) * 30103) / 100000
  let below (p : Int) : Bool :=
    let (l, x) := b.align 1 p b.mid
    x < l
  ([guess - 1, guess, guess + 1, guess + 2].find? below).getD (guess + 3)

/-- The better of the two grid points next to the value, if one of them rounds to the double. -/
def Basin.atGrid (b : Basin) (g : Int) : Option Nat :=
  let d := if 0 ≤ g then b.mid / (b.den * Nat.pow 10 g.toNat)
    else b.mid * Nat.pow 10 (-g).toNat / b.den
  match b.holds d g, b.holds (d + 1) g with
  | true, false => some d
  | false, true => some (d + 1)
  | false, false => none
  | true, true =>
    let (l, x) := b.align d g b.mid
    let (h, y) := b.align (d + 1) g b.mid
    if x - l < h - y then some d
    else if h - y < x - l then some (d + 1)
    else if d % 2 = 0 then some d else some (d + 1)

/-- Tries `n`, `n + 1`, … digits; the fuel bounds the number of tries. -/
def Basin.search (b : Basin) (p : Int) : Nat → Nat → Nat × Int
  | 0, n => ((b.atGrid (p - n)).getD 0, p - n)
  | fuel + 1, n =>
    match b.atGrid (p - n) with
    | some d => (d, p - n)
    | none => b.search p fuel (n + 1)

/-- Digits `d` and exponent `g` of the shortest decimal `d * 10 ^ g`. -/
def shortest (m : Nat) (e : Int) : Nat × Int :=
  let b := basin m e
  b.search b.magnitude 17 1

/-- The digits without the zeros at the end. -/
def stripZeros (ds : List Char) : List Char :=
  match (ds.reverse.dropWhile (· == '0')).reverse with
  | [] => ['0']
  | kept => kept

/-- Digits with the decimal point after `point` of them. Positional from 0.0001 up to below 10^16,
and with an exponent of at least two digits outside. -/
def layout (digits : List Char) (point : Int) : List Char :=
  if -4 < point ∧ point ≤ 16 then
    if point ≤ 0 then '0' :: '.' :: List.replicate (-point).toNat '0' ++ digits
    else
      let whole := digits.take point.toNat
      let whole := whole ++ List.replicate (point.toNat - digits.length) '0'
      let rest := digits.drop point.toNat
      whole ++ '.' :: (if rest = [] then ['0'] else rest)
  else
    let x := point - 1
    let mark := if x < 0 then '-' else '+'
    let xs := (toString x.natAbs).toList
    let xs := List.replicate (2 - xs.length) '0' ++ xs
    let head := match digits with
      | [] => ['0']
      | [d] => [d]
      | d :: rest => d :: '.' :: rest
    head ++ 'e' :: mark :: xs

/-- The text of a double: the shortest decimal that reads back, or one of `nan`, `inf`, `-inf`. -/
def text : Binary64 → String
  | nan => "nan"
  | infinite negative => if negative then "-inf" else "inf"
  | finite negative m e =>
    let sign := if negative then ['-'] else []
    if m = 0 then String.ofList (sign ++ ['0', '.', '0'])
    else
      let (d, g) := shortest m e
      let ds := (toString d).toList
      String.ofList (sign ++ layout (stripZeros ds) (ds.length + g))

end RuleTree.Binary64
