import RuleTree.Value.Printer

/-!
# Hash keys

What the hash of a value depends on. Equal numbers have equal keys whatever their kind: the key of a
number is its value modulo the prime 2^61 - 1, and -1 shares its key with -2. The empty text has the
key of zero. Lists, mappings and sets have no key.
-/

namespace RuleTree

inductive HashKey where
  | number (n : Int)
  | text (s : String)
  | bytes (bs : List UInt8)
  | date (d : Date)
  | moment (m : Moment)
  | instant (t : Int)
  | seq (tag : String) (keys : List HashKey)
  /-- The key of something with an identity of its own. -/
  | unique

namespace HashKey

/-- The prime 2⁶¹ - 1. -/
def modulus : Int := 2305843009213693951

def ofInt (i : Int) : HashKey :=
  let h := if i < 0 then -(-i % modulus) else i % modulus
  number (if h = -1 then -2 else h)

/-- The key of `m * 2 ^ e`; powers of two are taken modulo 61, because 2^61 is 1. -/
def ofDyadic (m e : Int) : HashKey :=
  let h := (m.natAbs * Nat.pow 2 (e % 61).toNat : Nat) % modulus
  let h := if m < 0 then -h else h
  number (if h = -1 then -2 else h)

def ofText (s : String) : HashKey := if s = "" then number 0 else text s

mutual

/-- Two keys agree; one with an identity of its own agrees with none. -/
def agree : HashKey → HashKey → Bool
  | number a, number b => a == b
  | text a, text b => a == b
  | bytes a, bytes b => a == b
  | date a, date b => a == b
  | moment a, moment b => a == b
  | instant a, instant b => a == b
  | seq s xs, seq t ys => s == t && agreeAll xs ys
  | _, _ => false

def agreeAll : List HashKey → List HashKey → Bool
  | [], [] => true
  | x :: xs, y :: ys => agree x y && agreeAll xs ys
  | _, _ => false

end

end HashKey

namespace Value

variable {α : Type}

mutual

/-- The key of a value, if it has one. -/
def hashKey? (objectText : α → String) : Value α → Option HashKey
  | null => some (.seq "null" [])
  | bool b => some (.ofInt (if b then 1 else 0))
  | int i => some (.ofInt i)
  | float x => some (match x with
    | .nan => .unique
    | .infinite negative => .number (if negative then -314159 else 314159)
    | .finite negative m e => .ofDyadic (if negative then -(m : Int) else m) e)
  | str s => some (.ofText s)
  | bytes bs => some (.bytes bs)
  | date d => some (.date d)
  | moment m => some (match m.instant? with
    | some t => .instant t
    | none => .moment m)
  | span s => some (.seq "tuple" [.ofInt s.start, .ofInt s.size])
  | tuple xs => (hashKeys? objectText xs).map (.seq "tuple")
  | stream _ => some .unique
  | object a => some (.text (objectText a))
  | list _ => none
  | mapping _ => none
  | set _ => none

def hashKeys? (objectText : α → String) : List (Value α) → Option (List HashKey)
  | [] => some []
  | x :: xs => do
    let k ← hashKey? objectText x
    let ks ← hashKeys? objectText xs
    return k :: ks

end

/-- Only values with a key can be keys of mappings. -/
def hashable (v : Value α) : Bool := (v.hashKey? fun _ => "").isSome

end Value

end RuleTree
