/-!
# Character properties as switching points

A property of characters is stored as the ascending code points at which it switches on and off,
starting from "off". A code point has the property when an odd number of switching points are at
or below it.
-/

namespace RuleTree.Text

/-- How many entries of an ascending table are at most `x`, by bisection of `[lo, hi)`. The fuel
bounds the number of halvings. -/
def countAtMost (table : Array Nat) (x : Nat) : Nat → Nat → Nat → Nat
  | 0, lo, _ => lo
  | fuel + 1, lo, hi =>
    if lo < hi then
      let mid := (lo + hi) / 2
      if table.getD mid 0 ≤ x then countAtMost table x fuel (mid + 1) hi
      else countAtMost table x fuel lo mid
    else lo

/-- The property holds at `x`. -/
def switchedOn (table : Array Nat) (x : Nat) : Bool :=
  countAtMost table x 32 0 table.size % 2 == 1

end RuleTree.Text
