/-!
# Blank characters

The characters that count as white space in any script. The separators of files, groups, records
and units are among them.
-/

namespace RuleTree.Text

def isBlank (c : Char) : Bool :=
  let x := c.toNat
  (0x9 ≤ x && x ≤ 0xd) || (0x1c ≤ x && x ≤ 0x20) || x == 0x85 || x == 0xa0 || x == 0x1680 ||
    (0x2000 ≤ x && x ≤ 0x200a) || x == 0x2028 || x == 0x2029 || x == 0x202f || x == 0x205f ||
    x == 0x3000

/-- The blanks of the ASCII range that patterns know: space, tab, line feed, vertical tab, form feed
and carriage return. -/
def isAsciiBlank (c : Char) : Bool :=
  c == ' ' || (0x9 ≤ c.toNat && c.toNat ≤ 0xd)

/-- A text without the blanks at its ends. -/
def trim (t : List Char) : List Char :=
  ((t.dropWhile isBlank).reverse.dropWhile isBlank).reverse

end RuleTree.Text
