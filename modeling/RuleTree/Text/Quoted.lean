import RuleTree.Text.Printable

/-!
# Quoted texts

A text shown between quotes. Double quotes are used only where the text has a single quote and no
double one. The quote in use, the backslash and the common controls are written with a backslash,
every other character that is not printable by its code.
-/

namespace RuleTree.Text

def hexDigit (n : Nat) : Char := Nat.digitChar n

/-- `width` hexadecimal digits of `n`, most significant first. -/
def hexDigits (n : Nat) : Nat → List Char
  | 0 => []
  | width + 1 => hexDigits (n / 16) width ++ [hexDigit (n % 16)]

/-- A character by its code, in the shortest of the three forms that can hold it. -/
def codeEscape (x : Nat) : List Char :=
  if x < 0x100 then '\\' :: 'x' :: hexDigits x 2
  else if x < 0x10000 then '\\' :: 'u' :: hexDigits x 4
  else '\\' :: 'U' :: hexDigits x 8

def quoteChar (quote c : Char) : List Char :=
  if c = quote ∨ c = '\\' then ['\\', c]
  else if c = '\n' then ['\\', 'n']
  else if c = '\r' then ['\\', 'r']
  else if c = '\t' then ['\\', 't']
  else if isPrintable c then [c]
  else codeEscape c.toNat

/-- The quote that a text is shown in. -/
def quoteFor (t : List Char) : Char :=
  if t.contains '\'' && !t.contains '"' then '"' else '\''

def quoted (t : List Char) : String :=
  let q := quoteFor t
  String.ofList (q :: t.flatMap (quoteChar q) ++ [q])

/-- A byte of a quoted byte string. -/
def quoteByte (quote : Char) (b : UInt8) : List Char :=
  let c := Char.ofNat b.toNat
  if c = quote ∨ c = '\\' then ['\\', c]
  else if c = '\n' then ['\\', 'n']
  else if c = '\r' then ['\\', 'r']
  else if c = '\t' then ['\\', 't']
  else if 32 ≤ b.toNat ∧ b.toNat < 127 then [c]
  else '\\' :: 'x' :: hexDigits b.toNat 2

/-- Byte strings are marked with a leading `b`. -/
def quotedBytes (bs : List UInt8) : String :=
  let q := quoteFor (bs.map fun b => Char.ofNat b.toNat)
  String.ofList ('b' :: q :: bs.flatMap (quoteByte q) ++ [q])

end RuleTree.Text
