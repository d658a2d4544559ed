import RuleTree.Json.Basic
import RuleTree.Text.Quoted
import RuleTree.Number.Shortest

/-!
# Writing JSON

Texts are written in ASCII: characters beyond it appear as UTF-16 units. `pretty` puts every item on
a line of its own, two spaces deeper than its container; `compact` writes one line.
-/

namespace RuleTree.Json

/-- A UTF-16 unit by its code. -/
def unitEscape (x : Nat) : List Char := '\\' :: 'u' :: Text.hexDigits x 4

def escapeChar (c : Char) : List Char :=
  if c = '"' then ['\\', '"']
  else if c = '\\' then ['\\', '\\']
  else if c = '\n' then ['\\', 'n']
  else if c = '\r' then ['\\', 'r']
  else if c = '\t' then ['\\', 't']
  else if c.toNat = 8 then ['\\', 'b']
  else if c.toNat = 12 then ['\\', 'f']
  else if 32 ≤ c.toNat ∧ c.toNat < 127 then [c]
  else if c.toNat < 0x10000 then unitEscape c.toNat
  else
    let x := c.toNat - 0x10000
    unitEscape (0xd800 + x / 0x400) ++ unitEscape (0xdc00 + x % 0x400)

def quote (s : String) : List Char := '"' :: s.toList.flatMap escapeChar ++ ['"']

def floatText : Binary64 → String
  | .nan => "NaN"
  | .infinite negative => if negative then "-Infinity" else "Infinity"
  | x => x.text

/-- How containers are laid out. -/
inductive Layout where
  | compact
  | pretty
deriving DecidableEq

/-- What stands before the first item, between items and after the last item of a container at a
depth. -/
structure Breaks where
  first : List Char
  between : List Char
  last : List Char

def Layout.breaks (depth : Nat) : Layout → Breaks
  | .compact => ⟨[], [',', ' '], []⟩
  | .pretty =>
    let inner := '\n' :: List.replicate (2 * (depth + 1)) ' '
    ⟨inner, ',' :: inner, '\n' :: List.replicate (2 * depth) ' '⟩

mutual

def write (layout : Layout) (depth : Nat) : Json → List Char
  | null => "null".toList
  | bool b => (if b then "true" else "false").toList
  | int i => (toString i).toList
  | float x => (floatText x).toList
  | str s => quote s
  | arr [] => ['[', ']']
  | arr (x :: xs) =>
    let b := layout.breaks depth
    '[' :: b.first ++ write layout (depth + 1) x ++ writeItems layout (depth + 1) b.between xs ++
      b.last ++ [']']
  | obj [] => ['\x7b', '\x7d']
  | obj ((k, v) :: ms) =>
    let b := layout.breaks depth
    '\x7b' :: b.first ++ quote k ++ ':' :: ' ' :: write layout (depth + 1) v ++
      writeMembers layout (depth + 1) b.between ms ++ b.last ++ ['\x7d']

def writeItems (layout : Layout) (depth : Nat) (between : List Char) : List Json → List Char
  | [] => []
  | x :: xs => between ++ write layout depth x ++ writeItems layout depth between xs

def writeMembers (layout : Layout) (depth : Nat) (between : List Char) :
    List (String × Json) → List Char
  | [] => []
  | (k, v) :: ms =>
    between ++ quote k ++ ':' :: ' ' :: write layout depth v ++
      writeMembers layout depth between ms

end

def render (layout : Layout) (j : Json) : String := String.ofList (j.write layout 0)

end RuleTree.Json
