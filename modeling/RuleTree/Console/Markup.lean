import RuleTree.Text
import RuleTree.Text.CellWidth

/-!
# Console markup

Text for the console may hold tags in square brackets. `escape` protects text from being taken for
tags; `plain` is what a console without colours shows.
-/

namespace RuleTree.Markup

def startsTag (c : Char) : Bool := c.isLower || c = '#' || c = '/' || c = '@'

/-- The length of what follows an opening bracket up to the closing one, if no other bracket opens
before it. -/
def closing? : Text → Option Nat
  | [] => none
  | c :: rest =>
    if c = ']' then some 1 else if c = '[' then none else (closing? rest).map (· + 1)

/-- The length of a tag at the front of a text, brackets included. -/
def tagLength? : Text → Option Nat
  | '[' :: c :: rest => if startsTag c then (closing? rest).map (· + 2) else none
  | _ => none

/-- The number of backslashes at the front of a text. -/
def backslashes (t : Text) : Nat := (t.takeWhile (· = '\\')).length

/-- Escapes a text, after `n` characters that are copied as they are. -/
def escapeAfter : Nat → Text → Text
  | _, [] => []
  | n + 1, c :: rest => c :: escapeAfter n rest
  | 0, c :: rest =>
    let run := backslashes (c :: rest)
    match tagLength? ((c :: rest).drop run) with
    | some k => List.replicate (run + 1) '\\' ++ c :: escapeAfter (run + k - 1) rest
    | none => c :: escapeAfter (run - 1) rest

/-- The backslashes before a tag are doubled and one more is put in front of it. A single backslash
at the end is doubled too, so that it cannot escape a tag that follows. -/
def escape (t : Text) : Text :=
  let e := escapeAfter 0 t
  match e.reverse with
  | '\\' :: '\\' :: _ => e
  | '\\' :: _ => e ++ ['\\']
  | _ => e

/-- What remains of a text after `n` characters that are dropped. Tags disappear, backslashes before
a tag count in pairs, and a backslash before any other opening bracket disappears. -/
def plainAfter : Nat → Text → Text
  | _, [] => []
  | n + 1, _ :: rest => plainAfter n rest
  | 0, c :: rest =>
    let run := backslashes (c :: rest)
    let after := (c :: rest).drop run
    match tagLength? after with
    | some k =>
      List.replicate (run / 2) '\\' ++ (if run % 2 = 1 then after.take k else []) ++
        plainAfter (run + k - 1) rest
    | none =>
      if 0 < run then
        List.replicate (if after.head? = some '[' then run - 1 else run) '\\' ++
          plainAfter (run - 1) rest
      else c :: plainAfter 0 rest

/-- Controls that a console drops. -/
def isDropped (c : Char) : Bool :=
  c.toNat = 7 || c.toNat = 8 || c.toNat = 11 || c.toNat = 12 || c.toNat = 13

/-- What a console shows of a marked-up text. Without any bracket there is nothing to interpret. -/
def plain (t : Text) : Text :=
  (if t.contains '[' then plainAfter 0 t else t).filter (!isDropped ·)

/-- Replaces each tab by blanks up to the next column that is a multiple of eight. -/
def expandTabs : Nat → Text → Text
  | _, [] => []
  | column, c :: rest =>
    if c = '\t' then
      let gap := 8 - column % 8
      List.replicate gap ' ' ++ expandTabs (column + gap) rest
    else c :: expandTabs (column + Text.charCells c) rest

/-- The lines that a console shows for a marked-up text. -/
def lines (t : Text) : List Text := (Text.splitOnChar '\n' (plain t)).map (expandTabs 0)

/-- What a console prints for a marked-up text, a break after each line. -/
def print (t : Text) : Text := (lines t).flatMap (· ++ ['\n'])

end RuleTree.Markup
