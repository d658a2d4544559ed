import RuleTree.Console.Markup
import RuleTree.Rule.Printer
import RuleTree.Text.CellWidth

/-!
# Tables

The table of a rule set. A column is as wide as its widest line in terminal cells; the head is framed
with heavy lines.
-/

namespace RuleTree.Table

inductive Align where
  | left
  | right
deriving DecidableEq

structure Column where
  title : String
  align : Align := .left

/-- A frame line: left end, filling, crossing, right end. -/
structure Border where
  left : Char
  fill : Char
  cross : Char
  right : Char

def topBorder : Border := ⟨'┏', '━', '┳', '┓'⟩

def headBorder : Border := ⟨'┡', '━', '╇', '┩'⟩

def bottomBorder : Border := ⟨'└', '─', '┴', '┘'⟩

def Border.line (b : Border) (widths : List Nat) : Text :=
  b.left :: [b.cross].intercalate (widths.map fun w => List.replicate (w + 2) b.fill) ++ [b.right]

def cellLines (markup : String) : List Text := Markup.lines markup.toList

def pad (align : Align) (width : Nat) (t : Text) : Text :=
  let space := List.replicate (width - Text.cells t) ' '
  match align with
  | .left => t ++ space
  | .right => space ++ t

/-- One line of a row of cells. -/
def rowLine (bar : Char) (columns : List (Column × Nat)) (cells : List Text) : Text :=
  bar :: [bar].intercalate ((columns.zip cells).map fun ((c, w), t) =>
    ' ' :: pad c.align w t ++ [' ']) ++ [bar]

/-- A row has as many lines as its highest cell. -/
def row (bar : Char) (columns : List (Column × Nat)) (cells : List (List Text)) : List Text :=
  let height := (cells.map List.length).foldl max 1
  (List.range height).map fun i => rowLine bar columns (cells.map fun ls => (ls[i]?).getD [])

def width (lines : List Text) : Nat := (lines.map Text.cells).foldl max 0

def render (columns : List Column) (rows : List (List String)) : String :=
  let head := columns.map fun c => cellLines c.title
  let body := rows.map fun r => r.map cellLines
  let widths := (List.range columns.length).map fun i =>
    width ((head :: body).flatMap fun r => (r[i]?).getD [])
  let sized := columns.zip widths
  let lines := [topBorder.line widths] ++ row '┃' sized head ++ [headBorder.line widths] ++
    body.flatMap (row '│' sized) ++ [bottomBorder.line widths]
  String.ofList (lines.flatMap (· ++ ['\n']))

def escaped (s : String) : String := String.ofList (Markup.escape s.toList)

/-- The rules of a rule set in order of priority. -/
def ofRules (rules : RuleSet) : String :=
  render [⟨"#", .right⟩, ⟨"Name", .left⟩, ⟨"Settings", .left⟩]
    ((List.range rules.length).zip rules |>.map fun (i, r) =>
      [toString (i + 1), escaped r.name, escaped r.describe])

end RuleTree.Table
