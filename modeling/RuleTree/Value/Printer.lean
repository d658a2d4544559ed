import RuleTree.Number.Shortest
import RuleTree.Text.Quoted
import RuleTree.Value.Basic

/-!
# Text of values

`Value.text` is the form in which messages and labels show a value; texts inside it are quoted.
`Value.plain` shows a text or a date on its own as it is.
-/

namespace RuleTree.Value

variable {α : Type}

def quotedText (s : String) : String := Text.quoted s.toList

/-- A tuple of one item keeps a comma. -/
def tupleText : List String → String
  | [x] => "(" ++ x ++ ",)"
  | xs => "(" ++ ", ".intercalate xs ++ ")"

mutual

def text (objectText : α → String) : Value α → String
  | null => "None"
  | bool b => if b then "True" else "False"
  | int i => toString i
  | float x => x.text
  | str s => quotedText s
  | bytes bs => Text.quotedBytes bs
  | date d => d.text
  | moment m => m.text
  | span s => s.text
  | list xs => "[" ++ ", ".intercalate (texts objectText xs) ++ "]"
  | tuple xs => tupleText (texts objectText xs)
  | mapping es => "\x7b" ++ ", ".intercalate (entryTexts objectText es) ++ "\x7d"
  | set [] => "set()"
  | set xs => "\x7b" ++ ", ".intercalate (texts objectText xs) ++ "\x7d"
  | stream _ => "<stream>"
  | object a => objectText a

def texts (objectText : α → String) : List (Value α) → List String
  | [] => []
  | x :: xs => text objectText x :: texts objectText xs

def entryTexts (objectText : α → String) : List (Value α × Value α) → List String
  | [] => []
  | (k, v) :: es =>
    (text objectText k ++ ": " ++ text objectText v) :: entryTexts objectText es

end

def plain (objectText : α → String) : Value α → String
  | str s => s
  | date d => d.iso
  | moment m => m.iso
  | x => x.text objectText

end RuleTree.Value

namespace RuleTree.Datum

def text (d : Datum) : String := Value.text Foreign.text d

def plain (d : Datum) : String := Value.plain Foreign.text d

end RuleTree.Datum
