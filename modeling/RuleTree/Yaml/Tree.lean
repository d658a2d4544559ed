import RuleTree.Pattern.Search
import RuleTree.Yaml.Token

/-!
# YAML trees

The nodes of a document with their tags. A plain scalar without a tag gets the tag of the first form
that its text has, and the tag of texts otherwise.
-/

namespace RuleTree.Yaml

inductive Tag where
  | null
  | bool
  | int
  | float
  | binary
  | timestamp
  | omap
  | pairs
  | set
  | str
  | seq
  | map
  | merge
  | value
  | unknown
deriving DecidableEq, Repr

inductive Tree where
  | scalar (tag : Tag) (text : Text)
  | sequence (tag : Tag) (items : List Tree)
  | mapping (tag : Tag) (entries : List (Tree × Tree))

instance : Inhabited Tree := ⟨.scalar .null []⟩

namespace Tree

def tag : Tree → Tag
  | scalar t _ | sequence t _ | mapping t _ => t

end Tree

namespace Tag

/-- The tag of a full name. -/
def ofName (name : Text) : Tag :=
  match String.ofList name with
  | "tag:yaml.org,2002:null" => null
  | "tag:yaml.org,2002:bool" => bool
  | "tag:yaml.org,2002:int" => int
  | "tag:yaml.org,2002:float" => float
  | "tag:yaml.org,2002:binary" => binary
  | "tag:yaml.org,2002:timestamp" => timestamp
  | "tag:yaml.org,2002:omap" => omap
  | "tag:yaml.org,2002:pairs" => pairs
  | "tag:yaml.org,2002:set" => set
  | "tag:yaml.org,2002:str" => str
  | "tag:yaml.org,2002:seq" => seq
  | "tag:yaml.org,2002:map" => map
  | "tag:yaml.org,2002:merge" => merge
  | "tag:yaml.org,2002:value" => value
  | _ => unknown

def trueWords : List String := ["yes", "Yes", "YES", "true", "True", "TRUE", "on", "On", "ON"]

def falseWords : List String := ["no", "No", "NO", "false", "False", "FALSE", "off", "Off", "OFF"]

def nullWords : List String := ["", "~", "null", "Null", "NULL"]

def floatForm : Except Pattern.Fault Pattern :=
  Pattern.compile ("\\A(?:[-+]?[0-9][0-9_]*\\.[0-9_]*(?:[eE][-+][0-9]+)?" ++
    "|\\.[0-9][0-9_]*(?:[eE][-+][0-9]+)?" ++
    "|[-+]?[0-9][0-9_]*(?::[0-5]?[0-9])+\\.[0-9_]*" ++
    "|[-+]?\\.(?:inf|Inf|INF)|\\.(?:nan|NaN|NAN))$") .none

def intForm : Except Pattern.Fault Pattern :=
  Pattern.compile ("\\A(?:[-+]?0b[0-1_]+|[-+]?0[0-7_]+|[-+]?(?:0|[1-9][0-9_]*)" ++
    "|[-+]?0x[0-9a-fA-F_]+|[-+]?[1-9][0-9_]*(?::[0-5]?[0-9])+)$") .none

def timestampForm : Except Pattern.Fault Pattern :=
  Pattern.compile ("\\A(?:[0-9][0-9][0-9][0-9]-[0-9][0-9]-[0-9][0-9]" ++
    "|[0-9][0-9][0-9][0-9]-[0-9][0-9]?-[0-9][0-9]?(?:[Tt]|[ \\t]+)[0-9][0-9]?:[0-9][0-9]" ++
    ":[0-9][0-9](?:\\.[0-9]*)?(?:[ \\t]*(?:Z|[-+][0-9][0-9]?(?::[0-9][0-9])?))?)$") .none

def has (form : Except Pattern.Fault Pattern) (t : Text) : Bool :=
  match form with
  | .ok p => (p.search t).isSome
  | .error _ => false

/-- The tag that the text of a plain scalar suggests. -/
def ofPlain (t : Text) : Tag :=
  let s := String.ofList t
  if trueWords.contains s || falseWords.contains s then bool
  else if nullWords.contains s then null
  else if s = "<<" then merge
  else if s = "=" then value
  else if s = "!" || s = "&" || s = "*" then unknown
  else match t with
    | c :: _ =>
      if c.isDigit || c = '-' || c = '+' || c = '.' then
        if has floatForm t then float
        else if has intForm t then int
        else if has timestampForm t then timestamp
        else str
      else str
    | [] => str

end Tag

end RuleTree.Yaml
