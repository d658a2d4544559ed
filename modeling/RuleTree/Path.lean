import RuleTree.Text

/-!
# Paths

A path is kept in the form in which it is shown: without empty and `.` parts, but with every `..`,
since a link may stand before it.
-/

namespace RuleTree.Path

/-- The slashes that make a path absolute. Exactly two are kept; more count as one. -/
def root (t : Text) : Text :=
  match (t.takeWhile (· = '/')).length with
  | 0 => []
  | 2 => ['/', '/']
  | _ => ['/']

def parts (t : Text) : List Text :=
  (Text.splitOnChar '/' t).filter fun p => p ≠ [] && p ≠ ['.']

/-- A path of a root and parts; the empty one is the current directory. -/
def assemble (root : Text) (parts : List Text) : Text :=
  match root ++ ['/'].intercalate parts with
  | [] => ['.']
  | t => t

def normal (t : Text) : Text := assemble (root t) (parts t)

/-- The directories on the way to a path, outermost first. -/
def ancestors (t : Text) : List Text :=
  let ps := parts t
  (List.range ps.length).map fun n => assemble (root t) (ps.take n)

end RuleTree.Path
