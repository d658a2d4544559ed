/-!
# Pattern flags

The switches under which a pattern is read and searched, their names and their numeric codes.
-/

namespace RuleTree.Pattern

structure Flags where
  template : Bool := false
  ignoreCase : Bool := false
  locale : Bool := false
  multiline : Bool := false
  dotAll : Bool := false
  unicode : Bool := false
  verbose : Bool := false
  debug : Bool := false
  ascii : Bool := false
deriving DecidableEq, Repr, Inhabited

namespace Flags

def none : Flags := {}

def zipWith (op : Bool → Bool → Bool) (f g : Flags) : Flags where
  template := op f.template g.template
  ignoreCase := op f.ignoreCase g.ignoreCase
  locale := op f.locale g.locale
  multiline := op f.multiline g.multiline
  dotAll := op f.dotAll g.dotAll
  unicode := op f.unicode g.unicode
  verbose := op f.verbose g.verbose
  debug := op f.debug g.debug
  ascii := op f.ascii g.ascii

def union (f g : Flags) : Flags := zipWith (· || ·) f g

def inter (f g : Flags) : Flags := zipWith (· && ·) f g

def diff (f g : Flags) : Flags := zipWith (fun a b => a && !b) f g

def isEmpty (f : Flags) : Bool := f == none

/-- The flags that choose a character repertoire. -/
def repertoire : Flags := { ascii := true, locale := true, unicode := true }

/-- The flags that hold for a whole pattern or not at all. -/
def indivisible : Flags := { debug := true, template := true }

/-- The flags inside a group that adds some and removes others. A group that names a repertoire
replaces the one in force. -/
def within (f add del : Flags) : Flags :=
  let base := if (add.inter repertoire).isEmpty then f else f.diff repertoire
  (base.union add).diff del

def weight (b : Bool) (n : Nat) : Nat := if b then n else 0

def code (f : Flags) : Nat :=
  weight f.template 1 + weight f.ignoreCase 2 + weight f.locale 4 + weight f.multiline 8 +
    weight f.dotAll 16 + weight f.unicode 32 + weight f.verbose 64 + weight f.debug 128 +
    weight f.ascii 256

/-- The long names of the flags, in ascending order of their codes up to the ASCII repertoire. The
Unicode repertoire goes without saying. -/
def names (f : Flags) : List String :=
  let named (b : Bool) (name : String) : List String := if b then [name] else []
  named f.template "TEMPLATE" ++ named f.ignoreCase "IGNORECASE" ++ named f.locale "LOCALE" ++
    named f.multiline "MULTILINE" ++ named f.dotAll "DOTALL" ++
    named f.verbose "VERBOSE" ++ named f.debug "DEBUG" ++ named f.ascii "ASCII"

/-- The flag of an upper-case name, long or of one letter. -/
def ofName? (name : String) : Option Flags :=
  match name with
  | "NOFLAG" => some none
  | "ASCII" | "A" => some { ascii := true }
  | "IGNORECASE" | "I" => some { ignoreCase := true }
  | "LOCALE" | "L" => some { locale := true }
  | "UNICODE" | "U" => some { unicode := true }
  | "MULTILINE" | "M" => some { multiline := true }
  | "DOTALL" | "S" => some { dotAll := true }
  | "VERBOSE" | "X" => some { verbose := true }
  | "TEMPLATE" | "T" => some { template := true }
  | "DEBUG" => some { debug := true }
  | _ => Option.none

/-- The flag of a letter inside a pattern. -/
def ofLetter? (c : Char) : Option Flags :=
  match c with
  | 'i' => some { ignoreCase := true }
  | 'L' => some { locale := true }
  | 'm' => some { multiline := true }
  | 's' => some { dotAll := true }
  | 'x' => some { verbose := true }
  | 'a' => some { ascii := true }
  | 't' => some { template := true }
  | 'u' => some { unicode := true }
  | _ => Option.none

end Flags

end RuleTree.Pattern
