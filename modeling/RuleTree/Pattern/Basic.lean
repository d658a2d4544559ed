import RuleTree.Pattern.Reader

/-!
# Patterns

A compiled pattern: its text, the flags in force, the number of its groups and its pieces.
`Pattern.compile` reads the text and then checks what only the whole pattern can tell: the flags,
the groups used as conditions and the width of every look-behind. A character cannot be given by its
name: a pattern with `\N` and a name in braces is refused, whether there is such a character or not.
-/

namespace RuleTree

structure Pattern where
  source : String
  flags : Pattern.Flags
  groups : Nat
  pieces : List Pattern.Piece
deriving Inhabited

namespace Pattern

/-- Patterns are told apart by their text and their flags, which determine all else. -/
def same (p q : Pattern) : Bool := p.source == q.source && p.flags == q.flags

def Greed.operator : Greed → String
  | .greedy => "MAX_REPEAT"
  | .lazy => "MIN_REPEAT"
  | .possessive => "POSSESSIVE_REPEAT"

mutual

/-- The first piece, in reading order, that cannot be compiled. -/
def Piece.refusal? (flags : Flags) : Piece → Option Complaint
  | .group _ add del body => refusalOf? (flags.within add del) body
  | .choice alternatives => refusalOfAny? flags alternatives
  | .loop greed _ _ body =>
    if flags.template then some (.templateOperator greed.operator) else refusalOf? flags body
  | .atomic body => refusalOf? flags body
  | .look (.behind least greatest) _ body =>
    if least ≠ greatest then some .variableLookBehind else refusalOf? flags body
  | .look .ahead _ body => refusalOf? flags body
  | .ifGroup _ yes none => refusalOf? flags yes
  | .ifGroup _ yes (some no) => (refusalOf? flags yes).or (refusalOf? flags no)
  | _ => none

def refusalOf? (flags : Flags) : List Piece → Option Complaint
  | [] => none
  | p :: ps => (p.refusal? flags).or (refusalOf? flags ps)

def refusalOfAny? (flags : Flags) : List (List Piece) → Option Complaint
  | [] => none
  | alternative :: more => (refusalOf? flags alternative).or (refusalOfAny? flags more)

end

/-- Every text is matched in the Unicode repertoire unless the ASCII one is asked for. -/
def settleFlags (flags : Flags) : Except Fault Flags :=
  if flags.locale then throw .flagConflict
  else if !flags.ascii then return { flags with unicode := true }
  else if flags.unicode then throw .flagConflict
  else return flags

/-- Reads a whole pattern. -/
def readWhole : Read (List Piece) := do
  Read.advance
  let r ← get
  let pieces ← Read.alternatives r.fuel r.flags.verbose true []
  let settled ← settleFlags (← get).flags
  modify fun r => { r with flags := settled }
  let r ← get
  if r.next.isSome then Read.complain .unopenedGroup 0
  match r.conditions.reverse.find? fun c => r.widths.size ≤ c.1 with
  | some (group, place) => Read.complainAt place (.noSuchGroup group)
  | none => return pieces

def compile (source : String) (flags : Flags) : Except Fault Pattern := do
  let start : Reader := { source := source.toList.toArray, flags := flags }
  let (pieces, r) ← readWhole.run start
  match refusalOf? r.flags pieces with
  | some c => throw (.malformed ⟨c, none⟩)
  | none => return ⟨source, r.flags, r.widths.size - 1, pieces⟩

end Pattern

end RuleTree
