import RuleTree.Pattern.Flags

/-!
# Pattern pieces

What a pattern is made of once it has been read. A pattern is a list of pieces that match one after
the other. Characters are kept as code points, because a pattern can name code points that no text
holds.
-/

namespace RuleTree.Pattern

inductive CharKind where
  | digit
  | blank
  | word
deriving DecidableEq, Repr

inductive ClassItem where
  | code (x : Nat)
  | range (lo hi : Nat)
  | kind (k : CharKind) (negated : Bool)
deriving DecidableEq, Repr

inductive Anchor where
  | lineStart
  | lineEnd
  | textStart
  | textEnd
  | wordEdge
  | noWordEdge
deriving DecidableEq, Repr

inductive Greed where
  | greedy
  | lazy
  | possessive
deriving DecidableEq, Repr

/-- The side on which a look-around stands. A look-behind knows the least and greatest width of
what it looks for. -/
inductive Side where
  | ahead
  | behind (least greatest : Nat)
deriving DecidableEq, Repr

inductive Piece where
  | code (x : Nat)
  | notCode (x : Nat)
  | any
  | oneOf (negated : Bool) (items : List ClassItem)
  | anchor (a : Anchor)
  | group (index : Option Nat) (add del : Flags) (body : List Piece)
  | choice (alternatives : List (List Piece))
  | loop (greed : Greed) (least : Nat) (most : Option Nat) (body : List Piece)
  | atomic (body : List Piece)
  | look (side : Side) (negated : Bool) (body : List Piece)
  | backref (group : Nat)
  | ifGroup (group : Nat) (yes : List Piece) (no : Option (List Piece))
deriving Inhabited

/-- A bound that stands for "no bound" on widths. -/
def endless : Nat := Nat.pow 2 64

/-- The least and greatest number of characters of a match. -/
structure Width where
  least : Nat
  greatest : Nat
deriving DecidableEq, Repr, Inhabited

namespace Width

def zero : Width := ⟨0, 0⟩

def one : Width := ⟨1, 1⟩

def capped (w : Width) : Width := ⟨min w.least endless, min w.greatest endless⟩

def add (v w : Width) : Width := ⟨v.least + w.least, v.greatest + w.greatest⟩

def either (v w : Width) : Width := ⟨min v.least w.least, max v.greatest w.greatest⟩

def times (w : Width) (least : Nat) (most : Option Nat) : Width :=
  { least := w.least * least
    greatest := match most with
      | some n => w.greatest * n
      | none => if w.greatest = 0 then 0 else endless }

end Width

mutual

/-- The width of a piece, given the widths of the groups that have been closed. -/
def Piece.width (groups : Array (Option Width)) : Piece → Width
  | .code _ | .notCode _ | .any | .oneOf _ _ => .one
  | .anchor _ | .look _ _ _ => .zero
  | .group _ _ _ body => widthOf groups body
  | .choice alternatives => widthOfAny groups alternatives
  | .loop _ least most body => (widthOf groups body).times least most
  | .atomic body => widthOf groups body
  | .backref g => ((groups[g]?).getD none).getD .zero
  | .ifGroup _ yes none => ⟨0, (widthOf groups yes).greatest⟩
  | .ifGroup _ yes (some no) => (widthOf groups yes).either (widthOf groups no)

def widthOf (groups : Array (Option Width)) : List Piece → Width
  | [] => .zero
  | p :: ps => ((p.width groups).add (widthOf groups ps)).capped

def widthOfAny (groups : Array (Option Width)) : List (List Piece) → Width
  | [] => ⟨endless, 0⟩
  | [alternative] => widthOf groups alternative
  | alternative :: more => (widthOf groups alternative).either (widthOfAny groups more)

end

end RuleTree.Pattern
