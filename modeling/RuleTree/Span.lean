/-!
# Spans

A span is a region of the input of a matcher, relative to its start. Its coordinates are integers,
which a matcher function may also hand over as truth values; they then count as 0 and 1 but keep
their spelling.
-/

namespace RuleTree

inductive Whole where
  | int (i : Int)
  | truth (b : Bool)
deriving DecidableEq, Repr, Inhabited

namespace Whole

def val : Whole → Int
  | int i => i
  | truth true => 1
  | truth false => 0

def text : Whole → String
  | int i => toString i
  | truth true => "True"
  | truth false => "False"

end Whole

structure Span where
  offset : Whole
  length : Whole
deriving DecidableEq, Repr, Inhabited

namespace Span

def of (offset length : Int) : Span := ⟨.int offset, .int length⟩

def start (s : Span) : Int := s.offset.val

def size (s : Span) : Int := s.length.val

/-- The offset just behind the region. -/
def stop (s : Span) : Int := s.start + s.size

/-- The span of a group that took no part in a match. -/
def absent : Span := of (-1) 0

def pairText (s : Span) : String := "(" ++ s.offset.text ++ ", " ++ s.length.text ++ ")"

def text (s : Span) : String :=
  "Span(offset=" ++ s.offset.text ++ ", length=" ++ s.length.text ++ ")"

@[simp] theorem start_of (o l : Int) : (of o l).start = o := rfl

@[simp] theorem size_of (o l : Int) : (of o l).size = l := rfl

@[simp] theorem stop_of (o l : Int) : (of o l).stop = o + l := rfl

end Span

end RuleTree
