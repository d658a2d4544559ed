import RuleTree.Pattern.Basic
import RuleTree.Text.Alphanumeric
import RuleTree.Text.Blank
import RuleTree.Text.Digit
import RuleTree.Text.LetterCase

/-!
# Searching patterns

A backtracking search: a piece is run at a cursor with a continuation that says whether the rest of
the pattern can match from where the piece ends. The first success in order of preference wins. A
cursor carries the marks of the groups; a failed attempt leaves no marks behind.

A repetition that has reached its least count does not try again from a place where it has just
tried, so every repetition makes at most as many rounds as its fuel allows.
-/

namespace RuleTree.Pattern

structure Cursor where
  place : Nat
  /-- Start and end of every group, at `2 * (group - 1)` and the index after it. -/
  marks : Array (Option Nat)
deriving Inhabited

abbrev Continue := Cursor → Option Cursor

def Cursor.mark (c : Cursor) (i : Nat) : Cursor :=
  { c with marks := c.marks.setIfInBounds i (some c.place) }

def Cursor.markAt (c : Cursor) (i : Nat) : Option Nat := (c.marks[i]?).getD none

/-- The region of a group that has been passed. -/
def Cursor.region? (c : Cursor) (group : Nat) : Option (Nat × Nat) :=
  match c.markAt (2 * (group - 1)), c.markAt (2 * (group - 1) + 1) with
  | some s, some e => if s ≤ e then some (s, e) else none
  | _, _ => none

/-! ## Single characters -/

def CharKind.holds (f : Flags) (c : Char) : CharKind → Bool
  | .digit => if f.ascii then c.isDigit else Text.isDecimalDigit c
  | .blank => if f.ascii then Text.isAsciiBlank c else Text.isBlank c
  | .word => if f.ascii then c.isAlphanum || c == '_' else Text.isWordChar c

/-- The code point that stands for `x` when case is ignored. -/
def fold (f : Flags) (x : Nat) : Nat := if f.ascii then Text.asciiLowerCode x else Text.lowerCode x

/-- The folded code points that count as equal to the folded code point `x`. -/
def foldClass (f : Flags) (x : Nat) : List Nat := if f.ascii then [x] else Text.caseClass x

/-- Some code point between `lo` and `hi` folds to `x`. -/
def foldsInto (f : Flags) (lo hi x : Nat) : Bool :=
  let within (y : Nat) : Bool := lo ≤ y && y ≤ hi && fold f y == x
  within x ||
    if f.ascii then within (x - 32)
    else Text.lowerRuns.any fun r => within ((x : Int) - r.delta).toNat

def matchesCode (f : Flags) (x : Nat) (c : Char) : Bool :=
  if f.ignoreCase then (foldClass f (fold f x)).contains (fold f c.toNat) else c.toNat == x

def ClassItem.holds (f : Flags) (c : Char) : ClassItem → Bool
  | .code x => matchesCode f x c
  | .range lo hi =>
    if f.ignoreCase then (foldClass f (fold f c.toNat)).any (foldsInto f lo hi)
    else lo ≤ c.toNat && c.toNat ≤ hi
  | .kind k negated =>
    let c := if f.ignoreCase then Char.ofNat (fold f c.toNat) else c
    k.holds f c != negated

/-- The test that a piece for a single character makes. -/
def Piece.test? (f : Flags) : Piece → Option (Char → Bool)
  | .code x => some (matchesCode f x)
  | .notCode x => some fun c => !matchesCode f x c
  | .any => some fun c => f.dotAll || c != '\n'
  | .oneOf negated items => some fun c => items.any (·.holds f c) != negated
  | _ => none

/-! ## Places -/

def wordAt (f : Flags) (s : Array Char) (i : Nat) : Bool :=
  match s[i]? with
  | some c => CharKind.word.holds f c
  | none => false

def atWordEdge (f : Flags) (s : Array Char) (i : Nat) : Bool :=
  (i != 0 && wordAt f s (i - 1)) != wordAt f s i

def Anchor.holds (f : Flags) (s : Array Char) (i : Nat) : Anchor → Bool
  | .textStart => i == 0
  | .textEnd => i == s.size
  | .lineStart => i == 0 || (f.multiline && s[i - 1]? == some '\n')
  | .lineEnd =>
    i == s.size || (s[i]? == some '\n' && (f.multiline || i + 1 == s.size))
  | .wordEdge => s.size != 0 && atWordEdge f s i
  | .noWordEdge => s.size != 0 && !atWordEdge f s i

/-! ## Repetition of single characters -/

/-- How many characters from `i` on pass the test, at most `n`. -/
def runLength (s : Array Char) (test : Char → Bool) (i : Nat) : Nat → Nat → Nat
  | 0, sofar => sofar
  | n + 1, sofar =>
    match s[i + sofar]? with
    | some c => if test c then runLength s test i n (sofar + 1) else sofar
    | none => sofar

/-- Tries the continuation after `least + extra` characters, then after fewer. -/
def fewer (c : Cursor) (k : Continue) (least : Nat) : Nat → Option Cursor
  | 0 => k { c with place := c.place + least }
  | extra + 1 =>
    match k { c with place := c.place + least + (extra + 1) } with
    | some d => some d
    | none => fewer c k least extra

/-- Tries the continuation after `n` characters, then after more, up to `extra` more. -/
def more (c : Cursor) (k : Continue) : Nat → Nat → Option Cursor
  | 0, n => k { c with place := c.place + n }
  | extra + 1, n =>
    match k { c with place := c.place + n } with
    | some d => some d
    | none => more c k extra (n + 1)

def runSingles (s : Array Char) (test : Char → Bool) (greed : Greed) (least : Nat)
    (most : Option Nat) (c : Cursor) (k : Continue) : Option Cursor :=
  let room := s.size - c.place
  let found := runLength s test c.place (match most with
    | some m => min m room
    | none => room) 0
  if found < least then none
  else match greed with
    | .greedy => fewer c k least (found - least)
    | .lazy => more c k (found - least) least
    | .possessive => k { c with place := c.place + found }

/-! ## Repetition of anything -/

abbrev Body := Cursor → Continue → Option Cursor

def below (count : Nat) : Option Nat → Bool
  | some m => count < m
  | none => true

/-- `tried` is the place of the last optional round. -/
def runGreedy (body : Body) (least : Nat) (most : Option Nat) (k : Continue) :
    Nat → Nat → Option Nat → Cursor → Option Cursor
  | 0, _, _, _ => none
  | fuel + 1, count, tried, c =>
    if count < least then body c fun d => runGreedy body least most k fuel (count + 1) tried d
    else if below count most && tried != some c.place then
      match body c fun d => runGreedy body least most k fuel (count + 1) (some c.place) d with
      | some d => some d
      | none => k c
    else k c

def runLazy (body : Body) (least : Nat) (most : Option Nat) (k : Continue) :
    Nat → Nat → Option Nat → Cursor → Option Cursor
  | 0, _, _, _ => none
  | fuel + 1, count, tried, c =>
    if count < least then body c fun d => runLazy body least most k fuel (count + 1) tried d
    else match k c with
      | some d => some d
      | none =>
        if below count most && tried != some c.place then
          body c fun d => runLazy body least most k fuel (count + 1) (some c.place) d
        else none

def runPossessive (body : Body) (least : Nat) (most : Option Nat) (k : Continue) :
    Nat → Nat → Cursor → Option Cursor
  | 0, _, _ => none
  | fuel + 1, count, c =>
    if count < least then
      match body c some with
      | some d => runPossessive body least most k fuel (count + 1) d
      | none => none
    else if below count most then
      match body c some with
      | some d =>
        if d.place = c.place then k d else runPossessive body least most k fuel (count + 1) d
      | none => k c
    else k c

def runLoop (s : Array Char) (body : Body) (greed : Greed) (least : Nat) (most : Option Nat)
    (c : Cursor) (k : Continue) : Option Cursor :=
  let fuel := least + (s.size - c.place) + 2
  match greed with
  | .greedy => runGreedy body least most k fuel 0 none c
  | .lazy => runLazy body least most k fuel 0 none c
  | .possessive => runPossessive body least most k fuel 0 c

/-! ## References -/

/-- The characters of a region stand again at the cursor. -/
def repeats (f : Flags) (s : Array Char) (start size place : Nat) : Bool :=
  (List.range size).all fun i =>
    match s[start + i]?, s[place + i]? with
    | some a, some b =>
      if f.ignoreCase then fold f a.toNat == fold f b.toNat else a == b
    | _, _ => false

def runReference (f : Flags) (s : Array Char) (group : Nat) (c : Cursor) (k : Continue) :
    Option Cursor :=
  match c.region? group with
  | none => none
  | some (start, stop) =>
    if repeats f s start (stop - start) c.place then
      k { c with place := c.place + (stop - start) }
    else none

/-! ## Pieces -/

def runLook (side : Side) (negated : Bool) (body : Body) (c : Cursor) (k : Continue) :
    Option Cursor :=
  let from? : Option Nat := match side with
    | .ahead => some c.place
    | .behind width _ => if width ≤ c.place then some (c.place - width) else none
  let found := from?.bind fun i => body { c with place := i } some
  match found, negated with
  | some d, false => k { d with place := c.place }
  | none, true => k c
  | _, _ => none

mutual

def Piece.run (s : Array Char) (f : Flags) : Piece → Cursor → Continue → Option Cursor
  | .group index add del body, c, k =>
    match index with
    | none => runAll s (f.within add del) body c k
    | some g =>
      runAll s (f.within add del) body (c.mark (2 * (g - 1))) fun d => k (d.mark (2 * (g - 1) + 1))
  | .choice alternatives, c, k => runAny s f alternatives c k
  | .loop greed least most body, c, k =>
    match body with
    | [p] =>
      match p.test? f with
      | some test => runSingles s test greed least most c k
      | none => runLoop s (fun d l => p.run s f d l) greed least most c k
    | ps => runLoop s (fun d l => runAll s f ps d l) greed least most c k
  | .atomic body, c, k =>
    match runAll s f body c some with
    | some d => k d
    | none => none
  | .look side negated body, c, k => runLook side negated (fun d l => runAll s f body d l) c k
  | .backref g, c, k => runReference f s g c k
  | .ifGroup g yes no, c, k =>
    match c.region? g, no with
    | some _, _ => runAll s f yes c k
    | none, some ps => runAll s f ps c k
    | none, none => k c
  | .anchor a, c, k => if a.holds f s c.place then k c else none
  | p, c, k =>
    match p.test? f, s[c.place]? with
    | some test, some ch => if test ch then k { c with place := c.place + 1 } else none
    | _, _ => none

def runAll (s : Array Char) (f : Flags) : List Piece → Cursor → Continue → Option Cursor
  | [], c, k => k c
  | p :: ps, c, k => p.run s f c fun d => runAll s f ps d k

def runAny (s : Array Char) (f : Flags) : List (List Piece) → Cursor → Continue → Option Cursor
  | [], _, _ => none
  | ps :: more, c, k =>
    match runAll s f ps c k with
    | some d => some d
    | none => runAny s f more c k

end

/-! ## Whole patterns -/

/-- Where a search succeeded: the regions of the whole match and of the groups. -/
structure Found where
  start : Nat
  stop : Nat
  groups : List (Option (Nat × Nat))
deriving DecidableEq, Repr

/-- A region counts only if it lies within a text of `size` characters. -/
def clip (size : Nat) (r : Nat × Nat) : Option (Nat × Nat) :=
  if r.1 ≤ r.2 ∧ r.2 ≤ size then some r else none

def found? (p : Pattern) (size start : Nat) (c : Cursor) : Option Found :=
  (clip size (start, c.place)).map fun r =>
    { start := r.1
      stop := r.2
      groups := (List.range p.groups).map fun g => (c.region? (g + 1)).bind (clip size) }

/-- A match at a given place. -/
def matchAt (p : Pattern) (s : Array Char) (start : Nat) : Option Found :=
  let c : Cursor := ⟨start, Array.replicate (2 * p.groups) none⟩
  (runAll s p.flags p.pieces c some).bind (p.found? s.size start)

/-- The first match at `start` or, for as many further places as the fuel allows, behind it. -/
def searchFrom (p : Pattern) (s : Array Char) : Nat → Nat → Option Found
  | 0, start => p.matchAt s start
  | fuel + 1, start =>
    match p.matchAt s start with
    | some found => some found
    | none => p.searchFrom s fuel (start + 1)

/-- The pattern can only match at the start of the text. -/
def tied (p : Pattern) : Bool :=
  match p.pieces with
  | .anchor .textStart :: _ => true
  | _ => false

/-- The leftmost match of a pattern in a text. -/
def search (p : Pattern) (t : Text) : Option Found :=
  let s := t.toArray
  p.searchFrom s (if p.tied then 0 else s.size) 0

end RuleTree.Pattern
