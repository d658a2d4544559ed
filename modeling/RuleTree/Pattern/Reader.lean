import RuleTree.Number.Decimal
import RuleTree.Pattern.Complaint
import RuleTree.Pattern.Piece
import RuleTree.Text.Identifier
import RuleTree.Text.Letter

/-!
# Reading patterns

A pattern is read token by token, a token being a character or a backslash with the character after
it. The next token is always known, so a backslash at the end of the pattern is reported as soon as
the token before it is taken. Recursion is bounded by a fuel that exceeds the number of tokens. The
names of characters are not known, so an escape by name is always refused.
-/

namespace RuleTree.Pattern

structure Token where
  char : Char
  escaped : Bool
deriving DecidableEq, Repr

def Token.text (t : Token) : Text := if t.escaped then ['\\', t.char] else [t.char]

def Token.size (t : Token) : Nat := if t.escaped then 2 else 1

structure Reader where
  source : Array Char
  /-- The place just behind the next token. -/
  index : Nat := 0
  next : Option Token := none
  flags : Flags
  /-- Widths of the groups opened so far, known for the closed ones. Group 0 is never closed. -/
  widths : Array (Option Width) := #[none]
  names : List (Text × Nat) := []
  /-- The number of groups there were when the outermost open look-behind began. -/
  behind : Option Nat := none
  /-- Group numbers used as conditions, with the place of their first use, latest first. -/
  conditions : List (Nat × Nat) := []

abbrev Read := StateT Reader (Except Fault)

namespace Reader

def place (r : Reader) : Nat := r.index - (r.next.map Token.size).getD 0

def fuel (r : Reader) : Nat := 2 * r.source.size + 8

def groupClosed (r : Reader) (g : Nat) : Bool := ((r.widths[g]?).getD none).isSome

end Reader

namespace Read

def complainAt (position : Nat) (c : Complaint) : Read α :=
  throw (.malformed ⟨c, some position⟩)

/-- Complains about the place `back` characters before the next token. -/
def complain (c : Complaint) (back : Nat) : Read α := do
  complainAt ((← get).place - back) c

def advance : Read Unit := do
  let r ← get
  match r.source[r.index]? with
  | none => set { r with next := none }
  | some '\\' =>
    match r.source[r.index + 1]? with
    | none => complainAt (r.source.size - 1) .loneBackslash
    | some c => set { r with index := r.index + 2, next := some ⟨c, true⟩ }
  | some c => set { r with index := r.index + 1, next := some ⟨c, false⟩ }

def seek (index : Nat) : Read Unit := do
  modify fun r => { r with index := index }
  advance

def peek : Read (Option Token) := return (← get).next

def take : Read (Option Token) := do
  let t ← peek
  advance
  return t

/-- Takes the next token if it is the given plain character. -/
def skip (c : Char) : Read Bool := do
  if (← peek) = some ⟨c, false⟩ then
    advance
    return true
  return false

/-- Takes up to `n` plain characters of a class. -/
def takeWhile (p : Char → Bool) : Nat → Read Text
  | 0 => return []
  | n + 1 => do
    match ← peek with
    | some ⟨c, false⟩ =>
      if p c then
        advance
        return c :: (← takeWhile p n)
      return []
    | _ => return []

/-- Takes a name up to its terminator. -/
def takeName (terminator : Char) (what : String) : Nat → Text → Read Text
  | 0, _ => complain (.missingName what) 0
  | fuel + 1, sofar => do
    match ← take with
    | none =>
      if sofar = [] then complain (.missingName what) 0
      else complain (.unclosedName terminator) sofar.length
    | some t =>
      if t = ⟨terminator, false⟩ then
        if sofar = [] then complain (.missingName what) 1 else return sofar
      else takeName terminator what fuel (sofar ++ t.text)

def isOctal (c : Char) : Bool := '0' ≤ c && c ≤ '7'

def isHex (c : Char) : Bool := (Number.digitIn? 16 c).isSome

/-- An escape with exactly `digits` hexadecimal digits. -/
def hexEscape (t : Token) (digits : Nat) : Read Nat := do
  let ds ← takeWhile isHex digits
  let escape := t.text ++ ds
  if ds.length ≠ digits then complain (.incompleteEscape escape) escape.length
  let x := (Number.natIn? 16 ds).getD 0
  if 0x110000 ≤ x then complain (.badEscape escape) escape.length
  return x

/-- Reads an escape by name and refuses it as one that no character has. -/
def namedEscape : Read Nat := do
  unless ← skip '\x7b' do complain .missingBrace 0
  let name ← takeName '\x7d' "character name" (← get).fuel []
  complain (.unknownCharacter name) (name.length + 4)

def controlCode? (c : Char) : Option Nat :=
  match c with
  | 'a' => some 7
  | 'b' => some 8
  | 'f' => some 12
  | 'n' => some 10
  | 'r' => some 13
  | 't' => some 9
  | 'v' => some 11
  | '\\' => some 92
  | _ => none

def kindItem? (c : Char) : Option ClassItem :=
  match c with
  | 'd' => some (.kind .digit false)
  | 'D' => some (.kind .digit true)
  | 's' => some (.kind .blank false)
  | 'S' => some (.kind .blank true)
  | 'w' => some (.kind .word false)
  | 'W' => some (.kind .word true)
  | _ => none

def anchor? (c : Char) : Option Anchor :=
  match c with
  | 'A' => some .textStart
  | 'b' => some .wordEdge
  | 'B' => some .noWordEdge
  | 'Z' => some .textEnd
  | _ => none

/-- An escape inside a character set. -/
def setEscape (t : Token) : Read ClassItem := do
  match controlCode? t.char with
  | some x => return .code x
  | none =>
  match kindItem? t.char with
  | some item => return item
  | none =>
    match t.char with
    | 'x' => return .code (← hexEscape t 2)
    | 'u' => return .code (← hexEscape t 4)
    | 'U' => return .code (← hexEscape t 8)
    | 'N' => return .code (← namedEscape)
    | c =>
      if isOctal c then
        let ds := c :: (← takeWhile isOctal 2)
        let x := (Number.natIn? 8 ds).getD 0
        if 0o377 < x then complain (.octalTooLarge ('\\' :: ds)) (ds.length + 1)
        return .code x
      if c.isDigit || c.isAlpha then complain (.badEscape t.text) 2
      return .code c.toNat

/-- Refuses a reference to a group that a look-behind cannot rely on. -/
def checkBehind (group : Nat) : Read Unit := do
  let r ← get
  match r.behind with
  | none => return
  | some first =>
    unless r.groupClosed group do complain .openGroup 0
    if first ≤ group then complain .groupOfSameLookBehind 0

/-- A backslash and decimal digits: three octal digits are a character, all else refers to a
group. -/
def digitEscape (c : Char) : Read Piece := do
  let second ← match ← peek with
    | some ⟨d, false⟩ => if d.isDigit then takeWhile Char.isDigit 1 else pure []
    | _ => pure []
  let ds := c :: second
  let third ← if second ≠ [] && ds.all isOctal then takeWhile isOctal 1 else pure []
  if third ≠ [] then
    let ds := ds ++ third
    let x := (Number.natIn? 8 ds).getD 0
    if 0o377 < x then complain (.octalTooLarge ('\\' :: ds)) (ds.length + 1)
    return .code x
  let group := (Number.natIn? 10 ds).getD 0
  let r ← get
  if group < r.widths.size then
    unless r.groupClosed group do complain .openGroup (ds.length + 1)
    checkBehind group
    return .backref group
  complain (.noSuchGroup group) ds.length

/-- An escape outside character sets. -/
def escape (t : Token) : Read Piece := do
  match anchor? t.char with
  | some a => return .anchor a
  | none =>
  match kindItem? t.char with
  | some item => return .oneOf false [item]
  | none =>
  match controlCode? t.char with
  | some x => return .code x
  | none =>
    match t.char with
    | 'x' => return .code (← hexEscape t 2)
    | 'u' => return .code (← hexEscape t 4)
    | 'U' => return .code (← hexEscape t 8)
    | 'N' => return .code (← namedEscape)
    | '0' =>
      let ds ← takeWhile isOctal 2
      return .code ((Number.natIn? 8 ('0' :: ds)).getD 0)
    | c =>
      if c.isDigit then digitEscape c
      else if c.isAlpha then complain (.badEscape t.text) 2
      else return .code c.toNat

def setItem (t : Token) : Read ClassItem :=
  if t.escaped then setEscape t else return .code t.char.toNat

/-- The items of a character set that began at `start`, up to and including its end. -/
def setItems (start : Nat) : Nat → List ClassItem → Read (List ClassItem)
  | 0, _ => complainAt start .unclosedSet
  | fuel + 1, items => do
    match ← take with
    | none => complainAt start .unclosedSet
    | some this =>
      if this = ⟨']', false⟩ && !items.isEmpty then return items.reverse
      let first ← setItem this
      if ← skip '-' then
        match ← take with
        | none => complainAt start .unclosedSet
        | some that =>
          if that = ⟨']', false⟩ then return (.code 45 :: first :: items).reverse
          let second ← setItem that
          match first, second with
          | .code lo, .code hi =>
            if hi < lo then
              complain (.badRange this.text that.text) (this.size + 1 + that.size)
            setItems start fuel (.range lo hi :: items)
          | _, _ => complain (.badRange this.text that.text) (this.size + 1 + that.size)
      else setItems start fuel (first :: items)

def charSet : Read Piece := do
  let start := (← get).place - 1
  let negated ← skip '^'
  let items ← setItems start (← get).fuel []
  match negated, items.eraseDups with
  | false, [.code x] => return .code x
  | true, [.code x] => return .notCode x
  | _, items => return .oneOf negated items

/-- A bound from here on is too large to be counted. -/
def longestLoop : Nat := 4294967295

/-- The bounds of a repetition, or nothing where an opening brace is a plain character. -/
def bounds (mark : Char) : Read (Option (Nat × Option Nat)) := do
  match mark with
  | '?' => return some (0, some 1)
  | '*' => return some (0, none)
  | '+' => return some (1, none)
  | _ =>
    let here := (← get).place
    if (← peek) = some ⟨'\x7d', false⟩ then return none
    let lo ← takeWhile Char.isDigit (← get).fuel
    let hi ← if ← skip ',' then takeWhile Char.isDigit (← get).fuel else pure lo
    unless ← skip '\x7d' do
      seek here
      return none
    let least := Number.natIn? 10 lo
    let most := Number.natIn? 10 hi
    if longestLoop ≤ least.getD 0 || longestLoop ≤ most.getD 0 then throw .hugeRepetition
    match most with
    | some m => if m < least.getD 0 then complainAt here .leastAboveMost
    | none => pure ()
    return some (least.getD 0, most)

/-- The mark behind a repetition, if there is one. -/
def greed : Read Greed := do
  if ← skip '?' then return .lazy
  if ← skip '+' then return .possessive
  return .greedy

/-- Puts a repetition around the last piece. -/
def quantify (place : Nat) (least : Nat) (most : Option Nat) (pieces : List Piece) :
    Read (List Piece) := do
  match pieces with
  | [] | .anchor _ :: _ => complainAt place .nothingToRepeat
  | .loop _ _ _ _ :: _ => complainAt place .repeatedRepeat
  | last :: before =>
    return .loop (← greed) least most [last] :: before

def skipLine : Nat → Read Unit
  | 0 => return
  | fuel + 1 => do
    match ← take with
    | none => return
    | some t => if t = ⟨'\n', false⟩ then return else skipLine fuel

def skipComment (start : Nat) : Nat → Read Unit
  | 0 => complainAt start .unclosedComment
  | fuel + 1 => do
    if (← peek) = none then complainAt start .unclosedComment
    if (← take) = some ⟨')', false⟩ then return
    skipComment start fuel

def isLetterToken (t : Token) : Bool := !t.escaped && Text.isLetter t.char

def letterFlag? (t : Token) : Option Flags := if t.escaped then none else Flags.ofLetter? t.char

/-- The flags after the minus sign of a flag group, from the letter `t` on. -/
def flagsOff : Nat → Token → Flags → Read Flags
  | 0, _, off => return off
  | fuel + 1, t, off => do
    let flag := (letterFlag? t).getD {}
    unless (flag.inter .repertoire).isEmpty do complain .repertoireTurnedOff 0
    let off := off.union flag
    match ← take with
    | none => complain .colonMissing 0
    | some u =>
      if u = ⟨':', false⟩ then return off
      if (letterFlag? u).isNone then
        complain (if isLetterToken u then .unknownFlag else .colonMissing) u.size
      flagsOff fuel u off

/-- The flags from the letter `t` on, and the character that ends them. -/
def flagsOn : Nat → Token → Flags → Read (Flags × Char)
  | 0, _, on => return (on, ')')
  | fuel + 1, t, on => do
    let flag := (letterFlag? t).getD {}
    if flag.locale then complain .localeLetter 0
    let on := on.union flag
    if !(flag.inter .repertoire).isEmpty && on.inter .repertoire != flag then
      complain .mixedRepertoires 0
    match ← take with
    | none => complain .flagsUnfinished 0
    | some u =>
      if !u.escaped && (u.char = ')' || u.char = '-' || u.char = ':') then return (on, u.char)
      if (letterFlag? u).isNone then
        complain (if isLetterToken u then .unknownFlag else .flagsUnfinished) u.size
      flagsOn fuel u on

/-- A flag group after its first character. Nothing is returned for flags of the whole pattern,
which take effect at once. -/
def flagGroup (t : Token) : Read (Option (Flags × Flags)) := do
  let fuel := (← get).fuel
  let (on, ending) ← if t.char = '-' then pure (Flags.none, '-') else flagsOn fuel t .none
  if ending = ')' then
    modify fun r => { r with flags := r.flags.union on }
    return none
  unless (on.inter .indivisible).isEmpty do complain .flagTurnsOnWhole 1
  let off ← if ending = '-' then do
      match ← take with
      | none => complain .flagMissing 0
      | some u =>
        if (letterFlag? u).isNone then
          complain (if isLetterToken u then .unknownFlag else .flagMissing) u.size
        flagsOff fuel u .none
    else pure Flags.none
  unless (off.inter .indivisible).isEmpty do complain .flagTurnsOffWhole 1
  unless (on.inter off).isEmpty do complain .flagOnAndOff 1
  return some (on, off)

def checkName (name : Text) : Read Unit :=
  unless Text.isIdentifier name do complain (.badName name) (name.length + 1)

def openGroup (name : Option Text) : Read Nat := do
  let r ← get
  let index := r.widths.size
  match name with
  | none => set { r with widths := r.widths.push none }
  | some n =>
    match r.names.lookup n with
    | some earlier => complain (.repeatedName n index earlier) (n.length + 1)
    | none => set { r with widths := r.widths.push none, names := (n, index) :: r.names }
  return index

def closeGroup (index : Nat) (body : List Piece) : Read Unit :=
  modify fun r => { r with widths := r.widths.setIfInBounds index (some (widthOf r.widths body)) }

/-- A reference to a group by name. -/
def namedReference : Read Piece := do
  let name ← takeName ')' "group name" (← get).fuel []
  checkName name
  let r ← get
  match r.names.lookup name with
  | none => complain (.unknownName name) (name.length + 1)
  | some group =>
    unless r.groupClosed group do complain .openGroup (name.length + 1)
    checkBehind group
    return .backref group

/-- Group numbers from here on do not exist in any pattern. -/
def highestGroup : Nat := 1073741823

/-- The group that a condition asks for, by name or by number. -/
def conditionGroup : Read Nat := do
  let name ← takeName ')' "group name" (← get).fuel []
  let r ← get
  let group ← if Text.isIdentifier name then
      match r.names.lookup name with
      | none => complain (.unknownName name) (name.length + 1)
      | some group => pure group
    else
      match Number.readInt? 10 name with
      | none => complain (.badName name) (name.length + 1)
      | some i =>
        if i < 0 then complain (.badName name) (name.length + 1)
        let group := i.toNat
        if group = 0 then complain .groupNumberZero (name.length + 1)
        if highestGroup ≤ group then complain (.noSuchGroup group) (name.length + 1)
        if (r.conditions.lookup group).isNone then
          modify fun r => { r with
            conditions := (group, r.place - name.length - 1) :: r.conditions }
        pure group
  checkBehind group
  return group

/-- What the characters after an opening parenthesis announce. -/
inductive Opening where
  | group (name : Option Text)
  | plain (add del : Flags)
  | atomic
  | look (behind negated : Bool)
  | condition (group : Nat)
  /-- A piece that is complete already. -/
  | done (piece : Piece)
  /-- A comment, which leaves nothing. -/
  | nothing
  /-- Flags of the whole pattern. -/
  | flags

def lookOpening (behind : Bool) (c : Char) : Opening := .look behind (c = '!')

def opening (start : Nat) : Read Opening := do
  unless ← skip '?' do return .group none
  match ← take with
  | none => complain .unexpectedEnd 0
  | some t =>
    if t.escaped then complain (.unknownExtension t.text) 3
    match t.char with
    | 'P' =>
      if ← skip '<' then
        let name ← takeName '>' "group name" (← get).fuel []
        checkName name
        return .group (some name)
      if ← skip '=' then return .done (← namedReference)
      match ← take with
      | none => complain .unexpectedEnd 0
      | some u => complain (.unknownExtension ('P' :: u.text)) (u.size + 2)
    | ':' => return .plain .none .none
    | '#' =>
      skipComment start (← get).fuel
      return .nothing
    | '=' | '!' => return lookOpening false t.char
    | '<' =>
      match ← take with
      | none => complain .unexpectedEnd 0
      | some u =>
        if u = ⟨'=', false⟩ || u = ⟨'!', false⟩ then return lookOpening true u.char
        complain (.unknownExtension ('<' :: u.text)) (u.size + 2)
    | '(' => return .condition (← conditionGroup)
    | '>' => return .atomic
    | c =>
      if (Flags.ofLetter? c).isSome || c = '-' then
        match ← flagGroup t with
        | none => return .flags
        | some (add, del) => return .plain add del
      complain (.unknownExtension [c]) 2

def expectClose (start : Nat) : Read Unit := do
  unless ← skip ')' do complainAt start .unclosedGroup

def inVerbose (verbose : Bool) (add del : Flags) : Bool :=
  (verbose || add.verbose) && !del.verbose

/-- The pieces read so far, latest first, put in order. -/
def finish (pieces : List Piece) : List Piece := pieces.reverse

mutual

/-- Alternatives separated by bars. At the outermost level the verbose flag may have been switched
on by the alternative before. -/
def alternatives (fuel : Nat) (verbose : Bool) (outermost : Bool) (earlier : List (List Piece)) :
    Read (List Piece) :=
  match fuel with
  | 0 => complain .unexpectedEnd 0
  | fuel + 1 => do
    let pieces ← sequence fuel verbose (outermost && earlier.isEmpty) []
    if ← skip '|' then
      let flags := (← get).flags
      alternatives fuel (if outermost then flags.verbose else verbose) outermost (pieces :: earlier)
    else if earlier.isEmpty then return pieces
    else return [.choice (pieces :: earlier).reverse]

/-- Pieces up to a bar, a closing parenthesis or the end. Only in the first alternative of the whole
pattern may flags of the whole pattern stand. -/
def sequence (fuel : Nat) (verbose first : Bool) (pieces : List Piece) : Read (List Piece) :=
  match fuel with
  | 0 => complain .unexpectedEnd 0
  | fuel + 1 => do
    match ← peek with
    | none => return finish pieces
    | some t =>
      if t = ⟨'|', false⟩ || t = ⟨')', false⟩ then return finish pieces
      advance
      if t.escaped then
        let piece ← escape t
        return ← sequence fuel verbose first (piece :: pieces)
      if verbose && (t.char = ' ' || (9 ≤ t.char.toNat && t.char.toNat ≤ 13)) then
        return ← sequence fuel verbose first pieces
      if verbose && t.char = '#' then
        skipLine (← get).fuel
        return ← sequence fuel verbose first pieces
      match t.char with
      | '[' =>
        let piece ← charSet
        sequence fuel verbose first (piece :: pieces)
      | '.' => sequence fuel verbose first (.any :: pieces)
      | '^' => sequence fuel verbose first (.anchor .lineStart :: pieces)
      | '$' => sequence fuel verbose first (.anchor .lineEnd :: pieces)
      | '(' => group fuel verbose first pieces
      | c =>
        if c = '*' || c = '+' || c = '?' || c = '\x7b' then
          let place := (← get).place - 1
          match ← bounds c with
          | none => sequence fuel verbose first (.code c.toNat :: pieces)
          | some (least, most) =>
            let pieces ← quantify place least most pieces
            sequence fuel verbose first pieces
        else sequence fuel verbose first (.code c.toNat :: pieces)

/-- A parenthesis and the rest of its sequence. -/
def group (fuel : Nat) (verbose first : Bool) (pieces : List Piece) : Read (List Piece) :=
  match fuel with
  | 0 => complain .unexpectedEnd 0
  | fuel + 1 => do
    let start := (← get).place - 1
    match ← opening start with
    | .nothing => sequence fuel verbose first pieces
    | .done piece => sequence fuel verbose first (piece :: pieces)
    | .flags =>
      if !first || !pieces.isEmpty then complainAt start .lateFlags
      let verbose := (← get).flags.verbose
      sequence fuel verbose first pieces
    | .look behind negated =>
      let outer := (← get).behind
      if behind && outer.isNone then
        modify fun r => { r with behind := some r.widths.size }
      let body ← alternatives fuel verbose false []
      if behind && outer.isNone then modify fun r => { r with behind := none }
      expectClose start
      let width := widthOf (← get).widths body
      let side := if behind then Side.behind width.least width.greatest else Side.ahead
      sequence fuel verbose first (.look side negated body :: pieces)
    | .condition index =>
      let yes ← sequence fuel verbose false []
      let no ← if ← skip '|' then do
          let no ← sequence fuel verbose false []
          if (← peek) = some ⟨'|', false⟩ then complain .thirdBranch 0
          pure (some no)
        else pure none
      expectClose start
      sequence fuel verbose first (.ifGroup index yes no :: pieces)
    | .atomic =>
      let body ← alternatives fuel verbose false []
      expectClose start
      sequence fuel verbose first (.atomic body :: pieces)
    | .plain add del =>
      let body ← alternatives fuel (inVerbose verbose add del) false []
      expectClose start
      sequence fuel verbose first (.group none add del body :: pieces)
    | .group name =>
      let index ← openGroup name
      let body ← alternatives fuel verbose false []
      expectClose start
      closeGroup index body
      sequence fuel verbose first (.group (some index) {} {} body :: pieces)

end

end Read

end RuleTree.Pattern
