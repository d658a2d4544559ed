import RuleTree.Number.Decimal
import RuleTree.Yaml.Token

/-!
# Reading YAML tokens

The characters of a stream are read once from front to back. A token that may turn out to be a key
without a question mark is remembered until a colon confirms it; the key token is then inserted in
front of it. Such a key must end on its line and within 1024 characters.

Every loop is bounded by a fuel that exceeds the length of the stream.
-/

namespace RuleTree.Yaml

/-- A token that may be a key. -/
structure PendingKey where
  flowLevel : Nat
  /-- The place of the token among all tokens. -/
  tokenIndex : Nat
  /-- In a block mapping at this column only a key can stand here. -/
  required : Bool
  index : Nat
  line : Nat
  column : Nat

structure Lexer where
  source : Array Char
  index : Nat := 0
  line : Nat := 0
  column : Nat := 0
  flowLevel : Nat := 0
  /-- The column of the innermost open block collection, or -1. -/
  indent : Int := -1
  indents : List Int := []
  keyAllowed : Bool := true
  pending : List PendingKey := []
  tokens : Array Token := #[]

abbrev Lex := StateT Lexer (Except Fault)

/-- The character that stands for the end of the stream. -/
def endMark : Char := Char.ofNat 0

def isBreak (c : Char) : Bool :=
  c = '\n' || c = '\r' || c.toNat = 0x85 || c.toNat = 0x2028 || c.toNat = 0x2029

def isBreakOrEnd (c : Char) : Bool := c = endMark || isBreak c

def isSpaceOrEnd (c : Char) : Bool := c = ' ' || isBreakOrEnd c

/-- A blank, a break or the end. -/
def isGap (c : Char) : Bool := c = '\t' || isSpaceOrEnd c

def isNameChar (c : Char) : Bool := c.isAlphanum || c = '-' || c = '_'

/-- The characters that a stream may hold. -/
def isAllowed (c : Char) : Bool :=
  let x := c.toNat
  x = 9 || x = 10 || x = 13 || (0x20 ≤ x && x ≤ 0x7e) || x = 0x85 || (0xa0 ≤ x && x ≤ 0xfffd) ||
    0x10000 ≤ x

namespace Lexer

def fuel (l : Lexer) : Nat := l.source.size + 4

def peekAt (l : Lexer) (n : Nat) : Char := (l.source[l.index + n]?).getD endMark

/-- The position after the next character. -/
def forward (l : Lexer) : Lexer :=
  match l.source[l.index]? with
  | none => l
  | some c =>
    let l := { l with index := l.index + 1 }
    if c = '\r' then
      if l.peekAt 0 = '\n' then { l with column := l.column + 1 }
      else { l with line := l.line + 1, column := 0 }
    else if isBreak c then { l with line := l.line + 1, column := 0 }
    else if c.toNat = 0xfeff then l
    else { l with column := l.column + 1 }

def advance (l : Lexer) : Nat → Lexer
  | 0 => l
  | n + 1 => l.forward.advance n

/-- Three dashes or dots that separate documents stand here. -/
def atSeparator (l : Lexer) : Bool :=
  let word := [l.peekAt 0, l.peekAt 1, l.peekAt 2]
  (word = ['-', '-', '-'] || word = ['.', '.', '.']) && isGap (l.peekAt 3)

end Lexer

namespace Lex

def fail : Lex α := throw .malformed

def peek (n : Nat) : Lex Char := return (← get).peekAt n

def forward (n : Nat) : Lex Unit := modify fun l => l.advance n

/-- The next `n` characters, taken. -/
def takeChars (n : Nat) : Lex Text := do
  let l ← get
  forward n
  return (List.range n).map l.peekAt

/-- How many characters in a row, from `n` on, pass a test. -/
def countWhile (p : Char → Bool) : Nat → Nat → Lex Nat
  | 0, n => return n
  | fuel + 1, n => do
    if p (← peek n) then countWhile p fuel (n + 1) else return n

def takeWhile (p : Char → Bool) : Lex Text := do
  takeChars (← countWhile p (← get).fuel 0)

def skipSpaces : Lex Unit := do
  let _ ← takeWhile (· = ' ')

/-- A line break, as the text it stands for; nothing where there is none. -/
def takeBreak : Lex Text := do
  let c ← peek 0
  if c = '\r' && (← peek 1) = '\n' then
    forward 2
    return ['\n']
  if c = '\r' || c = '\n' || c.toNat = 0x85 then
    forward 1
    return ['\n']
  if isBreak c then
    forward 1
    return [c]
  return []

def skipComment : Lex Unit := do
  if (← peek 0) = '#' then
    let _ ← takeWhile fun c => !isBreakOrEnd c

/-- The rest of a line that may only hold spaces and a comment. -/
def skipRestOfLine : Lex Unit := do
  skipSpaces
  skipComment
  unless isBreakOrEnd (← peek 0) do fail
  let _ ← takeBreak

/-! ## Pending keys and indentation -/

def push (t : Token) : Lex Unit := modify fun l => { l with tokens := l.tokens.push t }

/-- Forgets keys that can no longer be confirmed. -/
def dropStale : Lex Unit := do
  let l ← get
  let stale (k : PendingKey) : Bool := k.line != l.line || 1024 < l.index - k.index
  if l.pending.any fun k => stale k && k.required then fail
  set { l with pending := l.pending.filter fun k => !stale k }

/-- Forgets the key of the current flow level. -/
def dropKey : Lex Unit := do
  let l ← get
  if l.pending.any fun k => k.flowLevel = l.flowLevel && k.required then fail
  set { l with pending := l.pending.filter fun k => k.flowLevel != l.flowLevel }

/-- Remembers that the next token may be a key. -/
def saveKey : Lex Unit := do
  let l ← get
  if l.keyAllowed then
    let required := l.flowLevel = 0 && l.indent = (l.column : Int)
    dropKey
    modify fun l => { l with
      pending := ⟨l.flowLevel, l.tokens.size, required, l.index, l.line, l.column⟩ :: l.pending }

/-- Closes the block collections to the right of a column. -/
def unwind (column : Int) : Nat → Lex Unit
  | 0 => return
  | fuel + 1 => do
    let l ← get
    if l.flowLevel = 0 && column < l.indent then
      match l.indents with
      | [] => set { l with indent := -1, tokens := l.tokens.push .blockEnd }
      | i :: is => set { l with indent := i, indents := is, tokens := l.tokens.push .blockEnd }
      unwind column fuel

/-- Opens a block collection at a column further right, if it is one. -/
def indentTo (column : Int) : Lex Bool := do
  let l ← get
  if l.indent < column then
    set { l with indent := column, indents := l.indent :: l.indents }
    return true
  return false

def allowKey (b : Bool) : Lex Unit := modify fun l => { l with keyAllowed := b }

def unwindAll : Lex Unit := do unwind (-1) (← get).fuel

/-! ## Directives -/

def takeNumber : Lex Nat := do
  match Number.natIn? 10 (← takeWhile Char.isDigit) with
  | some n => return n
  | none => fail

def versionDirective : Lex Directive := do
  skipSpaces
  let major ← takeNumber
  unless (← peek 0) = '.' do fail
  forward 1
  let minor ← takeNumber
  unless isSpaceOrEnd (← peek 0) do fail
  return .version major minor

def tagHandle : Lex Text := do
  unless (← peek 0) = '!' do fail
  if (← peek 1) = ' ' then takeChars 1
  else
    let n ← countWhile isNameChar (← get).fuel 1
    unless (← peek n) = '!' do fail
    takeChars (n + 1)

def isUriChar (c : Char) : Bool :=
  c.isAlphanum || "-;/?:@&=+$,_.!~*'()[]%".toList.contains c

/-- Bytes written as percent signs with two hexadecimal digits. -/
def percentBytes : Nat → Lex (List UInt8)
  | 0 => return []
  | fuel + 1 => do
    if (← peek 0) ≠ '%' then return []
    match Number.natIn? 16 [← peek 1, ← peek 2] with
    | none => fail
    | some b =>
      forward 3
      return b.toUInt8 :: (← percentBytes fuel)

def tagUri : Nat → Lex Text
  | 0 => return []
  | fuel + 1 => do
    let c ← peek 0
    if c = '%' then
      match String.fromUTF8? ⟨(← percentBytes (← get).fuel).toArray⟩ with
      | none => fail
      | some s => return s.toList ++ (← tagUri fuel)
    else if isUriChar c then
      forward 1
      return c :: (← tagUri fuel)
    else return []

def tagUriSome : Lex Text := do
  let uri ← tagUri (← get).fuel
  if uri.isEmpty then fail
  return uri

def tagDirective : Lex Directive := do
  skipSpaces
  let handle ← tagHandle
  unless (← peek 0) = ' ' do fail
  skipSpaces
  let uri ← tagUriSome
  unless isSpaceOrEnd (← peek 0) do fail
  return .tag handle uri

def directive : Lex Unit := do
  unwindAll
  dropKey
  allowKey false
  forward 1
  let name ← takeWhile isNameChar
  if name.isEmpty || !isSpaceOrEnd (← peek 0) then fail
  let d ←
    if name = "YAML".toList then versionDirective
    else if name = "TAG".toList then tagDirective
    else do
      let _ ← takeWhile fun c => !isBreakOrEnd c
      pure Directive.unknown
  skipRestOfLine
  push (.directive d)

/-! ## Simple tokens -/

def separator (t : Token) : Lex Unit := do
  unwindAll
  dropKey
  allowKey false
  forward 3
  push t

def flowStart (t : Token) : Lex Unit := do
  saveKey
  modify fun l => { l with flowLevel := l.flowLevel + 1, keyAllowed := true }
  forward 1
  push t

def flowEnd (t : Token) : Lex Unit := do
  dropKey
  if (← get).flowLevel = 0 then fail
  modify fun l => { l with flowLevel := l.flowLevel - 1, keyAllowed := false }
  forward 1
  push t

def flowEntry : Lex Unit := do
  allowKey true
  dropKey
  forward 1
  push .flowEntry

/-- In block context a key, a value or an entry may open a collection at its column. -/
def openBlock (start : Token) : Lex Unit := do
  let l ← get
  if l.flowLevel = 0 then
    unless l.keyAllowed do fail
    if ← indentTo l.column then push start

def blockEntry : Lex Unit := do
  openBlock .blockSequenceStart
  allowKey true
  dropKey
  forward 1
  push .blockEntry

def explicitKey : Lex Unit := do
  openBlock .blockMappingStart
  allowKey ((← get).flowLevel = 0)
  dropKey
  forward 1
  push .key

def insertAt (i : Nat) (t : Token) : Lex Unit :=
  modify fun l => { l with tokens := l.tokens.extract 0 i ++ #[t] ++ l.tokens.extract i l.tokens.size }

def value : Lex Unit := do
  let l ← get
  match l.pending.find? fun k => k.flowLevel = l.flowLevel with
  | some k =>
    modify fun l => { l with pending := l.pending.filter fun k => k.flowLevel != l.flowLevel }
    insertAt k.tokenIndex .key
    if l.flowLevel = 0 then
      if ← indentTo k.column then insertAt k.tokenIndex .blockMappingStart
    allowKey false
  | none =>
    openBlock .blockMappingStart
    allowKey (l.flowLevel = 0)
    dropKey
  forward 1
  push .value

/-- The name of an anchor or alias. -/
def takeAnchor : Lex Text := do
  saveKey
  allowKey false
  forward 1
  let name ← takeWhile isNameChar
  let c ← peek 0
  if name.isEmpty || !(isGap c || "?:,]\x7d%@".toList.contains c || c.toNat = 0x60) then fail
  return name

def tag : Lex Unit := do
  saveKey
  allowKey false
  let c ← peek 1
  let t ←
    if c = '<' then do
      forward 2
      let suffix ← tagUriSome
      unless (← peek 0) = '>' do fail
      forward 1
      pure (Token.tag none suffix)
    else if isGap c then do
      forward 1
      pure (Token.tag none ['!'])
    else do
      let n ← countWhile (fun c => !isSpaceOrEnd c && c ≠ '!') (← get).fuel 1
      let handle ← if (← peek n) = '!' then tagHandle else takeChars 1
      let suffix ← tagUriSome
      pure (Token.tag (some handle) suffix)
  unless isSpaceOrEnd (← peek 0) do fail
  push t

/-! ## Block scalars -/

/-- How the breaks at the end of a block scalar are treated. -/
inductive Chomp where
  | clip
  | strip
  | keep
deriving DecidableEq

def chomp? (c : Char) : Option Chomp :=
  if c = '+' then some .keep else if c = '-' then some .strip else none

def takeIncrement : Lex (Option Nat) := do
  let c ← peek 0
  if c.isDigit then
    if c = '0' then fail
    forward 1
    return some (c.toNat - 48)
  return none

/-- The chomping and indentation indicators, in either order. -/
def blockHeader : Lex (Chomp × Option Nat) := do
  let header ← match chomp? (← peek 0) with
    | some chomp => do
      forward 1
      pure (chomp, ← takeIncrement)
    | none => do
      match ← takeIncrement with
      | none => pure (Chomp.clip, none)
      | some n =>
        match chomp? (← peek 0) with
        | some chomp =>
          forward 1
          pure (chomp, some n)
        | none => pure (Chomp.clip, some n)
  unless isSpaceOrEnd (← peek 0) do fail
  return header

/-- Leading breaks and the deepest indentation among the blank lines. -/
def leadingBreaks : Nat → Text → Nat → Lex (Text × Nat)
  | 0, breaks, deepest => return (breaks, deepest)
  | fuel + 1, breaks, deepest => do
    let c ← peek 0
    if c = ' ' then
      forward 1
      leadingBreaks fuel breaks (max deepest (← get).column)
    else if isBreak c then
      let b ← takeBreak
      leadingBreaks fuel (breaks ++ b) deepest
    else return (breaks, deepest)

def skipIndent (indent : Nat) : Nat → Lex Unit
  | 0 => return
  | fuel + 1 => do
    if (← get).column < indent && (← peek 0) = ' ' then
      forward 1
      skipIndent indent fuel

/-- The breaks before the next line that has text. -/
def innerBreaks (indent : Nat) : Nat → Lex (List Text)
  | 0 => return []
  | fuel + 1 => do
    skipIndent indent (← get).fuel
    if isBreak (← peek 0) then
      let b ← takeBreak
      return b :: (← innerBreaks indent fuel)
    return []

def startsBlank (c : Char) : Bool := c = ' ' || c = '\t'

/-- The lines of a block scalar from the current one on: its text, the last line break and the
breaks behind it. -/
def blockLines (folded : Bool) (indent : Nat) : Nat → List Text → Lex (Text × Text × List Text)
  | 0, breaks => return ([], [], breaks)
  | fuel + 1, breaks => do
    let within : Lex Bool := return (← get).column = indent && (← peek 0) ≠ endMark
    unless ← within do return ([], [], breaks)
    let solid := !startsBlank (← peek 0)
    let line ← takeWhile fun c => !isBreakOrEnd c
    let lineBreak ← takeBreak
    let next ← innerBreaks indent (← get).fuel
    let here := breaks.flatten ++ line
    if ← within then
      let joint :=
        if folded && lineBreak = ['\n'] && solid && !startsBlank (← peek 0) then
          (if next.isEmpty then [' '] else [])
        else lineBreak
      let (rest, last, after) ← blockLines folded indent fuel next
      return (here ++ joint ++ rest, last, after)
    return (here, lineBreak, next)

def blockScalar (folded : Bool) : Lex Unit := do
  allowKey true
  dropKey
  forward 1
  let (chomp, increment) ← blockHeader
  skipRestOfLine
  let least := (max 1 ((← get).indent + 1)).toNat
  let fuel := (← get).fuel
  let (breaks, indent) ← match increment with
    | none => do
      let (breaks, deepest) ← leadingBreaks fuel [] 0
      pure ([breaks], max least deepest)
    | some n => do
      let indent := least + n - 1
      pure (← innerBreaks indent fuel, indent)
  let (text, last, after) ← blockLines folded indent fuel breaks
  let tail := match chomp with
    | .strip => []
    | .clip => last
    | .keep => last ++ after.flatten
  push (.scalar (text ++ tail) false)

/-! ## Quoted scalars -/

def shortEscape? (c : Char) : Option Char :=
  match c with
  | '0' => some (Char.ofNat 0)
  | 'a' => some (Char.ofNat 7)
  | 'b' => some (Char.ofNat 8)
  | 't' | '\t' => some '\t'
  | 'n' => some '\n'
  | 'v' => some (Char.ofNat 11)
  | 'f' => some (Char.ofNat 12)
  | 'r' => some '\r'
  | 'e' => some (Char.ofNat 27)
  | ' ' => some ' '
  | '"' => some '"'
  | '\\' => some '\\'
  | '/' => some '/'
  | 'N' => some (Char.ofNat 0x85)
  | '_' => some (Char.ofNat 0xa0)
  | 'L' => some (Char.ofNat 0x2028)
  | 'P' => some (Char.ofNat 0x2029)
  | _ => none

def codeDigits? (c : Char) : Option Nat :=
  match c with
  | 'x' => some 2
  | 'u' => some 4
  | 'U' => some 8
  | _ => none

/-- The breaks inside a quoted scalar; a document separator must not stand among them. -/
def quotedBreaks : Nat → Lex Text
  | 0 => return []
  | fuel + 1 => do
    if (← get).atSeparator then fail
    let _ ← takeWhile startsBlank
    if isBreak (← peek 0) then
      let b ← takeBreak
      return b ++ (← quotedBreaks fuel)
    return []

/-- The character or the folded break after a backslash. -/
def quotedEscape : Lex Text := do
  forward 1
  let c ← peek 0
  if let some x := shortEscape? c then
    forward 1
    return [x]
  if let some n := codeDigits? c then
    forward 1
    match Number.natIn? 16 (← takeChars n) with
    | none => fail
    | some x => if x < 0x110000 then return [Char.ofNat x] else throw .badCodePoint
  if isBreak c then
    let _ ← takeBreak
    return ← quotedBreaks (← get).fuel
  fail

def isQuotedStop (c : Char) : Bool := c = '\'' || c = '"' || c = '\\' || isGap c

/-- Characters up to a blank, a break or the closing quote. -/
def quotedWord (double : Bool) : Nat → Lex Text
  | 0 => return []
  | fuel + 1 => do
    let word ← takeWhile fun c => !isQuotedStop c
    let c ← peek 0
    if !double && c = '\'' && (← peek 1) = '\'' then
      forward 2
      return word ++ '\'' :: (← quotedWord double fuel)
    if (double && c = '\'') || (!double && (c = '"' || c = '\\')) then
      forward 1
      return word ++ c :: (← quotedWord double fuel)
    if double && c = '\\' then
      let x ← quotedEscape
      return word ++ x ++ (← quotedWord double fuel)
    return word

/-- A line break folds into a space unless more breaks follow. -/
def foldBreak (lineBreak more : Text) : Text :=
  (if lineBreak ≠ ['\n'] then lineBreak else if more.isEmpty then [' '] else []) ++ more

def quotedSpaces : Lex Text := do
  let blanks ← takeWhile startsBlank
  let c ← peek 0
  if c = endMark then fail
  if isBreak c then
    let b ← takeBreak
    return foldBreak b (← quotedBreaks (← get).fuel)
  return blanks

def quotedRest (quote : Char) : Nat → Lex Text
  | 0 => fail
  | fuel + 1 => do
    if (← peek 0) = quote then
      forward 1
      return []
    let blanks ← quotedSpaces
    let word ← quotedWord (quote = '"') (← get).fuel
    return blanks ++ word ++ (← quotedRest quote fuel)

def quotedScalar (quote : Char) : Lex Unit := do
  saveKey
  allowKey false
  forward 1
  let first ← quotedWord (quote = '"') (← get).fuel
  let rest ← quotedRest quote (← get).fuel
  push (.scalar (first ++ rest) false)

/-! ## Plain scalars -/

def isFlowMark (c : Char) : Bool := ",[]\x7b\x7d".toList.contains c

/-- A plain scalar ends before the character at `n`. -/
def plainEndsAt (l : Lexer) (n : Nat) : Bool :=
  let c := l.peekAt n
  let next := l.peekAt (n + 1)
  isGap c || (c = ':' && (isGap next || (l.flowLevel ≠ 0 && isFlowMark next))) ||
    (l.flowLevel ≠ 0 && (c = '?' || isFlowMark c))

def plainLength : Nat → Nat → Lex Nat
  | 0, n => return n
  | fuel + 1, n => do
    if plainEndsAt (← get) n then return n else plainLength fuel (n + 1)

/-- The breaks after a line of a plain scalar; nothing where a document separator follows. -/
def plainBreaks : Nat → Text → Lex (Option Text)
  | 0, breaks => return some breaks
  | fuel + 1, breaks => do
    let c ← peek 0
    if c = ' ' then
      forward 1
      plainBreaks fuel breaks
    else if isBreak c then
      let b ← takeBreak
      if (← get).atSeparator then return none
      plainBreaks fuel (breaks ++ b)
    else return some breaks

/-- What stands between two words of a plain scalar; empty where the scalar ends. -/
def plainSpaces : Lex Text := do
  let blanks ← takeWhile (· = ' ')
  if isBreak (← peek 0) then
    let b ← takeBreak
    allowKey true
    if (← get).atSeparator then return []
    match ← plainBreaks (← get).fuel [] with
    | none => return []
    | some more => return foldBreak b more
  return blanks

def plainWords (indent : Int) : Nat → Text → Lex Text
  | 0, _ => return []
  | fuel + 1, spaces => do
    if (← peek 0) = '#' then return []
    let n ← plainLength (← get).fuel 0
    if n = 0 then return []
    allowKey false
    let word ← takeChars n
    let next ← plainSpaces
    let l ← get
    if next.isEmpty || l.peekAt 0 = '#' || (l.flowLevel = 0 && (l.column : Int) < indent) then
      return spaces ++ word
    return spaces ++ word ++ (← plainWords indent fuel next)

def plainScalar : Lex Unit := do
  saveKey
  allowKey false
  let l ← get
  let text ← plainWords (l.indent + 1) l.fuel []
  push (.scalar text true)

/-- A plain scalar may start here. -/
def startsPlain (l : Lexer) : Bool :=
  let c := l.peekAt 0
  let special := isGap c || "-?:,[]\x7b\x7d#&*!|>'\"%@".toList.contains c || c.toNat = 0x60
  !special || (!isGap (l.peekAt 1) && (c = '-' || (l.flowLevel = 0 && (c = '?' || c = ':'))))

/-! ## The stream -/

/-- Spaces, comments and breaks up to the next token. -/
def skipToToken : Nat → Lex Unit
  | 0 => return
  | fuel + 1 => do
    skipSpaces
    skipComment
    let b ← takeBreak
    unless b.isEmpty do
      if (← get).flowLevel = 0 then allowKey true
      skipToToken fuel

/-- Reads the next token or the end of the stream; `false` at the end. -/
def next : Lex Bool := do
  if (← get).index = 0 && (← peek 0).toNat = 0xfeff then forward 1
  skipToToken (← get).fuel
  dropStale
  unwind (← get).column (← get).fuel
  let l ← get
  let c := l.peekAt 0
  let block := l.flowLevel = 0
  if c = endMark then
    unwindAll
    dropKey
    return false
  if c = '%' && l.column = 0 then directive
  else if c = '-' && l.column = 0 && l.atSeparator then separator .documentStart
  else if c = '.' && l.column = 0 && l.atSeparator then separator .documentEnd
  else if c = '[' then flowStart .flowSequenceStart
  else if c = '\x7b' then flowStart .flowMappingStart
  else if c = ']' then flowEnd .flowSequenceEnd
  else if c = '\x7d' then flowEnd .flowMappingEnd
  else if c = ',' then flowEntry
  else if c = '-' && isGap (l.peekAt 1) then blockEntry
  else if c = '?' && (!block || isGap (l.peekAt 1)) then explicitKey
  else if c = ':' && (!block || isGap (l.peekAt 1)) then value
  else if c = '*' then do push (.reference (← takeAnchor))
  else if c = '&' then do push (.anchor (← takeAnchor))
  else if c = '!' then tag
  else if c = '|' && block then blockScalar false
  else if c = '>' && block then blockScalar true
  else if c = '\'' || c = '"' then quotedScalar c
  else if startsPlain l then plainScalar
  else fail
  return true

def all : Nat → Lex Unit
  | 0 => fail
  | fuel + 1 => do if ← next then all fuel

end Lex

/-- The tokens of a stream. -/
def Token.ofText? (t : Text) : Except Fault (List Token) :=
  if t.all isAllowed then do
    let start : Lexer := { source := t.toArray }
    let (_, l) ← (Lex.all start.fuel).run start
    return l.tokens.toList
  else throw .malformed

end RuleTree.Yaml
