import RuleTree.Yaml.Tree

/-!
# From YAML tokens to trees

The grammar of a document. An anchor names a node from its end on; an alias stands for the node it
names, so a node cannot contain itself. A stream holds at most one document.
-/

namespace RuleTree.Yaml

structure Composer where
  tokens : List Token
  handles : List (Text × Text) := []
  anchors : List (Text × Tree) := []
  /-- Anchors of nodes that are still being read. -/
  openAnchors : List Text := []

abbrev Compose := StateT Composer (Except Fault)

namespace Compose

def fail : Compose α := throw .malformed

def peek : Compose (Option Token) := return (← get).tokens.head?

def skip : Compose Unit := modify fun c => { c with tokens := c.tokens.tail }

/-- Takes the next token if it is the given one. -/
def accept (t : Token) : Compose Bool := do
  if (← peek) = some t then
    skip
    return true
  return false

def expect (t : Token) : Compose Unit := do unless ← accept t do fail

def nextIsAny (ts : List Token) : Compose Bool := do
  match ← peek with
  | some t => return ts.contains t
  | none => return false

/-- What stands in front of a node. -/
structure Properties where
  anchor : Option Text := none
  tag : Option (Option Text × Text) := none

def properties : Compose Properties := do
  match ← peek with
  | some (.anchor a) =>
    skip
    match ← peek with
    | some (.tag h s) =>
      skip
      return ⟨some a, some (h, s)⟩
    | _ => return ⟨some a, none⟩
  | some (.tag h s) =>
    skip
    match ← peek with
    | some (.anchor a) =>
      skip
      return ⟨some a, some (h, s)⟩
    | _ => return ⟨none, some (h, s)⟩
  | _ => return {}

/-- The full name of a tag. -/
def tagName : Option Text × Text → Compose Text
  | (none, suffix) => return suffix
  | (some handle, suffix) => do
    match (← get).handles.lookup handle with
    | some start => return start ++ suffix
    | none => fail

def openAnchor : Option Text → Compose Unit
  | none => return
  | some a => do
    let c ← get
    if (c.anchors.lookup a).isSome || c.openAnchors.contains a then fail
    set { c with openAnchors := a :: c.openAnchors }

def closeAnchor (a : Option Text) (t : Tree) : Compose Unit :=
  match a with
  | none => return
  | some a => modify fun c => { c with
      anchors := (a, t) :: c.anchors
      openAnchors := c.openAnchors.filter (· ≠ a) }

def reference (name : Text) : Compose Tree := do
  match (← get).anchors.lookup name with
  | some t => return t
  | none => fail

def empty : Tree := .scalar .null []

/-- The tag of a scalar: the one given, or the one its text suggests where it is plain or its tag is
the bare exclamation mark. -/
def scalarTag (name : Option Text) (text : Text) (plain : Bool) : Tag :=
  match name with
  | none => if plain then .ofPlain text else .str
  | some n => if n = ['!'] then .ofPlain text else .ofName n

def collectionTag (name : Option Text) (fallback : Tag) : Tag :=
  match name with
  | none => fallback
  | some n => if n = ['!'] then fallback else .ofName n

mutual

/-- A node; block collections only where they are allowed, and a sequence without indentation only
as the key or value of a block mapping. -/
def node (fuel : Nat) (block indentless : Bool) : Compose Tree :=
  match fuel with
  | 0 => fail
  | fuel + 1 => do
    if let some (.reference name) ← peek then
      skip
      return ← reference name
    let props ← properties
    let name ← props.tag.mapM tagName
    openAnchor props.anchor
    let tree ← content fuel block indentless name (props.anchor.isSome || name.isSome)
    closeAnchor props.anchor tree
    return tree

def content (fuel : Nat) (block indentless : Bool) (name : Option Text) (marked : Bool) :
    Compose Tree :=
  match fuel with
  | 0 => fail
  | fuel + 1 => do
    match ← peek with
    | some (.scalar text plain) =>
      skip
      return .scalar (scalarTag name text plain) text
    | some .flowSequenceStart =>
      skip
      return .sequence (collectionTag name .seq) (← flowItems fuel true)
    | some .flowMappingStart =>
      skip
      return .mapping (collectionTag name .map) (← flowEntries fuel true)
    | some .blockEntry =>
      if indentless then
        return .sequence (collectionTag name .seq) (← looseItems fuel)
      else if marked then return .scalar (scalarTag name [] true) []
      else fail
    | some .blockSequenceStart =>
      if block then
        skip
        return .sequence (collectionTag name .seq) (← blockItems fuel)
      else if marked then return .scalar (scalarTag name [] true) []
      else fail
    | some .blockMappingStart =>
      if block then
        skip
        return .mapping (collectionTag name .map) (← blockEntries fuel)
      else if marked then return .scalar (scalarTag name [] true) []
      else fail
    | _ => if marked then return .scalar (scalarTag name [] true) [] else fail

/-- A node, or an empty scalar where one of the given tokens follows. -/
def nodeUnless (fuel : Nat) (stops : List Token) (block indentless : Bool) : Compose Tree :=
  match fuel with
  | 0 => fail
  | fuel + 1 => do
    if ← nextIsAny stops then return empty else node fuel block indentless

def blockItems (fuel : Nat) : Compose (List Tree) :=
  match fuel with
  | 0 => fail
  | fuel + 1 => do
    if ← accept .blockEntry then
      let t ← nodeUnless fuel [.blockEntry, .blockEnd] true false
      return t :: (← blockItems fuel)
    expect .blockEnd
    return []

def looseItems (fuel : Nat) : Compose (List Tree) :=
  match fuel with
  | 0 => fail
  | fuel + 1 => do
    if ← accept .blockEntry then
      let t ← nodeUnless fuel [.blockEntry, .key, .value, .blockEnd] true false
      return t :: (← looseItems fuel)
    return []

def blockEntries (fuel : Nat) : Compose (List (Tree × Tree)) :=
  match fuel with
  | 0 => fail
  | fuel + 1 => do
    let stops := [Token.key, .value, .blockEnd]
    if ← accept .key then
      let k ← nodeUnless fuel stops true true
      let v ← if ← accept .value then nodeUnless fuel stops true true else pure empty
      return (k, v) :: (← blockEntries fuel)
    expect .blockEnd
    return []

/-- The items of a flow sequence; a key without braces makes a mapping of one entry. -/
def flowItems (fuel : Nat) (first : Bool) : Compose (List Tree) :=
  match fuel with
  | 0 => fail
  | fuel + 1 => do
    if ← accept .flowSequenceEnd then return []
    unless first do expect .flowEntry
    if ← accept .key then
      let k ← nodeUnless fuel [.value, .flowEntry, .flowSequenceEnd] false false
      let v ← if ← accept .value then nodeUnless fuel [.flowEntry, .flowSequenceEnd] false false
        else pure empty
      return .mapping .map [(k, v)] :: (← flowItems fuel false)
    if ← accept .flowSequenceEnd then return []
    let t ← node fuel false false
    return t :: (← flowItems fuel false)

def flowEntries (fuel : Nat) (first : Bool) : Compose (List (Tree × Tree)) :=
  match fuel with
  | 0 => fail
  | fuel + 1 => do
    if ← accept .flowMappingEnd then return []
    unless first do expect .flowEntry
    if ← accept .key then
      let k ← nodeUnless fuel [.value, .flowEntry, .flowMappingEnd] false false
      let v ← if ← accept .value then nodeUnless fuel [.flowEntry, .flowMappingEnd] false false
        else pure empty
      return (k, v) :: (← flowEntries fuel false)
    if ← accept .flowMappingEnd then return []
    let k ← node fuel false false
    return (k, empty) :: (← flowEntries fuel false)

end

/-! ## Documents -/

def standardHandles : List (Text × Text) :=
  [(['!'], ['!']), (['!', '!'], "tag:yaml.org,2002:".toList)]

/-- Directives in front of a document, each at most once. -/
def directives : Nat → Bool → List (Text × Text) → Compose (List (Text × Text))
  | 0, _, handles => return handles
  | fuel + 1, versioned, handles => do
    match ← peek with
    | some (.directive d) =>
      skip
      match d with
      | .version major _ =>
        if versioned || major ≠ 1 then fail
        directives fuel true handles
      | .tag handle uri =>
        if (handles.lookup handle).isSome then fail
        directives fuel versioned ((handle, uri) :: handles)
      | .unknown => directives fuel versioned handles
    | _ => return handles

def skipDocumentEnds : Nat → Compose Unit
  | 0 => return
  | fuel + 1 => do if ← accept .documentEnd then skipDocumentEnds fuel

def explicitDocument (fuel : Nat) : Compose Tree := do
  let handles ← directives fuel false []
  modify fun c => { c with handles := handles ++ standardHandles }
  expect .documentStart
  let isBoundary : Option Token → Bool
    | none | some .documentStart | some .documentEnd | some (.directive _) => true
    | _ => false
  if isBoundary (← peek) then return empty else node fuel true false

/-- The only document of a stream; nothing where the stream is empty. -/
def document (fuel : Nat) : Compose (Option Tree) := do
  let tree ← match ← peek with
    | none => return none
    | some (.directive _) | some .documentStart => explicitDocument fuel
    | some _ =>
      modify fun c => { c with handles := standardHandles }
      node fuel true false
  skipDocumentEnds fuel
  unless (← peek).isNone do fail
  return some tree

end Compose

def Tree.ofTokens? (ts : List Token) : Except Fault (Option Tree) := do
  let (tree, _) ← (Compose.document (4 * ts.length + 8)).run { tokens := ts }
  return tree

end RuleTree.Yaml
