import RuleTree.Number.Decimal
import RuleTree.Text.LetterCase
import RuleTree.Value.Equality
import RuleTree.Value.HashKey
import RuleTree.Yaml.Grammar
import RuleTree.Yaml.Lexer

/-!
# The meaning of YAML

The value that a tree stands for, by its tags, and the value of a whole stream. The entries that a
mapping merges from others come before its own, and a later equal key replaces the value of an
earlier one.
-/

namespace RuleTree.Yaml

abbrev Mean := Except Fault

/-! ## Scalars -/

def meanBool (t : Text) : Mean Datum :=
  match String.ofList (Text.lower t) with
  | "yes" | "true" | "on" => return .bool true
  | "no" | "false" | "off" => return .bool false
  | _ => throw .badTruth

def withoutUnderscores (t : Text) : Text := t.filter (· ≠ '_')

def readPart (base : Nat) (t : Text) : Mean Int :=
  match Number.readInt? base t with
  | some i => return i
  | none => throw .badNumber

/-- Digit groups separated by colons count in powers of sixty. -/
def sexagesimal (t : Text) : Mean Int := do
  let parts ← (Text.splitOnChar ':' t).mapM (readPart 10)
  return parts.foldl (fun total p => total * 60 + p) 0

def meanInt (t : Text) : Mean Datum := do
  let t := withoutUnderscores t
  if t.isEmpty then throw .emptyNumber
  let (negative, body) := Number.splitSign t
  let magnitude ← match body with
    | ['0'] => pure 0
    | '0' :: 'b' :: ds => readPart 2 ds
    | '0' :: 'x' :: ds => readPart 16 ds
    | '0' :: _ => readPart 8 body
    | [] => throw .emptyNumber
    | _ => if body.contains ':' then sexagesimal body else readPart 10 body
  return .int (if negative then -magnitude else magnitude)

def readFloatPart (t : Text) : Mean Binary64 :=
  match Number.readFloat? t with
  | some x => return x
  | none => throw .badNumber

/-- The parts are added from the last to the first, each times its power of sixty. -/
def sexagesimalFloat (t : Text) : Mean Binary64 := do
  let parts ← (Text.splitOnChar ':' t).mapM readFloatPart
  let zero := Binary64.ofRatio false 0 1
  return (parts.reverse.foldl (fun (acc : Binary64 × Nat) p =>
    (acc.1.add (p.scale acc.2), acc.2 * 60)) (zero, 1)).1

def meanFloat (t : Text) : Mean Datum := do
  let t := Text.lower (withoutUnderscores t)
  if t.isEmpty then throw .emptyNumber
  let (negative, body) := Number.splitSign t
  let sign (x : Binary64) : Binary64 := if negative then x.neg else x
  if body = ".inf".toList then return .float (.infinite negative)
  if body = ".nan".toList then return .float .nan
  if body.contains ':' then return .float (sign (← sexagesimalFloat body))
  return .float (sign (← readFloatPart body))

/-- Value of a character of the base64 alphabet. -/
def base64Value? (c : Char) : Option Nat :=
  let x := c.toNat
  if 65 ≤ x ∧ x ≤ 90 then some (x - 65)
  else if 97 ≤ x ∧ x ≤ 122 then some (x - 71)
  else if 48 ≤ x ∧ x ≤ 57 then some (x + 4)
  else if c = '+' then some 62
  else if c = '/' then some 63
  else none

/-- Bytes of base64 text. Characters outside the alphabet are passed over; a group of four must be
complete, with padding if need be. -/
def base64Bytes? : List Nat → Text → Option (List UInt8)
  | group, [] => if group.isEmpty then some [] else none
  | group, c :: rest =>
    match base64Value? c with
    | some v =>
      match group with
      | [a, b, d] => (base64Bytes? [] rest).map
          ([(a * 4 + b / 16).toUInt8, (b % 16 * 16 + d / 4).toUInt8, (d % 4 * 64 + v).toUInt8] ++ ·)
      | g => base64Bytes? (g ++ [v]) rest
    | none =>
      if c = '=' then
        match group with
        | [a, b] =>
          if rest.any (· = '=') then some [(a * 4 + b / 16).toUInt8] else none
        | [a, b, d] => some [(a * 4 + b / 16).toUInt8, (b % 16 * 16 + d / 4).toUInt8]
        | g => base64Bytes? g rest
      else base64Bytes? group rest

def meanBinary (t : Text) : Mean Datum :=
  if t.any fun c => 128 ≤ c.toNat then throw .malformed
  else match base64Bytes? [] t with
    | some bs => return .bytes bs
    | none => throw .malformed

def timeForm : Except Pattern.Fault Pattern :=
  Pattern.compile ("\\A([0-9][0-9][0-9][0-9])-([0-9][0-9]?)-([0-9][0-9]?)(?:(?:[Tt]|[ \\t]+)" ++
    "([0-9][0-9]?):([0-9][0-9]):([0-9][0-9])(?:\\.([0-9]*))?" ++
    "(?:[ \\t]*(Z|([-+])([0-9][0-9]?)(?::([0-9][0-9]))?))?)?$") .none

def meanTime (t : Text) : Mean Datum :=
  match timeForm with
  | .error _ => throw .badTime
  | .ok form =>
    match form.search t with
    | none => throw .badTime
    | some found => do
      let part (i : Nat) : Option Text := ((found.groups[i]?).getD none).map fun (s, e) =>
        Text.slice t s e
      let number (i : Nat) : Nat := ((part i).bind (Number.natIn? 10)).getD 0
      let date : Date := ⟨number 0, number 1, number 2⟩
      if (part 3).isNone then
        if date.valid then return .date date else throw .badDate
      let micro := (part 6).map fun ds => ((ds ++ List.replicate 6 '0').take 6)
      let offset : Option Int := match part 7, part 8 with
        | none, _ => none
        | some _, none => some 0
        | some _, some sign =>
          let minutes : Int := number 9 * 60 + number 10
          some (if sign = ['-'] then -minutes else minutes)
      let moment : Moment :=
        ⟨date, number 3, number 4, number 5, ((micro.bind (Number.natIn? 10)).getD 0), offset⟩
      if moment.valid then return .moment moment else throw .badDate

def meanScalar (tag : Tag) (t : Text) : Mean Datum :=
  match tag with
  | .null => return .null
  | .bool => meanBool t
  | .int => meanInt t
  | .float => meanFloat t
  | .binary => meanBinary t
  | .timestamp => meanTime t
  | .str => return .str (String.ofList t)
  | _ => throw .malformed

/-! ## Merging -/

mutual

/-- The entries taken from other mappings, and the mapping's own. -/
def splitMerges (fuel : Nat) (entries : List (Tree × Tree)) :
    Mean (List (Tree × Tree) × List (Tree × Tree)) :=
  match fuel with
  | 0 => throw .malformed
  | fuel + 1 =>
    match entries with
    | [] => return ([], [])
    | (k, v) :: rest => do
      match k.tag with
      | .merge =>
        let here ← match v with
          | .mapping _ es => do
            let (taken, own) ← splitMerges fuel es
            pure (taken ++ own)
          | .sequence _ ts => mergedAll fuel ts
          | .scalar _ _ => throw .malformed
        let (taken, own) ← splitMerges fuel rest
        return (here ++ taken, own)
      | .value =>
        let (taken, own) ← splitMerges fuel rest
        let k := match k with
          | .scalar _ t => .scalar .str t
          | other => other
        return (taken, (k, v) :: own)
      | _ =>
        let (taken, own) ← splitMerges fuel rest
        return (taken, (k, v) :: own)

/-- The entries of several mappings; those of the first come last, so that they win. -/
def mergedAll (fuel : Nat) (ts : List Tree) : Mean (List (Tree × Tree)) :=
  match fuel with
  | 0 => throw .malformed
  | fuel + 1 =>
    match ts with
    | [] => return []
    | .mapping _ es :: rest => do
      let (taken, own) ← splitMerges fuel es
      let others ← mergedAll fuel rest
      return others ++ taken ++ own
    | _ => throw .malformed

end

/-- The entries of a mapping after merging, in order. -/
def merged (fuel : Nat) (entries : List (Tree × Tree)) : Mean (List (Tree × Tree)) := do
  let (taken, own) ← splitMerges fuel entries
  return taken ++ own

/-! ## Nodes -/

/-- A scalar's text; a mapping with a default value stands for it. -/
def scalarText (fuel : Nat) (t : Tree) : Mean Text :=
  match fuel with
  | 0 => throw .malformed
  | fuel + 1 =>
    match t with
    | .scalar _ s => return s
    | .mapping _ es =>
      match es.find? fun e => e.1.tag == .value with
      | some (_, v) => scalarText fuel v
      | none => throw .malformed
    | .sequence _ _ => throw .malformed

mutual

def mean (fuel : Nat) (t : Tree) : Mean Datum :=
  match fuel with
  | 0 => throw .malformed
  | fuel + 1 => do
    match t.tag with
    | .seq =>
      match t with
      | .sequence _ ts => return .list (← meanAll fuel ts)
      | _ => throw .malformed
    | .map =>
      match t with
      | .mapping _ es => return .mapping (← meanEntries fuel (← merged fuel es) [])
      | _ => throw .malformed
    | .set =>
      match t with
      | .mapping _ es =>
        return .set ((← meanEntries fuel (← merged fuel es) []).map (·.1))
      | _ => throw .malformed
    | .omap | .pairs =>
      match t with
      | .sequence _ ts => return .list (← meanPairs fuel ts)
      | _ => throw .malformed
    | tag => meanScalar tag (← scalarText fuel t)

def meanAll (fuel : Nat) (ts : List Tree) : Mean (List Datum) :=
  match fuel with
  | 0 => throw .malformed
  | fuel + 1 =>
    match ts with
    | [] => return []
    | t :: rest => do
      let v ← mean fuel t
      let vs ← meanAll fuel rest
      return v :: vs

/-- Adds entries to those before. A key must be a value that can be hashed. -/
def meanEntries (fuel : Nat) (es : List (Tree × Tree)) (before : List (Datum × Datum)) :
    Mean (List (Datum × Datum)) :=
  match fuel with
  | 0 => throw .malformed
  | fuel + 1 =>
    match es with
    | [] => return before
    | (k, v) :: rest => do
      let key ← mean fuel k
      unless key.hashable do throw .malformed
      let value ← mean fuel v
      meanEntries fuel rest (Value.insertEntry key value before)

/-- Mappings of one entry each, as pairs. -/
def meanPairs (fuel : Nat) (ts : List Tree) : Mean (List Datum) :=
  match fuel with
  | 0 => throw .malformed
  | fuel + 1 =>
    match ts with
    | [] => return []
    | .mapping _ [(k, v)] :: rest => do
      let key ← mean fuel k
      let value ← mean fuel v
      let others ← meanPairs fuel rest
      return .tuple [key, value] :: others
    | _ => throw .malformed

end

/-! ## Size -/

mutual

/-- A bound on the work that a tree makes. -/
def Tree.weight : Tree → Nat
  | .scalar _ _ => 2
  | .sequence _ ts => 2 + weightAll ts
  | .mapping _ es => 2 + weightEntries es

def Tree.weightAll : List Tree → Nat
  | [] => 1
  | t :: ts => t.weight + weightAll ts + 1

def Tree.weightEntries : List (Tree × Tree) → Nat
  | [] => 1
  | (k, v) :: es => k.weight + v.weight + weightEntries es + 1

end

/-- The value of a stream; an empty stream has the value null. -/
def read (t : Text) : Mean Datum := do
  match ← Tree.ofTokens? (← Token.ofText? t) with
  | none => return .null
  | some tree => mean (2 * tree.weight + 8) tree

end RuleTree.Yaml
