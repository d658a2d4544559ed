import RuleTree.Json.Basic
import RuleTree.Number.Decimal
import RuleTree.Text

/-!
# Reading JSON

A reader of whole JSON texts. Besides the standard it takes `NaN`, `Infinity` and `-Infinity` as
numbers. A later member of an object replaces an earlier one of the same name.
-/

namespace RuleTree.Json

def isSpace (c : Char) : Bool := c = ' ' || c = '\t' || c = '\n' || c = '\r'

def skipSpace (t : Text) : Text := t.dropWhile isSpace

def hex4? (a b c d : Char) : Option Nat := Number.natIn? 16 [a, b, c, d]

/-- The character after a backslash, for escapes without digits. -/
def shortEscape? (c : Char) : Option Char :=
  match c with
  | '"' => some '"'
  | '\\' => some '\\'
  | '/' => some '/'
  | 'b' => some (Char.ofNat 8)
  | 'f' => some (Char.ofNat 12)
  | 'n' => some '\n'
  | 'r' => some '\r'
  | 't' => some '\t'
  | _ => none

/-- The code point of a pair of UTF-16 units. -/
def joinUnits (hi lo : Nat) : Nat := 0x10000 + (hi - 0xd800) * 0x400 + (lo - 0xdc00)

def isHighUnit (x : Nat) : Bool := 0xd800 ≤ x && x < 0xdc00

def isLowUnit (x : Nat) : Bool := 0xdc00 ≤ x && x < 0xe000

/-- The rest of a text behind its opening quote. -/
def readText : Text → Option (Text × Text)
  | [] => none
  | '"' :: rest => some ([], rest)
  | '\\' :: 'u' :: a :: b :: c :: d :: '\\' :: 'u' :: a' :: b' :: c' :: d' :: rest => do
    let x ← hex4? a b c d
    let y ← hex4? a' b' c' d'
    if isHighUnit x && isLowUnit y then
      let (s, r) ← readText rest
      return (Char.ofNat (joinUnits x y) :: s, r)
    else
      let (s, r) ← readText ('\\' :: 'u' :: a' :: b' :: c' :: d' :: rest)
      return (Char.ofNat x :: s, r)
  | '\\' :: 'u' :: a :: b :: c :: d :: rest => do
    let x ← hex4? a b c d
    let (s, r) ← readText rest
    return (Char.ofNat x :: s, r)
  | '\\' :: c :: rest => do
    let x ← shortEscape? c
    let (s, r) ← readText rest
    return (x :: s, r)
  | c :: rest =>
    if c = '\\' || c.toNat < 32 then none
    else do
      let (s, r) ← readText rest
      return (c :: s, r)
termination_by t => t.length

/-- Drops a given word from the front. -/
def dropWord? (word : List Char) (t : Text) : Option Text :=
  if word.isPrefixOf t then some (t.drop word.length) else none

def splitDigits (t : Text) : Text × Text := (t.takeWhile Char.isDigit, t.dropWhile Char.isDigit)

/-- The digits before the point; a leading zero stands alone. -/
def wholeDigits? (t : Text) : Option (Text × Text) :=
  match t with
  | '0' :: rest => some (['0'], rest)
  | _ =>
    match splitDigits t with
    | ([], _) => none
    | parts => some parts

def fractionDigits (t : Text) : Text × Text :=
  match t with
  | '.' :: rest =>
    match splitDigits rest with
    | ([], _) => ([], t)
    | parts => parts
  | _ => ([], t)

def exponentDigits (t : Text) : Option Int × Text :=
  match t with
  | e :: rest =>
    if e = 'e' || e = 'E' then
      let (negative, body) := Number.splitSign rest
      match splitDigits body with
      | ([], _) => (none, t)
      | (ds, r) => ((Number.natIn? 10 ds).map (Number.signed negative), r)
    else (none, t)
  | [] => (none, t)

def readNumber (t : Text) : Option (Json × Text) := do
  let (negative, body) := match t with
    | '-' :: rest => (true, rest)
    | _ => (false, t)
  if let some rest := dropWord? "Infinity".toList body then
    return (.float (.infinite negative), rest)
  let (whole, rest) ← wholeDigits? body
  let (fraction, rest) := fractionDigits rest
  let (e, rest) := exponentDigits rest
  let n ← Number.natIn? 10 (whole ++ fraction)
  if fraction = [] && e.isNone then return (.int (Number.signed negative n), rest)
  return (.float (Binary64.ofDecimal negative n (e.getD 0 - fraction.length)), rest)

def readWord (t : Text) : Option (Json × Text) :=
  match dropWord? "null".toList t with
  | some r => some (.null, r)
  | none =>
  match dropWord? "true".toList t with
  | some r => some (.bool true, r)
  | none =>
  match dropWord? "false".toList t with
  | some r => some (.bool false, r)
  | none =>
  match dropWord? "NaN".toList t with
  | some r => some (.float .nan, r)
  | none => readNumber t

mutual

/-- A value without blanks in front, and what follows it. -/
def readValue (fuel : Nat) (t : Text) : Option (Json × Text) :=
  match fuel with
  | 0 => none
  | fuel + 1 =>
    match t with
    | '"' :: rest => do
      let (s, r) ← readText rest
      return (.str (String.ofList s), r)
    | '[' :: rest =>
      match skipSpace rest with
      | ']' :: r => some (.arr [], r)
      | r => do
        let (xs, r) ← readItems fuel r
        return (.arr xs, r)
    | '\x7b' :: rest =>
      match skipSpace rest with
      | '\x7d' :: r => some (.obj [], r)
      | r => do
        let (ms, r) ← readMembers fuel r []
        return (.obj ms, r)
    | _ => readWord t

/-- Items up to and including the closing bracket. -/
def readItems (fuel : Nat) (t : Text) : Option (List Json × Text) :=
  match fuel with
  | 0 => none
  | fuel + 1 => do
    let (x, r) ← readValue fuel t
    match skipSpace r with
    | ']' :: r => return ([x], r)
    | ',' :: r =>
      let (xs, r) ← readItems fuel (skipSpace r)
      return (x :: xs, r)
    | _ => none

/-- Members up to and including the closing brace, added to those before. -/
def readMembers (fuel : Nat) (t : Text) (before : List (String × Json)) :
    Option (List (String × Json) × Text) :=
  match fuel with
  | 0 => none
  | fuel + 1 =>
    match t with
    | '"' :: rest => do
      let (k, r) ← readText rest
      match skipSpace r with
      | ':' :: r =>
        let (v, r) ← readValue fuel (skipSpace r)
        let ms := insertMember (String.ofList k) v before
        match skipSpace r with
        | '\x7d' :: r => return (ms, r)
        | ',' :: r => readMembers fuel (skipSpace r) ms
        | _ => none
      | _ => none
    | _ => none

end

/-- Reads a whole JSON text. -/
def read? (t : Text) : Option Json := do
  let (j, rest) ← readValue (t.length + 1) (skipSpace t)
  if skipSpace rest = [] then some j else none

end RuleTree.Json
