/-!
# Dates and moments

A date of the Gregorian calendar, and a moment of a day with an optional distance from universal
time. `Date.valid` and `Moment.valid` say which of them exist.
-/

namespace RuleTree

structure Date where
  year : Nat
  month : Nat
  day : Nat
deriving DecidableEq, Repr, Inhabited

structure Moment where
  date : Date
  hour : Nat
  minute : Nat
  second : Nat
  micro : Nat
  /-- Minutes east of universal time; absent where the moment does not name a zone. -/
  offset : Option Int
deriving DecidableEq, Repr, Inhabited

namespace Date

def isLeap (year : Nat) : Bool :=
  year % 4 == 0 && (year % 100 != 0 || year % 400 == 0)

def daysIn (year month : Nat) : Nat :=
  if month = 2 then (if isLeap year then 29 else 28)
  else if month = 4 ∨ month = 6 ∨ month = 9 ∨ month = 11 then 30 else 31

def valid (d : Date) : Bool :=
  1 ≤ d.year && d.year ≤ 9999 && 1 ≤ d.month && d.month ≤ 12 && 1 ≤ d.day &&
    d.day ≤ daysIn d.year d.month

/-- Days since the day before 1 January of year 1. -/
def ordinal (d : Date) : Nat :=
  let y := d.year - 1
  let before := (List.range (d.month - 1)).foldl (fun n m => n + daysIn d.year (m + 1)) 0
  y * 365 + y / 4 - y / 100 + y / 400 + before + d.day

end Date

/-- A number with zeros in front up to the given width. -/
def padded (width n : Nat) : String :=
  let ds := (toString n).toList
  String.ofList (List.replicate (width - ds.length) '0' ++ ds)

def Date.iso (d : Date) : String :=
  padded 4 d.year ++ "-" ++ padded 2 d.month ++ "-" ++ padded 2 d.day

/-- The constructor form of a date. -/
def Date.text (d : Date) : String :=
  "datetime.date(" ++ toString d.year ++ ", " ++ toString d.month ++ ", " ++ toString d.day ++ ")"

namespace Moment

def valid (m : Moment) : Bool :=
  m.date.valid && m.hour < 24 && m.minute < 60 && m.second < 60 &&
    match m.offset with
    | none => true
    | some o => -1440 < o && o < 1440

/-- Microseconds on a common scale, for moments that name a zone. -/
def instant? (m : Moment) : Option Int :=
  m.offset.map fun o =>
    ((((m.date.ordinal : Int) * 24 + m.hour) * 60 + m.minute - o) * 60 + m.second) * 1000000 +
      m.micro

/-- Two moments with zones are compared as instants, two without by what they say. -/
def same (a b : Moment) : Bool :=
  match a.instant?, b.instant? with
  | some x, some y => x == y
  | none, none => a == b
  | _, _ => false

def isoOffset (o : Int) : String :=
  (if o < 0 then "-" else "+") ++ padded 2 (o.natAbs / 60) ++ ":" ++ padded 2 (o.natAbs % 60)

def iso (m : Moment) : String :=
  m.date.iso ++ " " ++ padded 2 m.hour ++ ":" ++ padded 2 m.minute ++ ":" ++ padded 2 m.second ++
    (if m.micro = 0 then "" else "." ++ padded 6 m.micro) ++
    (match m.offset with
      | none => ""
      | some o => isoOffset o)

/-- The constructor form of a distance from universal time; a negative one is written as a day back
and seconds forward. -/
def zoneText (o : Int) : String :=
  if o = 0 then "datetime.timezone.utc"
  else
    let delta := if o < 0 then "days=-1, seconds=" ++ toString (o * 60 + 86400)
      else "seconds=" ++ toString (o * 60)
    "datetime.timezone(datetime.timedelta(" ++ delta ++ "))"

/-- The constructor form of a moment, which leaves out zero seconds and microseconds. -/
def text (m : Moment) : String :=
  let parts := [m.date.year, m.date.month, m.date.day, m.hour, m.minute] ++
    (if m.micro ≠ 0 then [m.second, m.micro] else if m.second ≠ 0 then [m.second] else [])
  let zone := match m.offset with
    | none => ""
    | some o => ", tzinfo=" ++ zoneText o
  "datetime.datetime(" ++ ", ".intercalate (parts.map toString) ++ zone ++ ")"

end Moment

end RuleTree
