/-!
Instants in UTC, leap seconds included, and their text form.
-/

namespace TrackerSync.Time

/-- A point in time, UTC. -/
structure Instant where
  /-- Seconds since 1970-01-01T00:00:00Z. -/
  seconds : Int
  /-- Nanoseconds into the second; `10^9` or more only in a leap second. -/
  nanos : Nat
  deriving BEq, DecidableEq, Repr

/-- The days from 1970-01-01 to a date of the proleptic Gregorian calendar. -/
def daysFromCivil (y : Int) (m d : Nat) : Int :=
  let y := if m ≤ 2 then y - 1 else y
  let era := y / 400
  let yoe := y - era * 400
  let mp : Int := if m > 2 then (m : Int) - 3 else (m : Int) + 9
  let doy := (153 * mp + 2) / 5 + (d : Int) - 1
  let doe := yoe * 365 + yoe / 4 - yoe / 100 + doy
  era * 146097 + doe - 719468

/-- The date `(year, month, day)` of a count of days from 1970-01-01. -/
def civilFromDays (z : Int) : Int × Nat × Nat :=
  let z := z + 719468
  let era := z / 146097
  let doe := z - era * 146097
  let yoe := (doe - doe / 1460 + doe / 36524 - doe / 146096) / 365
  let y := yoe + era * 400
  let doy := doe - (365 * yoe + yoe / 4 - yoe / 100)
  let mp := (5 * doy + 2) / 153
  let d := doy - (153 * mp + 2) / 5 + 1
  let m := if mp < 10 then mp + 3 else mp - 9
  ((if m ≤ 2 then y + 1 else y), m.toNat, d.toNat)

def isLeapYear (y : Int) : Bool := (y % 4 == 0 && y % 100 != 0) || y % 400 == 0

def daysInMonth (y : Int) (m : Nat) : Nat :=
  match m with
  | 2 => if isLeapYear y then 29 else 28
  | 4 | 6 | 9 | 11 => 30
  | _ => 31

def minYear : Int := -262143

def maxYear : Int := 262142

def validDate (y : Int) (m d : Nat) : Bool :=
  minYear ≤ y && y ≤ maxYear && 1 ≤ m && m ≤ 12 && 1 ≤ d && d ≤ daysInMonth y m

def minSeconds : Int := daysFromCivil minYear 1 1 * 86400

def maxSeconds : Int := daysFromCivil (maxYear + 1) 1 1 * 86400 - 1

def inRange (seconds : Int) : Bool := minSeconds ≤ seconds && seconds ≤ maxSeconds

namespace Instant

/-- The instant `ms` milliseconds after 1970-01-01T00:00:00Z, if it lies within the calendar. -/
def ofMillis? (ms : Int) : Option Instant :=
  let secs := ms / 1000
  let rest := (ms % 1000).toNat
  if inRange secs then some ⟨secs, rest * 1000000⟩ else none

def millis (t : Instant) : Int := t.seconds * 1000 + (t.nanos / 1000000 : Nat)

def date (t : Instant) : Int × Nat × Nat := civilFromDays (t.seconds / 86400)

/-- Hours, minutes and seconds of the day; second 60 inside a leap second. -/
def clock (t : Instant) : Nat × Nat × Nat :=
  let s := (t.seconds % 86400).toNat
  let sec := s % 60 + (if t.nanos ≥ 1000000000 then 1 else 0)
  (s / 3600, (s / 60) % 60, sec)

def padded (width n : Nat) : String :=
  let s := toString n
  String.ofList (List.replicate (width - s.length) '0') ++ s

/-- A year: four digits within 0 to 9999, otherwise a sign and at least four digits. -/
def yearText (y : Int) : String :=
  if 0 ≤ y ∧ y ≤ 9999 then padded 4 y.toNat
  else (if y < 0 then "-" else "+") ++ padded 4 y.natAbs

/-- The fraction of a second: none when zero, else 3, 6 or 9 digits. -/
def fractionText (nanos : Nat) : String :=
  let n := nanos % 1000000000
  if n == 0 then ""
  else if n % 1000000 == 0 then "." ++ padded 3 (n / 1000000)
  else if n % 1000 == 0 then "." ++ padded 6 (n / 1000)
  else "." ++ padded 9 n

def dateTimeText (t : Instant) (sep : String) : String :=
  let (y, mo, d) := t.date
  let (h, mi, s) := t.clock
  yearText y ++ "-" ++ padded 2 mo ++ "-" ++ padded 2 d ++ sep ++
    padded 2 h ++ ":" ++ padded 2 mi ++ ":" ++ padded 2 s

def text (t : Instant) : String := t.dateTimeText "T" ++ fractionText t.nanos ++ "Z"

end Instant

end TrackerSync.Time
