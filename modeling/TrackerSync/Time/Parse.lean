import TrackerSync.Time.Instant
import TrackerSync.Text.Blank

/-!
Reading date-times: the exact RFC 3339 reader, a relaxed one, and patterns without offset.
-/

namespace TrackerSync.Time

/-- Why a text is not a date-time. -/
inductive TimeError where
  | outOfRange
  | impossible
  | notEnough
  | invalid
  | tooShort
  | tooLong
  deriving BEq, Repr

def TimeError.message : TimeError → String
  | .outOfRange => "input is out of range"
  | .impossible => "no possible date and time matching input"
  | .notEnough => "input is not enough for unique date and time"
  | .invalid => "input contains invalid characters"
  | .tooShort => "premature end of input"
  | .tooLong => "trailing input"

/-- The fields read so far. -/
structure Fields where
  year : Option Int := none
  month : Option Nat := none
  day : Option Nat := none
  hour : Option Nat := none
  minute : Option Nat := none
  second : Option Nat := none
  nanosecond : Option Nat := none
  offset : Option Int := none

abbrev Scan (α : Type) := Except TimeError (α × List Char)

def byteLength (s : List Char) : Nat := (s.map Char.utf8Size).foldl (· + ·) 0

def isDigit (c : Char) : Bool := '0' ≤ c ∧ c ≤ '9'

/-- Digits read into a number, at most `left` more of them, `count` read so far. -/
def scanDigits (min : Nat) : Nat → Nat → Nat → List Char → Scan (Nat × Nat)
  | 0, count, n, s => .ok ((n, count), s)
  | left + 1, count, n, s =>
    match s with
    | c :: rest =>
      if isDigit c then
        let n := n * 10 + (c.toNat - 48)
        if n > 9223372036854775807 then .error .outOfRange
        else scanDigits min left (count + 1) n rest
      else if count < min then .error .invalid
      else .ok ((n, count), s)
    | [] => .ok ((n, count), [])

def scanNumber (s : List Char) (min max : Nat) : Scan Nat :=
  if byteLength s < min then .error .tooShort
  else (scanDigits min max 0 0 s).map fun ((n, _), rest) => (n, rest)

/-- A fraction of a second after its point: up to nine digits scaled to nanoseconds, further
digits dropped. -/
def scanNanos (s : List Char) : Scan Nat :=
  if byteLength s < 1 then .error .tooShort
  else
    match scanDigits 1 9 0 0 s with
    | .error e => .error e
    | .ok ((n, count), rest) => .ok (n * Nat.pow 10 (9 - count), rest.dropWhile isDigit)

def scanChar (s : List Char) (c : Char) : Except TimeError (List Char) :=
  match s with
  | d :: rest => if d == c then .ok rest else .error .invalid
  | [] => .error .tooShort

def setField {α : Type} [BEq α] (old : Option α) (v : α) : Except TimeError (Option α) :=
  match old with
  | some o => if o == v then .ok (some v) else .error .impossible
  | none => .ok (some v)

/-- The fields of a date-time, and how a number is stored into each. -/
inductive Part where
  | year | month | day | hour | minute | second
  deriving BEq

def Fields.set (f : Fields) (p : Part) (v : Int) : Except TimeError Fields :=
  let within (lo hi : Int) : Except TimeError Nat :=
    if lo ≤ v ∧ v ≤ hi then .ok v.toNat else .error .outOfRange
  match p with
  | .year =>
    if -2147483648 ≤ v ∧ v ≤ 2147483647 then (setField f.year v).map ({ f with year := · })
    else .error .outOfRange
  | .month => do let n ← within 1 12; return { f with month := ← setField f.month n }
  | .day => do let n ← within 1 31; return { f with day := ← setField f.day n }
  | .hour => do let n ← within 0 23; return { f with hour := ← setField f.hour n }
  | .minute => do let n ← within 0 59; return { f with minute := ← setField f.minute n }
  | .second => do let n ← within 0 60; return { f with second := ← setField f.second n }

def Fields.setNanos (f : Fields) (v : Nat) : Except TimeError Fields :=
  if v ≤ 999999999 then (setField f.nanosecond v).map ({ f with nanosecond := · })
  else .error .outOfRange

def Fields.setOffset (f : Fields) (v : Int) : Except TimeError Fields :=
  if -2147483648 ≤ v ∧ v ≤ 2147483647 then (setField f.offset v).map ({ f with offset := · })
  else .error .outOfRange

def Fields.date (f : Fields) : Except TimeError Int :=
  match f.year, f.month, f.day with
  | some y, some m, some d => if validDate y m d then .ok (daysFromCivil y m d) else .error .outOfRange
  | _, _, _ => .error .notEnough

/-- The second of the day and the nanoseconds of the fields (a missing second is zero). -/
def Fields.time (f : Fields) : Except TimeError (Nat × Nat) :=
  match f.hour, f.minute with
  | some h, some mi =>
    let (sec, leap) := match f.second with
      | some 60 => (59, 1000000000)
      | some s => (s, 0)
      | none => (0, 0)
    match f.nanosecond with
    | some n => if f.second.isSome then .ok (h * 3600 + mi * 60 + sec, leap + n) else .error .notEnough
    | none => .ok (h * 3600 + mi * 60 + sec, leap)
  | _, _ => .error .notEnough

/-- The fields as an instant, taking the wall clock time at `offset` seconds east of UTC. -/
def Fields.instantAt (f : Fields) (offset : Int) : Except TimeError Instant :=
  match f.date, f.time with
  | .ok days, .ok (secs, nanos) =>
    let utc := days * 86400 + secs - offset
    if inRange utc then .ok ⟨utc, nanos⟩ else .error .outOfRange
  | .error e, _ => .error e
  | _, .error e => .error e

/-- The fields as an instant using their own offset, which must be less than a day. -/
def Fields.instant (f : Fields) : Except TimeError Instant :=
  match f.offset with
  | none => .error .notEnough
  | some off =>
    match f.date, f.time with
    | .error e, _ => .error e
    | _, .error e => .error e
    | .ok _, .ok _ => if -86400 < off ∧ off < 86400 then f.instantAt off else .error .outOfRange

/-- An offset `±HH:MM` (or `Z` when allowed); `sep` reads what stands between hours and
minutes. A minus sign `U+2212` counts as a hyphen. -/
def scanOffset (s : List Char) (sep : List Char → Except TimeError (List Char))
    (allowZulu : Bool) : Scan Int :=
  match s with
  | c :: rest =>
    if allowZulu ∧ (c == 'Z' ∨ c == 'z') then .ok (0, rest)
    else
      let sign : Except TimeError (Bool × List Char) :=
        if c == '+' then .ok (false, rest)
        else if c == '-' ∨ c.toNat == 0x2212 then .ok (true, rest)
        else .error .invalid
      match sign with
      | .error e => .error e
      | .ok (negative, s) =>
        if byteLength s < 2 then .error .tooShort
        else
          match s with
          | h1 :: h2 :: s =>
            if ¬ (isDigit h1 ∧ isDigit h2) then .error .invalid
            else
              let hours := (h1.toNat - 48) * 10 + (h2.toNat - 48)
              match sep s with
              | .error e => .error e
              | .ok s =>
                if byteLength s < 2 then .error .tooShort
                else
                  match s with
                  | m1 :: m2 :: s =>
                    if '0' ≤ m1 ∧ m1 ≤ '5' ∧ isDigit m2 then
                      let secs : Int := hours * 3600 + ((m1.toNat - 48) * 10 + (m2.toNat - 48)) * 60
                      .ok ((if negative then -secs else secs), s)
                    else if '6' ≤ m1 ∧ m1 ≤ '9' ∧ isDigit m2 then .error .outOfRange
                    else .error .invalid
                  | _ => .error .invalid
          | _ => .error .invalid
  | [] => .error .tooShort

/-- Read a date-time in the exact form, with its offset, into fields. -/
def scanRfc3339 (s : List Char) : Except TimeError (Fields × List Char) := do
  let f : Fields := {}
  let (y, s) ← scanNumber s 4 4
  let f ← f.set .year y
  let s ← scanChar s '-'
  let (mo, s) ← scanNumber s 2 2
  let f ← f.set .month mo
  let s ← scanChar s '-'
  let (d, s) ← scanNumber s 2 2
  let f ← f.set .day d
  let s ← match s with
    | c :: rest => if c == 'T' ∨ c == 't' ∨ c == ' ' then pure rest else throw .invalid
    | [] => throw .tooShort
  let (h, s) ← scanNumber s 2 2
  let f ← f.set .hour h
  let s ← scanChar s ':'
  let (mi, s) ← scanNumber s 2 2
  let f ← f.set .minute mi
  let s ← scanChar s ':'
  let (sec, s) ← scanNumber s 2 2
  let f ← f.set .second sec
  let (f, s) ← match s with
    | '.' :: rest => do
      let (n, s) ← scanNanos rest
      pure (← f.setNanos n, s)
    | _ => pure (f, s)
  let (off, s) ← scanOffset s (fun s => scanChar s ':') true
  if off < -86340 ∨ off > 86340 then throw .outOfRange
  let f ← f.setOffset off
  return (f, s)

def rfc3339 (text : String) : Except TimeError Instant := do
  let (f, rest) ← scanRfc3339 text.toList
  if ¬ rest.isEmpty then throw .tooLong
  f.instant

/-- One part of a pattern. -/
inductive Item where
  /-- A number into a field, of up to `width` digits; a signed one may carry a sign and then any
  number of digits. -/
  | number (part : Part) (width : Nat) (signed : Bool)
  /-- Literal text. -/
  | literal (text : List Char)
  /-- Any number of blanks, none included. -/
  | blanks
  /-- An optional fraction of a second after a point. -/
  | fraction

def Item.scan (f : Fields) (s : List Char) : Item → Except TimeError (Fields × List Char)
  | .number part width signed => do
    let s := s.dropWhile Text.isBlank
    let (v, s) ← match signed, s with
      | true, '-' :: rest => do let (n, s) ← scanNumber rest 1 1000; pure (-(n : Int), s)
      | true, '+' :: rest => do let (n, s) ← scanNumber rest 1 1000; pure ((n : Int), s)
      | _, _ => do let (n, s) ← scanNumber s 1 width; pure ((n : Int), s)
    return (← f.set part v, s)
  | .literal text =>
    if byteLength s < byteLength text then .error .tooShort
    else if text.isPrefixOf s then .ok (f, s.drop text.length)
    else .error .invalid
  | .blanks => .ok (f, s.dropWhile Text.isBlank)
  | .fraction =>
    match s with
    | '.' :: rest => do
      let (n, s) ← scanNanos rest
      return (← f.setNanos n, s)
    | _ => .ok (f, s)

def scanItems (f : Fields) (s : List Char) : List Item → Except TimeError (Fields × List Char)
  | [] => .ok (f, s)
  | it :: its => do
    let (f, s) ← it.scan f s
    scanItems f s its

def relaxedDate : List Item :=
  [.number .year 4 true, .blanks, .literal ['-'], .number .month 2 false, .blanks,
   .literal ['-'], .number .day 2 false]

def relaxedTime : List Item :=
  [.number .hour 2 false, .blanks, .literal [':'], .number .minute 2 false, .blanks,
   .literal [':'], .number .second 2 false, .fraction, .blanks]

def startsWithUtc (s : List Char) : Bool :=
  match s with
  | a :: b :: c :: _ => a.toUpper == 'U' ∧ b.toUpper == 'T' ∧ c.toUpper == 'C'
  | _ => false

def relaxed (text : String) : Except TimeError Instant := do
  let (f, s) ← scanItems {} text.toList relaxedDate
  let s ← match s with
    | c :: rest => if c == 'T' ∨ c == 't' ∨ c == ' ' then pure rest else throw .invalid
    | [] => throw .tooShort
  let (f, s) ← scanItems f s relaxedTime
  let s := s.dropWhile Text.isBlank
  let (off, s) ←
    if startsWithUtc s then pure ((0 : Int), s.drop 3)
    else scanOffset s (fun s => .ok (s.dropWhile fun c => c == ':' ∨ Text.isBlank c)) true
  let f ← f.setOffset off
  if ¬ (s.dropWhile Text.isBlank).isEmpty then throw .tooLong
  f.instant

/-- A pattern's text as parts: `%Y`, `%m`, `%d`, `%H`, `%M`, `%S`, `%.f`, a blank, and literal
characters. -/
def patternItems : List Char → List Item
  | '%' :: 'Y' :: rest => .number .year 4 true :: patternItems rest
  | '%' :: 'm' :: rest => .number .month 2 false :: patternItems rest
  | '%' :: 'd' :: rest => .number .day 2 false :: patternItems rest
  | '%' :: 'H' :: rest => .number .hour 2 false :: patternItems rest
  | '%' :: 'M' :: rest => .number .minute 2 false :: patternItems rest
  | '%' :: 'S' :: rest => .number .second 2 false :: patternItems rest
  | '%' :: '.' :: 'f' :: rest => .fraction :: patternItems rest
  | ' ' :: rest => .blanks :: patternItems rest
  | c :: rest => .literal [c] :: patternItems rest
  | [] => []

/-- A date-time without offset, read by a pattern and taken as UTC. -/
def naive (pattern text : String) : Except TimeError Instant := do
  let (f, rest) ← scanItems {} text.toList (patternItems pattern.toList)
  if ¬ rest.isEmpty then throw .tooLong
  f.instantAt 0

end TrackerSync.Time
