import NodeFleet.Text.Integer

/-!
Instants and their text in the format of RFC 3339.

An instant counts seconds from the beginning of 1970 in universal time, and nanoseconds within the
second; a leap second is the second before it with a thousand million nanoseconds more. Dates are
those of the Gregorian calendar, extended to all years.

`Instant.toText` writes as few groups of three fraction digits as the instant needs, and
`Instant.ofText?` reads any number of fraction digits, of which nine count.
-/

namespace NodeFleet

/-- A moment in universal time. -/
structure Instant where
  second : Int
  nano : Nat
  deriving DecidableEq, Repr

/-- Nanoseconds in a second. -/
def nanosPerSecond : Nat := 1000000000

/-- Nanoseconds in a millisecond. -/
def nanosPerMilli : Nat := 1000000

/-- Seconds in a day. -/
def secondsPerDay : Nat := 86400

/-- Days from 1 March of the year 0 to 1 January 1970. -/
def daysToEpoch : Int := 719468

/-- A day of the calendar. -/
structure Date where
  year : Int
  month : Nat
  day : Nat
  deriving DecidableEq, Repr

/-- Whether a year has a 29 February. -/
def isLeapYear (year : Int) : Bool :=
  year % 4 == 0 && (year % 100 != 0 || year % 400 == 0)

/-- The number of days of a month. -/
def daysInMonth (year : Int) (month : Nat) : Nat :=
  if month = 2 then (if isLeapYear year then 29 else 28)
  else if month = 4 ∨ month = 6 ∨ month = 9 ∨ month = 11 then 30
  else 31

/-- Whether the month and the day exist. -/
def Date.isValid (d : Date) : Bool :=
  1 ≤ d.month && d.month ≤ 12 && 1 ≤ d.day && d.day ≤ daysInMonth d.year d.month

/--
The number of days from 1 January 1970 to a day. Years are taken to begin in March, so that the
day in February that only some years have is the last one of its year.
-/
def Date.toDays (d : Date) : Int :=
  let year : Int := if d.month ≤ 2 then d.year - 1 else d.year
  let month : Int := if d.month ≤ 2 then d.month + 9 else d.month - 3
  365 * year + year / 4 - year / 100 + year / 400 + (153 * month + 2) / 5 + (d.day - 1)
    - daysToEpoch

/-- The day that lies a number of days after 1 January 1970. -/
def Date.ofDays (n : Int) : Date :=
  let days := n + daysToEpoch
  let era := days / 146097
  let dayOfEra := days % 146097
  let yearOfEra := (dayOfEra - dayOfEra / 1460 + dayOfEra / 36524 - dayOfEra / 146096) / 365
  let dayOfYear := dayOfEra - (365 * yearOfEra + yearOfEra / 4 - yearOfEra / 100)
  let month := (5 * dayOfYear + 2) / 153
  let day := dayOfYear - (153 * month + 2) / 5 + 1
  let year := 400 * era + yearOfEra
  if month < 10 then ⟨year, (month + 3).toNat, day.toNat⟩
  else ⟨year + 1, (month - 9).toNat, day.toNat⟩

namespace Instant

/-- The instant a number of milliseconds after the beginning of 1970. -/
def ofMillis (ms : Int) : Instant :=
  ⟨ms / 1000, (ms % 1000).toNat * nanosPerMilli⟩

/-- The instant a number of nanoseconds later. -/
def later (t : Instant) (nanos : Nat) : Instant :=
  ⟨t.second + (t.nano + nanos : Nat) / nanosPerSecond, (t.nano + nanos) % nanosPerSecond⟩

/-- The second of the day of an instant. -/
def secondOfDay (t : Instant) : Int := t.second % secondsPerDay

/--
The nanoseconds from `earlier` to `t`. A leap second counts as a second of its own for the times
of the day on its far side.
-/
def since (t earlier : Instant) : Int :=
  let leap : Int :=
    if earlier.secondOfDay < t.secondOfDay ∧ nanosPerSecond ≤ earlier.nano then 1
    else if t.secondOfDay < earlier.secondOfDay ∧ nanosPerSecond ≤ t.nano then -1
    else 0
  (t.second - earlier.second + leap) * nanosPerSecond + t.nano - earlier.nano

/-- The nanoseconds from `earlier` to `t`, and zero when `t` comes first. -/
def ageSince (t earlier : Instant) : Nat := (t.since earlier).toNat

/-- A year with at least four digits, and a sign where there are more or it is negative. -/
def yearText (year : Int) : String :=
  if 0 ≤ year then
    if year ≤ 9999 then Text.padNat 4 year.toNat else "+" ++ Text.showNat year.toNat
  else "-" ++ Text.padNat 4 (-year).toNat

/-- A fraction of a second: nothing, or three, six or nine digits. -/
def fractionText (nano : Nat) : String :=
  if nano = 0 then ""
  else if nano % 1000000 = 0 then "." ++ Text.padNat 3 (nano / 1000000)
  else if nano % 1000 = 0 then "." ++ Text.padNat 6 (nano / 1000)
  else "." ++ Text.padNat 9 nano

/-- The text of an instant, in universal time. -/
def toText (t : Instant) : String :=
  let date := Date.ofDays (t.second / secondsPerDay)
  let ofDay := t.secondOfDay.toNat
  let leap := if nanosPerSecond ≤ t.nano then 1 else 0
  yearText date.year ++ "-" ++ Text.padNat 2 date.month ++ "-" ++ Text.padNat 2 date.day ++ "T"
    ++ Text.padNat 2 (ofDay / 3600) ++ ":" ++ Text.padNat 2 (ofDay / 60 % 60) ++ ":"
    ++ Text.padNat 2 (ofDay % 60 + leap) ++ fractionText (t.nano - leap * nanosPerSecond)
    ++ "+00:00"

/-- Exactly `count` digits, added to the value read so far. -/
def takeDigits (value : Nat) : Nat → List Char → Option (Nat × List Char)
  | 0, rest => some (value, rest)
  | _ + 1, [] => none
  | count + 1, c :: rest =>
    match Text.digit? c with
    | some d => takeDigits (10 * value + d) count rest
    | none => none

/-- A given character. -/
def takeChar (c : Char) : List Char → Option (List Char)
  | d :: rest => if d = c then some rest else none
  | [] => none

/-- The digits of a fraction, as nanoseconds: `unit` is the weight of the next digit. -/
def takeFraction (value : Nat) (unit : Nat) : List Char → Nat × List Char
  | [] => (value, [])
  | c :: rest =>
    match Text.digit? c with
    | some d => takeFraction (value + d * unit) (unit / 10) rest
    | none => (value, c :: rest)

/-- A fraction of a second, if there is one: at least one digit after a point. -/
def readFraction : List Char → Option (Nat × List Char)
  | '.' :: c :: rest =>
    if (Text.digit? c).isSome then some (takeFraction 0 100000000 (c :: rest)) else none
  | ['.'] => none
  | rest => some (0, rest)

/-- The seconds by which a local time is ahead of universal time: `Z`, or a sign, hours and
minutes. -/
def readOffset : List Char → Option (Int × List Char)
  | [] => none
  | c :: rest =>
    if c = 'Z' ∨ c = 'z' then some (0, rest)
    else if c = '+' ∨ c = '-' ∨ c = '−' then do
      let (hours, rest) ← takeDigits 0 2 rest
      let rest ← takeChar ':' rest
      let (minutes, rest) ← takeDigits 0 2 rest
      if hours ≤ 23 ∧ minutes ≤ 59 then
        let seconds : Int := 3600 * hours + 60 * minutes
        some (if c = '+' then seconds else -seconds, rest)
      else none
    else none

/-- The separators of date and time. -/
def isTimeMark (c : Char) : Bool := c == 'T' || c == 't' || c == ' '

/-- Reads the text of an instant. -/
def ofText? (s : String) : Option Instant := do
  let (year, rest) ← takeDigits 0 4 s.toList
  let rest ← takeChar '-' rest
  let (month, rest) ← takeDigits 0 2 rest
  let rest ← takeChar '-' rest
  let (day, rest) ← takeDigits 0 2 rest
  let mark :: rest := rest | none
  if !isTimeMark mark then none
  let (hour, rest) ← takeDigits 0 2 rest
  let rest ← takeChar ':' rest
  let (minute, rest) ← takeDigits 0 2 rest
  let rest ← takeChar ':' rest
  let (second, rest) ← takeDigits 0 2 rest
  let (nano, rest) ← readFraction rest
  let (offset, rest) ← readOffset rest
  let date : Date := ⟨year, month, day⟩
  if rest.isEmpty && date.isValid && hour ≤ 23 && minute ≤ 59 && second ≤ 60 then
    let leap := second / 60
    some ⟨date.toDays * secondsPerDay + (3600 * hour + 60 * minute + (second - leap) : Nat) -
        offset,
      nano + leap * nanosPerSecond⟩
  else none

end Instant

end NodeFleet
