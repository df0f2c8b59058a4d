import NodeFleet.Instant

/-!
Dates in header fields.

A date is written in the first of the three forms that are read:
`Sun, 06 Nov 1994 08:49:37 GMT`, `Sunday, 06-Nov-94 08:49:37 GMT`, `Sun Nov  6 08:49:37 1994`.
Times are counted in seconds from the beginning of 1970.
-/

namespace NodeFleet.Http

/-- The names of the months. -/
def monthNames : List String :=
  ["Jan", "Feb", "Mar", "Apr", "May", "Jun", "Jul", "Aug", "Sep", "Oct", "Nov", "Dec"]

/-- The names of the days, from the first day of 1970 on. -/
def dayNames : List String := ["Thu", "Fri", "Sat", "Sun", "Mon", "Tue", "Wed"]

/-- The names of the days in full, in the same order. -/
def fullDayNames : List String :=
  ["Thursday", "Friday", "Saturday", "Sunday", "Monday", "Tuesday", "Wednesday"]

/-- A number in two digits. -/
def twoDigits : Nat → String := Text.padNat 2

/-- A time of the day. -/
def clockText (ofDay : Nat) : String :=
  twoDigits (ofDay / 3600) ++ ":" ++ twoDigits (ofDay / 60 % 60) ++ ":" ++ twoDigits (ofDay % 60)

/-- The text of a time. -/
def dateText (second : Int) : String :=
  let days := second / secondsPerDay
  let date := Date.ofDays days
  dayNames.getD (days % 7).toNat "" ++ ", " ++ twoDigits date.day ++ " "
    ++ monthNames.getD (date.month - 1) "" ++ " " ++ Text.padNat 4 date.year.toNat ++ " "
    ++ clockText (second % secondsPerDay).toNat ++ " GMT"

/-- A number that is written in digits only. -/
def digitsValue? (cs : List Char) : Option Nat :=
  if cs.isEmpty then none
  else cs.foldlM (fun n c => (Text.digit? c).map (10 * n + ·)) 0

/-- A time of the day, `08:49:37`. -/
def clock? (cs : List Char) : Option Nat :=
  match cs with
  | [a, b, ':', c, d, ':', e, f] => do
    let hour ← digitsValue? [a, b]
    let minute ← digitsValue? [c, d]
    let second ← digitsValue? [e, f]
    if hour < 24 ∧ minute < 60 ∧ second < 60 then some (3600 * hour + 60 * minute + second)
    else none
  | _ => none

/-- The number of a month. -/
def month? (name : List Char) : Option Nat :=
  (monthNames.idxOf? (String.ofList name)).map (· + 1)

/-- The time of a day and a time of that day. -/
def timeOf? (year month day ofDay : Nat) : Option Int :=
  if 1970 ≤ year ∧ 1 ≤ day ∧ day ≤ 31 then
    some ((⟨year, month, day⟩ : Date).toDays * secondsPerDay + ofDay)
  else none

/-- The words of a text between single spaces. -/
def spacedWords (s : String) : List (List Char) := (s.splitOn " ").map String.toList

/-- A year of two digits: those below 70 belong to the century after 2000. -/
def shortYear (n : Nat) : Nat := if n < 70 then 2000 + n else 1900 + n

/-- Whether a word is the name of a day, with a mark after it. -/
def isDayName (names : List String) (mark word : List Char) : Bool :=
  names.any fun name => name.toList ++ mark == word

/-- The date of the third form. -/
def readPlainDate? (name month day clock year : List Char) : Option Int := do
  if !isDayName dayNames [] name ∨ year.length ≠ 4 then none
  timeOf? (← digitsValue? year) (← month? month) (← digitsValue? day) (← clock? clock)

/-- Reads the text of a time. -/
def readDate? (s : String) : Option Int :=
  match spacedWords s with
  | [name, day, month, year, clock, zone] => do
    if month.isEmpty then readPlainDate? name day year clock zone
    else
      if zone ≠ "GMT".toList ∨ !isDayName dayNames [','] name ∨ day.length ≠ 2
          ∨ year.length ≠ 4 then none
      timeOf? (← digitsValue? year) (← month? month) (← digitsValue? day) (← clock? clock)
  | [name, [d, e, '-', m, n, o, '-', y, z], clock, zone] => do
    if zone ≠ "GMT".toList ∨ !isDayName fullDayNames [','] name then none
    timeOf? (shortYear (← digitsValue? [y, z])) (← month? [m, n, o]) (← digitsValue? [d, e])
      (← clock? clock)
  | [name, month, day, clock, year] =>
    if day.length = 2 then readPlainDate? name month day clock year else none
  | _ => none

end NodeFleet.Http
