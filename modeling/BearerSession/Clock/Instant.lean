/-!
# Instants

An instant is a day of the proleptic Gregorian calendar and a time of that day in UTC, to the
nanosecond. A minute may have a 61st second, a leap second, kept as the second 60.

Years run from -262143 to 262142. `Instant.shift` moves an instant by whole seconds, carrying
into the day before or after, and keeps a leap second a leap second. `Instant.text` writes an
instant in the form of RFC 3339 in UTC: a year outside 0 to 9999 with its sign and at least
four digits, the fraction of a second with 3, 6 or 9 digits, none when it is zero, and `Z`.
-/

namespace BearerSession.Clock

/-- The first year an instant may have. -/
def minYear : Int := -262143

/-- The last year an instant may have. -/
def maxYear : Int := 262142

/-- Whether a year has a 29th of February. -/
def isLeapYear (y : Int) : Bool :=
  (y % 4 == 0 && y % 100 != 0) || y % 400 == 0

/-- The number of days of a month (1 to 12) of a year. -/
def daysInMonth (y : Int) (m : Nat) : Nat :=
  match m with
  | 2 => if isLeapYear y then 29 else 28
  | 4 | 6 | 9 | 11 => 30
  | _ => 31

/-- A day and a time of day in UTC. -/
structure Instant where
  year : Int
  month : Nat
  day : Nat
  hour : Nat
  minute : Nat
  /-- From 0 to 60; 60 is a leap second. -/
  second : Nat
  /-- From 0 to 999 999 999. -/
  nano : Nat
  deriving DecidableEq, Repr

/-- Whether year, month and day name a day of the calendar in range. -/
def validDay (y : Int) (m d : Nat) : Bool :=
  minYear ≤ y && y ≤ maxYear && 1 ≤ m && m ≤ 12 && 1 ≤ d && d ≤ daysInMonth y m

namespace Instant

/-- The day before, if it is in range. -/
def dayBefore (y : Int) (m d : Nat) : Option (Int × Nat × Nat) :=
  if d > 1 then some (y, m, d - 1)
  else if m > 1 then some (y, m - 1, daysInMonth y (m - 1))
  else if y > minYear then some (y - 1, 12, 31)
  else none

/-- The day after, if it is in range. -/
def dayAfter (y : Int) (m d : Nat) : Option (Int × Nat × Nat) :=
  if d < daysInMonth y m then some (y, m, d + 1)
  else if m < 12 then some (y, m + 1, 1)
  else if y < maxYear then some (y + 1, 1, 1)
  else none

/-- The instant `seconds` later (earlier when negative), for a shift of less than a day;
none when the day it falls on is out of range. -/
def shift (t : Instant) (seconds : Int) : Option Instant :=
  let leap := t.second == 60
  let clock : Int := t.hour * 3600 + t.minute * 60 + (if leap then 59 else t.second)
  let moved := clock + seconds
  let secondOfDay := (moved % 86400).toNat
  let day : Option (Int × Nat × Nat) :=
    if moved < 0 then dayBefore t.year t.month t.day
    else if moved ≥ 86400 then dayAfter t.year t.month t.day
    else some (t.year, t.month, t.day)
  day.map fun (y, m, d) =>
    let s := secondOfDay % 60
    { year := y, month := m, day := d, hour := secondOfDay / 3600,
      minute := secondOfDay / 60 % 60, second := if leap then s + 1 else s, nano := t.nano }

/-- `n` in at least `width` decimal digits. -/
def padded (width n : Nat) : String :=
  let digits := toString n
  String.ofList (List.replicate (width - digits.length) '0') ++ digits

/-- A year in four digits, or with its sign and at least four digits outside 0 to 9999. -/
def yearText (y : Int) : String :=
  if 0 ≤ y && y ≤ 9999 then padded 4 y.toNat
  else (if y < 0 then "-" else "+") ++ padded 4 y.natAbs

/-- The fraction of a second: none, or 3, 6 or 9 digits, the fewest that are exact. -/
def fractionText (nano : Nat) : String :=
  if nano == 0 then ""
  else if nano % 1000000 == 0 then "." ++ padded 3 (nano / 1000000)
  else if nano % 1000 == 0 then "." ++ padded 6 (nano / 1000)
  else "." ++ padded 9 nano

/-- The day of an instant, as `2024-01-01`. -/
def dateText (t : Instant) : String :=
  yearText t.year ++ "-" ++ padded 2 t.month ++ "-" ++ padded 2 t.day

/-- The time of day of an instant to the second, as `08:00:00`. -/
def clockText (t : Instant) : String :=
  padded 2 t.hour ++ ":" ++ padded 2 t.minute ++ ":" ++ padded 2 t.second

/-- An instant as RFC 3339 text in UTC, as `2024-01-01T08:00:00.5Z`. -/
def text (t : Instant) : String :=
  t.dateText ++ "T" ++ t.clockText ++ fractionText t.nano ++ "Z"

/-- The instant `seconds` after the start of 1970, with no leap seconds counted. Days are
turned into dates in eras of 400 years (146097 days) that start on the first of March, so a
29th of February is the last day of its year of the era. -/
def ofEpochSeconds (seconds : Nat) : Instant :=
  let z := seconds / 86400 + 719468
  let era := z / 146097
  let doe := z - era * 146097
  let yoe := (doe - doe / 1460 + doe / 36524 - doe / 146096) / 365
  let doy := doe - (365 * yoe + yoe / 4 - yoe / 100)
  let mp := (5 * doy + 2) / 153
  let m := if mp < 10 then mp + 3 else mp - 9
  let clock := seconds % 86400
  { year := (yoe + era * 400 + (if m ≤ 2 then 1 else 0) : Nat), month := m,
    day := doy - (153 * mp + 2) / 5 + 1, hour := clock / 3600, minute := clock / 60 % 60,
    second := clock % 60, nano := 0 }

end Instant

end BearerSession.Clock
