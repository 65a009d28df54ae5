/-!
# Timestamps

A point in time is a number of seconds since the start of 1970 and a number of nanoseconds after it.
It is written as date and time of day in UTC, down to the millisecond, in the proleptic Gregorian
calendar.

## Dates from days

Years are counted from March, so that the leap day is the last day of a year, and in eras of 400
years, which are all equally long.

## Clocks

What writes points in time is a `Clock`, and `Timestamp.text?` is one of them. Others may be set to
other zones.
-/

namespace RenderTargets.Log

/-- A point in time. -/
structure Timestamp where
  /-- Seconds since the start of 1970. -/
  seconds : Int
  /-- Nanoseconds after that. -/
  nanoseconds : Nat
  deriving DecidableEq, Inhabited, Repr

/-- What writes points in time, as far as it has dates for them. -/
abbrev Clock := Timestamp → Option String

/-- A day of the calendar. -/
structure Date where
  /-- Year, also before year one. -/
  year : Int
  /-- Month from one. -/
  month : Nat
  /-- Day of the month from one. -/
  day : Nat
  deriving DecidableEq, Inhabited, Repr

namespace Date

/-- The date `days` days after the first of January 1970. -/
def ofDays (days : Int) : Date :=
  let shifted := days + 719468
  let era := shifted.fdiv 146097
  let dayOfEra := (shifted - era * 146097).toNat
  let yearOfEra :=
    (dayOfEra - dayOfEra / 1460 + dayOfEra / 36524 - dayOfEra / 146096) / 365
  let dayOfYear := dayOfEra - (365 * yearOfEra + yearOfEra / 4 - yearOfEra / 100)
  let monthFromMarch := (5 * dayOfYear + 2) / 153
  let day := dayOfYear - (153 * monthFromMarch + 2) / 5 + 1
  let month := if monthFromMarch < 10 then monthFromMarch + 3 else monthFromMarch - 9
  let year := (yearOfEra : Int) + era * 400 + (if month ≤ 2 then 1 else 0)
  ⟨year, month, day⟩

/-- First year with dates. -/
def firstYear : Int := -262143

/-- Last year with dates. -/
def lastYear : Int := 262142

end Date

/-- The number with at least `width` digits. -/
def padded (width n : Nat) : String :=
  let digits := Nat.toDigits 10 n
  String.ofList (List.replicate (width - digits.length) '0' ++ digits)

/-- Years of four digits are written bare, all others with a sign. -/
def yearText (y : Int) : String :=
  if 0 ≤ y ∧ y ≤ 9999 then padded 4 y.toNat
  else if 0 ≤ y then "+" ++ padded 4 y.toNat
  else "-" ++ padded 4 (-y).toNat

namespace Timestamp

/-- Whole seconds since the start of 1970. -/
def wholeSeconds (t : Timestamp) : Int := t.seconds + t.nanoseconds / 1000000000

/-- Date and time of day, if the date exists. -/
def text? (t : Timestamp) : Option String :=
  let days := t.wholeSeconds.fdiv 86400
  let second := (t.wholeSeconds - days * 86400).toNat
  let date := Date.ofDays days
  if Date.firstYear ≤ date.year ∧ date.year ≤ Date.lastYear then
    let day := s!"{yearText date.year}-{padded 2 date.month}-{padded 2 date.day}"
    let time :=
      s!"{padded 2 (second / 3600)}:{padded 2 (second / 60 % 60)}:{padded 2 (second % 60)}"
    let millis := padded 3 (t.nanoseconds % 1000000000 / 1000000)
    some s!"{day} {time}.{millis}"
  else none

end Timestamp

end RenderTargets.Log
