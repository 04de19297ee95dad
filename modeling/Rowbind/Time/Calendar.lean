import Rowbind.Time.Instant

/-!
# The calendar

The date of a day by the calendar of today, carried back and on without end. Years are counted from
the first of March, so that a leap day is the last of its year, and in eras of four hundred years,
which all have the same number of days.

`Instant.text` writes an instant by date and time of day. A leap second is the second sixty.
-/

namespace Rowbind

/-- **A date.** Months and days are counted from one. -/
structure Date where
  year : Int
  month : Nat
  day : Nat
  deriving DecidableEq, Repr

/-- The days of four hundred years. -/
def daysOfEra : Nat := 146097

/-- **The date of a day.** -/
def Day.date (d : Day) : Date :=
  -- the first of March of the year 0 is 719468 days before 1970
  let shifted := d.number + 719468
  let era := shifted / daysOfEra
  let dayOfEra := (shifted % daysOfEra).toNat
  let yearOfEra := (dayOfEra - dayOfEra / 1460 + dayOfEra / 36524 - dayOfEra / 146096) / 365
  let dayOfYear := dayOfEra - (365 * yearOfEra + yearOfEra / 4 - yearOfEra / 100)
  let monthFromMarch := (5 * dayOfYear + 2) / 153
  let month := if monthFromMarch < 10 then monthFromMarch + 3 else monthFromMarch - 9
  { year := era * 400 + yearOfEra + if month ≤ 2 then 1 else 0
    month := month
    day := dayOfYear - (153 * monthFromMarch + 2) / 5 + 1 }

/-- The text of a date: a year of four digits, or with a sign, then month and day. -/
def Date.text (d : Date) : String :=
  let year :=
    if 0 ≤ d.year ∧ d.year ≤ 9999 then ClockTime.padded 4 d.year.toNat
    else (if d.year < 0 then "-" else "+") ++ ClockTime.padded 4 d.year.natAbs
  year ++ "-" ++ ClockTime.padded 2 d.month ++ "-" ++ ClockTime.padded 2 d.day

/-- The time of day of an instant. -/
def Instant.clockTime (t : Instant) : ClockTime :=
  let second := (t.seconds % 86400).toNat
  { hours := second / 3600
    minutes := second / 60 % 60
    seconds := second % 60 + t.nanos / 1000000000
    nanos := t.nanos % 1000000000 }

/-- **The text of an instant.** -/
def Instant.text (t : Instant) : String :=
  t.day.date.text ++ "T" ++ t.clockTime.text ++ "Z"

end Rowbind
