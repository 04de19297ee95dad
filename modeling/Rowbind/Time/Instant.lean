/-!
# Points in time

An **instant** counts seconds from the beginning of 1970, and nanoseconds beyond them. A leap
second is written as nanoseconds of a thousand million and more, and is kept so. A **day** is
counted from the first of January 1970; the day of an instant is that of its whole seconds, rounded
down, so that the second before 1970 lies on the day before.

A **clock time** is a time of day as text: hours, minutes and seconds of two digits, and a fraction
of as many digits, in groups of three, as it needs.
-/

namespace Rowbind

/-- **A point in time.** -/
structure Instant where
  seconds : Int
  nanos : Nat
  deriving DecidableEq, Repr

/-- **A calendar day**, counted from the first of January 1970. -/
structure Day where
  number : Int
  deriving DecidableEq, Repr

namespace Instant

/-- The beginning of 1970. -/
def epoch : Instant := ⟨0, 0⟩

/-- The day on which an instant lies. -/
def day (t : Instant) : Day := ⟨t.seconds / 86400⟩

/-- The instant less the part of a microsecond that it may have. -/
def toMicros (t : Instant) : Instant := ⟨t.seconds, t.nanos / 1000 * 1000⟩

end Instant

/-- The instant at which a day begins. -/
def Day.midnight (d : Day) : Instant := ⟨d.number * 86400, 0⟩

/-- The day on which a day begins is that day. -/
theorem Day.day_midnight (d : Day) : d.midnight.day = d := by
  simp [Day.midnight, Instant.day]

/-- **A time of day.** -/
structure ClockTime where
  hours : Nat
  minutes : Nat
  seconds : Nat
  nanos : Nat
  deriving DecidableEq, Repr

namespace ClockTime

/-- A number in at least so many digits, zeros in front. -/
def padded (width n : Nat) : String :=
  let digits := Nat.toDigits 10 n
  String.ofList (List.replicate (width - digits.length) '0' ++ digits)

/-- The fraction of a second: nothing, or three, six or nine digits after a point. -/
def fraction (nanos : Nat) : String :=
  if nanos = 0 then ""
  else if nanos % 1000000 = 0 then "." ++ padded 3 (nanos / 1000000)
  else if nanos % 1000 = 0 then "." ++ padded 6 (nanos / 1000)
  else "." ++ padded 9 nanos

/-- **The text of a time of day.** -/
def text (t : ClockTime) : String :=
  padded 2 t.hours ++ ":" ++ padded 2 t.minutes ++ ":" ++ padded 2 t.seconds ++ fraction t.nanos

end ClockTime

end Rowbind
