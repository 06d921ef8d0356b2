import IniKeeper.Text
import IniKeeper.Time.Calendar

/-!
# Instants and their stamps

An instant is a count of nanoseconds of universal time since the year zero began. Its stamp is its
date and time of day with every field filled up with zeros to a fixed width, the most significant
field first, so that stamps sort as the instants do.
-/

namespace IniKeeper

/-- Nanoseconds since the beginning of the year zero. -/
structure Instant where
  /-- How many nanoseconds have passed. -/
  nanos : Nat
  deriving Repr, DecidableEq

namespace Instant

/-- Nanoseconds of a second. -/
def perSecond : Nat := 1000000000

/-- Nanoseconds of an hour. -/
def perHour : Nat := 3600 * perSecond

/-- Nanoseconds of a day. -/
def perDay : Nat := 24 * perHour

/-- A number filled up with zeros to a width. -/
def field (width n : Nat) : Text :=
  let digits := Nat.toDigits 10 n
  List.replicate (width - digits.length) '0' ++ digits

/-- The date of an instant: year, month and day with hyphens between them. -/
def dateText (instant : Instant) : Text :=
  let day := instant.nanos / perDay
  let (year, month, dayOfMonth) := Calendar.date day
  field 4 year ++ '-' :: field 2 month ++ '-' :: field 2 dayOfMonth

/-- The time of day of an instant: hours, minutes and seconds. -/
def timeText (instant : Instant) : Text :=
  let second := instant.nanos / perSecond
  field 2 (second / 3600 % 24) ++ field 2 (second / 60 % 60) ++ field 2 (second % 60)

/-- The stamp of an instant: date, time of day and nanoseconds, with low lines between them. -/
def stamp (instant : Instant) : Text :=
  dateText instant ++ '_' :: timeText instant ++ '_' :: field 9 (instant.nanos % perSecond)

/-- The date and time of day of an instant down to microseconds, as log lines show them. -/
def logText (instant : Instant) : Text :=
  let second := instant.nanos / perSecond
  dateText instant ++ 'T' :: field 2 (second / 3600 % 24) ++ ':' :: field 2 (second / 60 % 60) ++
    ':' :: field 2 (second % 60) ++ '.' :: field 6 (instant.nanos % perSecond / 1000) ++ ['Z']

/-- The instant that lies a count of nanoseconds after the beginning of 1970. -/
def after1970 (nanos : Nat) : Instant := ⟨Calendar.daysBefore 1970 * perDay + nanos⟩

/-- Whether at least an hour lies between two instants. -/
def hourPassed (earlier later : Instant) : Bool := earlier.nanos + perHour ≤ later.nanos

end Instant

/-- The readings of a clock, in order, and how many were taken. -/
structure Clock where
  /-- What each reading shows. -/
  reading : Nat → Instant
  /-- How many readings were taken. -/
  taken : Nat

/-- The clock that was just set and shows a nanosecond more at each reading. -/
def Clock.startingAt (instant : Instant) : Clock := ⟨fun n => ⟨instant.nanos + n⟩, 0⟩

end IniKeeper
