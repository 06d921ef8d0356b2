/-!
# The calendar

Years have twelve months. Every fourth year has a day more, except for three of every four full
centuries. Days are counted from the first of January of the year zero.
-/

namespace IniKeeper

namespace Calendar

/-- Days before the first of January of a year. -/
def daysBefore (year : Nat) : Nat :=
  365 * year + (year + 3) / 4 - (year + 99) / 100 + (year + 399) / 400

/-- The year that a day lies in. The mean length of a year puts the guess off by at most one. -/
def yearOf (day : Nat) : Nat :=
  let guess := day * 400 / 146097
  if daysBefore (guess + 1) ≤ day then guess + 1
  else if day < daysBefore guess then guess - 1
  else guess

/-- Whether a year has a twenty-ninth of February. -/
def isLeap (year : Nat) : Bool := year % 4 == 0 && (year % 100 != 0 || year % 400 == 0)

/-- The lengths of the months of a year. -/
def monthLengths (year : Nat) : List Nat :=
  [31, if isLeap year then 29 else 28, 31, 30, 31, 30, 31, 31, 30, 31, 30, 31]

/-- The month and the day of the month, both from one, of a day counted from the first of the months
given, of which the first has the number `month`. -/
def monthAndDay (month day : Nat) : List Nat → Nat × Nat
  | [] => (month, day + 1)
  | length :: rest =>
    if day < length then (month, day + 1) else monthAndDay (month + 1) (day - length) rest

/-- The year, the month and the day of the month of a day. -/
def date (day : Nat) : Nat × Nat × Nat :=
  let year := yearOf day
  (year, monthAndDay 1 (day - daysBefore year) (monthLengths year))

/-- Whether a year has a month and day, both from one. -/
def hasDate (year month day : Nat) : Bool :=
  1 ≤ month && 1 ≤ day && ((monthLengths year)[month - 1]?).any (day ≤ ·)

end Calendar

end IniKeeper
