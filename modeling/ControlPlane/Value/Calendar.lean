/-!
# Dates and timestamps

Dates of the proleptic Gregorian calendar, years 1 to 9999, and timestamps to the microsecond with
an optional distance from universal time.  `Date.dayNumber` counts the days from the first one, so
that two timestamps of different distances can be compared.
-/

namespace ControlPlane

/-- A day of the calendar. -/
structure Date where
  year : Nat
  month : Nat
  day : Nat
  deriving DecidableEq, Repr

namespace Date

/-- Whether a year has 366 days. -/
def isLeap (year : Nat) : Bool :=
  year % 4 == 0 && (year % 100 != 0 || year % 400 == 0)

/-- The number of days of a month. -/
def daysInMonth (year month : Nat) : Nat :=
  if month = 2 then if isLeap year then 29 else 28
  else if month = 4 ∨ month = 6 ∨ month = 9 ∨ month = 11 then 30
  else 31

/-- Whether the numbers name a day. -/
def isValid (d : Date) : Bool :=
  1 ≤ d.year && d.year ≤ 9999 && 1 ≤ d.month && d.month ≤ 12 &&
    1 ≤ d.day && d.day ≤ daysInMonth d.year d.month

/-- The number of days since the first of January of the year 1. -/
def dayNumber (d : Date) : Nat :=
  let y := d.year - 1
  let before := (List.range (d.month - 1)).foldl (fun n m => n + daysInMonth d.year (m + 1)) 0
  y * 365 + y / 4 - y / 100 + y / 400 + before + (d.day - 1)

end Date

/-- A day and a time of day; `offset` is the distance from universal time in minutes, if known. -/
structure Timestamp where
  date : Date
  hour : Nat
  minute : Nat
  second : Nat
  microsecond : Nat
  offset : Option Int
  deriving DecidableEq, Repr

namespace Timestamp

/-- Whether the numbers name a moment: the distance from universal time is less than a day. -/
def isValid (t : Timestamp) : Bool :=
  t.date.isValid && t.hour < 24 && t.minute < 60 && t.second < 60 &&
    (t.offset.all fun m => -1440 < m && m < 1440)

/-- The microseconds since the first midnight, by the clock of the timestamp. -/
def clock (t : Timestamp) : Int :=
  let seconds := ((t.date.dayNumber * 24 + t.hour) * 60 + t.minute) * 60 + t.second
  (seconds * 1000000 + t.microsecond : Nat)

/-- Whether two timestamps name one moment.  One with a known distance from universal time never
equals one without. -/
def sameMoment (t u : Timestamp) : Bool :=
  match t.offset, u.offset with
  | none, none => t.clock == u.clock
  | some a, some b => t.clock - a * 60000000 == u.clock - b * 60000000
  | _, _ => false

end Timestamp

end ControlPlane
