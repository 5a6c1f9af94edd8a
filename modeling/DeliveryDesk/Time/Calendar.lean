/-!
# The proleptic Gregorian calendar

Dates of every year, positive or not, and the numbering of days that makes them comparable
across zones: day 0 is January 1, 1970. A day number is turned back into a date by guessing
its year from the mean length of a year, which is off by at most one, and by walking through
the months.
-/

namespace DeliveryDesk.Time

/-- A day of the calendar. -/
structure Date where
  year : Int
  month : Nat
  day : Nat
deriving DecidableEq, Repr

/-- Every fourth year is a leap year, except for centuries that are no multiple of four. -/
def isLeapYear (y : Int) : Bool :=
  y % 4 == 0 && (y % 100 != 0 || y % 400 == 0)

/-- The lengths of the months of a year. -/
def monthLengths (y : Int) : List Nat :=
  [31, if isLeapYear y then 29 else 28, 31, 30, 31, 30, 31, 31, 30, 31, 30, 31]

/-- The length of a month, zero if there is no such month. -/
def daysInMonth (y : Int) (m : Nat) : Nat :=
  if m = 0 then 0 else ((monthLengths y)[m - 1]?).getD 0

namespace Date

/-- Whether the month has such a day. -/
def isValid (d : Date) : Bool :=
  1 ≤ d.day && d.day ≤ daysInMonth d.year d.month

end Date

/-- The days from January 1, 1970 to January 1 of a year. -/
def yearStart (y : Int) : Int :=
  365 * (y - 1) + (y - 1) / 4 - (y - 1) / 100 + (y - 1) / 400 - 719162

/-- The days of a year before a month starts. -/
def daysBeforeMonth (y : Int) (m : Nat) : Nat :=
  ((monthLengths y).take (m - 1)).foldr (fun days total => days + total) 0

/-- The number of a day. -/
def Date.dayNumber (d : Date) : Int :=
  yearStart d.year + daysBeforeMonth d.year d.month + d.day - 1

/-- The year in which a day lies. The mean year has 146097 / 400 days. -/
def yearOfDay (n : Int) : Int :=
  let guess := (400 * (n + 719162)) / 146097 + 1
  if n < yearStart guess then guess - 1
  else if yearStart (guess + 1) ≤ n then guess + 1
  else guess

/-- The month and day that lie `n` days after the first day of month `m`, where the months
from `m` on have the given lengths. -/
def walkMonths : List Nat → (m n : Nat) → Nat × Nat
  | [], m, n => (m, n + 1)
  | len :: rest, m, n => if n < len then (m, n + 1) else walkMonths rest (m + 1) (n - len)

/-- The day with a number. -/
def Date.ofDayNumber (n : Int) : Date :=
  let y := yearOfDay n
  let (m, d) := walkMonths (monthLengths y) 1 (n - yearStart y).toNat
  ⟨y, m, d⟩

/-- The weekday of a day, counted from Sunday. January 1, 1970 was a Thursday. -/
def weekdayOf (n : Int) : Nat := ((n + 4) % 7).toNat

/-- A time of a day in some zone. Second 60 is a leap second. -/
structure CivilTime where
  date : Date
  hour : Nat
  minute : Nat
  second : Nat
deriving DecidableEq, Repr

namespace CivilTime

/-- Whether there is such a time. -/
def isValid (t : CivilTime) : Bool :=
  t.date.isValid && t.hour < 24 && t.minute < 60 && t.second ≤ 60

/-- Whether the time is a leap second. -/
def isLeapSecond (t : CivilTime) : Bool := t.second == 60

/-- The seconds from the start of 1970 on the clock of the time's own zone. A leap second
shares its number with the second before it. -/
def clock (t : CivilTime) : Int :=
  t.date.dayNumber * 86400 + (t.hour * 3600 + t.minute * 60 + min t.second 59 : Nat)

/-- The time with a number on the clock; the flag tells a leap second from the second before
it. -/
def ofClock (n : Int) (leapSecond : Bool) : CivilTime :=
  let s := (n % 86400).toNat
  { date := Date.ofDayNumber (n / 86400)
    hour := s / 3600
    minute := s / 60 % 60
    second := s % 60 + if leapSecond then 1 else 0 }

end CivilTime

end DeliveryDesk.Time
