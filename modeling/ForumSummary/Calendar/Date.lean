/-!
# Days of the calendar

A date is a day of the proleptic Gregorian calendar, in years that a calendar of 64-bit seconds is
kept for. `dayNumber` counts days from 1970-01-01, which is day 0, and a day lasts from its first to
its last second in UTC.
-/

namespace ForumSummary.Calendar

/-- The first year of the calendar. -/
def firstYear : Int := -262143

/-- The last year of the calendar. -/
def lastYear : Int := 262142

/-- Every fourth year is a leap year, except centuries that are no multiple of four centuries. -/
def isLeap (year : Int) : Bool :=
  year % 4 = 0 && (year % 100 ≠ 0 || year % 400 = 0)

/-- The number of days of a month; there is no month but those from 1 to 12. -/
def daysInMonth (year : Int) : Nat → Nat
  | 2 => if isLeap year then 29 else 28
  | 4 | 6 | 9 | 11 => 30
  | 1 | 3 | 5 | 7 | 8 | 10 | 12 => 31
  | _ => 0

/-- A year, month and day that are a day of the calendar. -/
def IsDate (year : Int) (month day : Nat) : Prop :=
  firstYear ≤ year ∧ year ≤ lastYear ∧ 1 ≤ day ∧ day ≤ daysInMonth year month

instance (year : Int) (month day : Nat) : Decidable (IsDate year month day) :=
  inferInstanceAs (Decidable (_ ∧ _))

/-- A day of the calendar. -/
structure Date where
  year : Int
  month : Nat
  day : Nat
  isDate : IsDate year month day
  deriving DecidableEq, Repr

/-- The days of a year before the given month. -/
def daysBeforeMonth (year : Int) : Nat → Nat
  | 0 => 0
  | month + 1 => daysBeforeMonth year month + daysInMonth year month

/-- The days from 0001-01-01 to the start of a year: 365 for each, and one more for each leap year.
-/
def daysBeforeYear (year : Int) : Int :=
  let y := year - 1
  365 * y + y / 4 - y / 100 + y / 400

namespace Date

/-- The date of a year, month and day. -/
def of? (year : Int) (month day : Nat) : Option Date :=
  if h : IsDate year month day then some ⟨year, month, day, h⟩ else none

/-- The number of days from 1970-01-01 to a date. -/
def dayNumber (d : Date) : Int :=
  daysBeforeYear d.year - daysBeforeYear 1970 + daysBeforeMonth d.year d.month + (d.day - 1 : Nat)

/-- The seconds of a day. -/
def secondsPerDay : Int := 86400

/-- The first second of a day, in seconds since 1970. -/
def firstSecond (d : Date) : Int :=
  d.dayNumber * secondsPerDay

/-- The last second of a day, in seconds since 1970. -/
def lastSecond (d : Date) : Int :=
  d.firstSecond + (secondsPerDay - 1)

theorem of?_isSome_iff {year : Int} {month day : Nat} :
    (of? year month day).isSome ↔ IsDate year month day := by
  unfold of?
  split <;> simp_all

end Date

end ForumSummary.Calendar
