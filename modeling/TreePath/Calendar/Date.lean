/-
TreePath.Calendar.Date — dates of the proleptic Gregorian calendar, and times of day.

Years run from -262143 to 262142. A time of day has nanoseconds, and its second may be 60, a leap
second. A date-time is a date and a time of day; its place on the time line is its number of seconds
since the start of 1970 with the nanoseconds beside it.
-/
import TreePath.Calendar.Zone

namespace TreePath

/-! ## Dates -/

namespace Calendar

def isLeapYear (year : Int) : Bool :=
  year % 4 == 0 && (year % 100 != 0 || year % 400 == 0)

/-- The number of days of a month; zero if there is no such month. -/
def daysInMonth (year : Int) : Nat → Nat
  | 1 | 3 | 5 | 7 | 8 | 10 | 12 => 31
  | 4 | 6 | 9 | 11 => 30
  | 2 => if isLeapYear year then 29 else 28
  | _ => 0

def minYear : Int := -262143

def maxYear : Int := 262142

end Calendar

open Calendar

/-- A day of the calendar. -/
structure Date where
  year : Int
  month : Nat
  day : Nat
  year_range : minYear ≤ year ∧ year ≤ maxYear
  day_range : 1 ≤ day ∧ day ≤ daysInMonth year month
deriving DecidableEq

namespace Date

/-- The date with these fields, if the calendar has it. -/
def ofFields? (year : Int) (month day : Nat) : Option Date :=
  if h : (minYear ≤ year ∧ year ≤ maxYear) ∧ (1 ≤ day ∧ day ≤ daysInMonth year month) then
    some ⟨year, month, day, h.1, h.2⟩
  else none

/-- The number of days since 1 January 1970. Years are taken to begin in March, so that the leap
day ends them. -/
def dayNumber (d : Date) : Int :=
  let y := if d.month ≤ 2 then d.year - 1 else d.year
  let era := y / 400
  let yearOfEra := y % 400
  let shifted : Int := if d.month ≤ 2 then d.month + 9 else (d.month : Int) - 3
  let dayOfYear := (153 * shifted + 2) / 5 + d.day - 1
  let dayOfEra := yearOfEra * 365 + yearOfEra / 4 - yearOfEra / 100 + dayOfYear
  era * 146097 + dayOfEra - 719468

/-- The first day that the calendar has. -/
def first : Date := ⟨-262143, 1, 1, by decide, by decide⟩

/-- The last day that the calendar has. -/
def last : Date := ⟨262142, 12, 31, by decide, by decide⟩

end Date

/-! ## Times of day and date-times -/

def nanosPerSecond : Nat := 1000000000

/-- A time of day; the second 60 is a leap second. -/
structure TimeOfDay where
  hour : Nat
  minute : Nat
  second : Nat
  nanosecond : Nat
  hour_lt : hour < 24
  minute_lt : minute < 60
  second_le : second ≤ 60
  nanosecond_lt : nanosecond < nanosPerSecond
deriving DecidableEq

namespace TimeOfDay

def midnight : TimeOfDay := ⟨0, 0, 0, 0, by decide, by decide, by decide, by decide⟩

/-- The time with these fields, if the clock shows it. -/
def ofFields? (hour minute second nanosecond : Nat) : Option TimeOfDay :=
  if h : hour < 24 ∧ minute < 60 ∧ second ≤ 60 ∧ nanosecond < nanosPerSecond then
    some ⟨hour, minute, second, nanosecond, h.1, h.2.1, h.2.2.1, h.2.2.2⟩
  else none

/-- Whole seconds since midnight; a leap second counts as the second before it. -/
def secondOfDay (t : TimeOfDay) : Nat :=
  3600 * t.hour + 60 * t.minute + (if t.second = 60 then 59 else t.second)

/-- Nanoseconds since that second; a whole second and more within a leap second. -/
def nanosWithLeap (t : TimeOfDay) : Nat :=
  if t.second = 60 then t.nanosecond + nanosPerSecond else t.nanosecond

end TimeOfDay

/-- A date and a time of day. -/
structure DateTime where
  date : Date
  time : TimeOfDay
deriving DecidableEq

/-- A place on the time line: seconds since the start of 1970, and nanoseconds. -/
structure Instant where
  seconds : Int
  nanoseconds : Nat
deriving DecidableEq, Repr

namespace Instant

/-- Earlier is less. -/
def compare (a b : Instant) : Ordering :=
  (Ord.compare a.seconds b.seconds).then (Ord.compare a.nanoseconds b.nanoseconds)

end Instant

namespace DateTime

def atMidnight (d : Date) : DateTime := ⟨d, .midnight⟩

/-- The instant of a local date-time in a zone; UTC stands in for a missing zone. -/
def instant (t : DateTime) (zone : Option Zone) : Instant :=
  let offset := match zone with
    | some z => z.seconds
    | none => 0
  ⟨86400 * t.date.dayNumber + t.time.secondOfDay - offset, t.time.nanosWithLeap⟩

/-- The date-time in UTC still lies on a day that the calendar has. -/
def isRepresentable (t : DateTime) (zone : Zone) : Bool :=
  let day := (t.instant (some zone)).seconds / 86400
  Date.first.dayNumber ≤ day && day ≤ Date.last.dayNumber

end DateTime

end TreePath
