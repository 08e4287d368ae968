import Roster.Text.Numeral

/-!
# Instants and the calendar

An instant counts seconds from the start of 1970 in UTC and holds nanoseconds beside them.  A leap
second shares its count with the second before it and has a nanosecond count of 10^9 or more.

`civilOfDays` and `daysOfCivil` go between day numbers and dates of the proleptic Gregorian
calendar.  The calendar covers the years from `firstYear` to `lastYear`, and an instant of those
years is *in range*.
-/

namespace Roster

/-- A point in time, in UTC. -/
structure Instant where
  /-- Seconds since the start of 1970. -/
  seconds : Int
  /-- Nanoseconds beside them. -/
  nanos : Nat
deriving DecidableEq, Repr, Inhabited

/-- A date of the proleptic Gregorian calendar. -/
structure Date where
  /-- The year, where the year before 1 is 0. -/
  year : Int
  /-- The month from 1 to 12. -/
  month : Nat
  /-- The day of the month from 1. -/
  day : Nat
deriving DecidableEq, Repr

namespace Instant

/-- Earlier instants first. -/
instance : Ord Instant where
  compare a b := (compare a.seconds b.seconds).then (compare a.nanos b.nanos)

instance : Std.TransOrd Instant :=
  inferInstanceAs (Std.TransCmp (compareLex (compareOn Instant.seconds) (compareOn Instant.nanos)))

instance : Std.LawfulEqOrd Instant where
  eq_of_compare {a b} h := by
    have h' : (compare a.seconds b.seconds).then (compare a.nanos b.nanos) = .eq := h
    obtain ⟨h1, h2⟩ := Ordering.then_eq_eq.1 h'
    cases a
    cases b
    simp_all

/-- The instant one nanosecond later. -/
def next (t : Instant) : Instant :=
  if t.nanos + 1 < 1000000000 then ⟨t.seconds, t.nanos + 1⟩ else ⟨t.seconds + 1, 0⟩

end Instant

/-! ## The calendar -/

/-- The first year of the calendar. -/
def firstYear : Int := -262143

/-- The last year of the calendar. -/
def lastYear : Int := 262142

/-- Whether the year has a 29th of February. -/
def isLeapYear (y : Int) : Bool := y % 4 == 0 && (y % 100 != 0 || y % 400 == 0)

/-- The number of days of a month. -/
def daysInMonth (y : Int) (m : Nat) : Nat :=
  match m with
  | 2 => if isLeapYear y then 29 else 28
  | 4 | 6 | 9 | 11 => 30
  | _ => 31

/-- Whether the date is one of the calendar. -/
def Date.valid (d : Date) : Bool :=
  firstYear ≤ d.year && d.year ≤ lastYear && 1 ≤ d.month && d.month ≤ 12
    && 1 ≤ d.day && d.day ≤ daysInMonth d.year d.month

/-- The number of the day, where the first of January 1970 is day 0.  Years are counted from
March, so that the day that a leap year adds is its last. -/
def daysOfCivil (d : Date) : Int :=
  let y := if d.month ≤ 2 then d.year - 1 else d.year
  let era := y.fdiv 400
  let yearOfEra := y - era * 400
  let monthFromMarch : Int := if d.month ≤ 2 then d.month + 9 else d.month - 3
  let dayOfYear := (153 * monthFromMarch + 2) / 5 + d.day - 1
  let dayOfEra := yearOfEra * 365 + yearOfEra / 4 - yearOfEra / 100 + dayOfYear
  era * 146097 + dayOfEra - 719468

/-- The date of a day number. -/
def civilOfDays (n : Int) : Date :=
  let z := n + 719468
  let era := z.fdiv 146097
  let dayOfEra := z - era * 146097
  let yearOfEra := (dayOfEra - dayOfEra / 1460 + dayOfEra / 36524 - dayOfEra / 146096) / 365
  let dayOfYear := dayOfEra - (365 * yearOfEra + yearOfEra / 4 - yearOfEra / 100)
  let monthFromMarch := (5 * dayOfYear + 2) / 153
  let day := dayOfYear - (153 * monthFromMarch + 2) / 5 + 1
  let month := if monthFromMarch < 10 then monthFromMarch + 3 else monthFromMarch - 9
  ⟨yearOfEra + era * 400 + (if month ≤ 2 then 1 else 0), month.toNat, day.toNat⟩

/-- The second at which the calendar starts. -/
def firstSecond : Int := -8334601228800

/-- The last second of the calendar. -/
def lastSecond : Int := 8210266876799

example : firstSecond = daysOfCivil ⟨firstYear, 1, 1⟩ * 86400 := by decide

example : lastSecond = daysOfCivil ⟨lastYear + 1, 1, 1⟩ * 86400 - 1 := by decide

/-- The instant of a count of seconds, if the calendar covers it. -/
def Instant.ofSeconds? (n : Int) : Option Instant :=
  if firstSecond ≤ n ∧ n ≤ lastSecond then some ⟨n, 0⟩ else none

/-- The date on which the instant falls. -/
def Instant.date (t : Instant) : Date := civilOfDays (t.seconds.fdiv 86400)

/-- The second of the day. -/
def Instant.secondOfDay (t : Instant) : Nat := (t.seconds.fmod 86400).toNat

/-- The time of day as hours, minutes and seconds, with a leap second as the sixtieth. -/
def Instant.clock (t : Instant) : Nat × Nat × Nat :=
  let s := t.secondOfDay
  (s / 3600, s / 60 % 60, s % 60 + if 1000000000 ≤ t.nanos then 1 else 0)

example : civilOfDays 0 = ⟨1970, 1, 1⟩ ∧ civilOfDays (-1) = ⟨1969, 12, 31⟩ := by decide

example : civilOfDays (daysOfCivil ⟨2000, 2, 29⟩) = ⟨2000, 2, 29⟩
    ∧ civilOfDays (daysOfCivil ⟨-1, 3, 1⟩) = ⟨-1, 3, 1⟩ := by decide

end Roster
