import HitListing.Text

/-!
# Dates

Days of the Gregorian calendar, extended to all years from 1 on, and their
count from the first of them.  Counting is a sum over the years and months
before; the inverse looks up the year and then the month that the count falls
into.
-/

namespace HitListing.Calendar

/-- A day of the calendar. -/
structure Date where
  year : Nat
  month : Nat
  day : Nat
deriving DecidableEq, Repr

/-- The last year that dates may have. -/
def lastYear : Nat := 9999

/-- Whether a year has a leap day. -/
def isLeap (year : Nat) : Bool :=
  year % 4 = 0 && (year % 100 ≠ 0 || year % 400 = 0)

/-- The number of days of a month. -/
def daysIn (year month : Nat) : Nat :=
  if month = 2 then if isLeap year then 29 else 28
  else if month = 4 ∨ month = 6 ∨ month = 9 ∨ month = 11 then 30
  else 31

/-- The number of days before the first of January of a year. -/
def daysBeforeYear (year : Nat) : Nat :=
  let past := year - 1
  365 * past + past / 4 - past / 100 + past / 400

/-- The number of days of a year before the first of a month. -/
def daysBeforeMonth (year : Nat) : (month : Nat) → Nat
  | 0 => 0
  | 1 => 0
  | month + 2 => daysBeforeMonth year (month + 1) + daysIn year (month + 1)

namespace Date

/-- Whether the calendar has the day. -/
def IsValid (d : Date) : Prop :=
  1 ≤ d.year ∧ d.year ≤ lastYear ∧ 1 ≤ d.month ∧ d.month ≤ 12 ∧ 1 ≤ d.day ∧
    d.day ≤ daysIn d.year d.month

instance (d : Date) : Decidable d.IsValid := by
  unfold IsValid; infer_instance

/-- The number of days before a day. -/
def count (d : Date) : Nat :=
  daysBeforeYear d.year + daysBeforeMonth d.year d.month + (d.day - 1)

/-- The year of the day with the given number of days before it. -/
def yearOfCount (n : Nat) : Nat :=
  -- the estimate is the year or the one before it
  let guess := 400 * n / 146097 + 1
  if daysBeforeYear (guess + 1) ≤ n then guess + 1
  else if daysBeforeYear guess ≤ n then guess
  else guess - 1

/-- The day `n` days after the first of the given month, at most `more` months
later in the year. -/
def inMonth (year : Nat) : (more month n : Nat) → Date
  | 0, month, n => ⟨year, month, n + 1⟩
  | more + 1, month, n =>
    if n < daysIn year month then ⟨year, month, n + 1⟩
    else inMonth year more (month + 1) (n - daysIn year month)

/-- The day with the given number of days before it. -/
def ofCount (n : Nat) : Date :=
  let year := yearOfCount n
  inMonth year 11 1 (n - daysBeforeYear year)

/-- The weekday of a day, Monday being 0. -/
def weekday (d : Date) : Nat :=
  d.count % 7

end Date

/-! ## Weeks -/

/-- The number of days before the Monday of the first week of a year: the week
that holds its first Thursday. -/
def firstMonday (year : Nat) : Int :=
  let first := daysBeforeYear year
  let weekday := first % 7
  if 3 < weekday then (first : Int) - weekday + 7 else (first : Int) - weekday

/-- Whether a year has 53 weeks. -/
def hasLongWeeks (year : Nat) : Bool :=
  let weekday := daysBeforeYear year % 7
  weekday = 3 || (weekday = 2 && isLeap year)

/-- The day of a week, given by the year and the number of the week and the
number of the day, Monday being 1. -/
def ofWeek? (year week day : Nat) : Option Date :=
  if 1 ≤ year ∧ 1 ≤ week ∧ (week ≤ 52 ∨ (week = 53 ∧ hasLongWeeks year)) ∧ 1 ≤ day ∧ day ≤ 7 then
    let n : Int := firstMonday year + 7 * (week - 1 : Nat) + (day - 1 : Nat)
    if 0 ≤ n then some (Date.ofCount n.toNat) else none
  else none

end HitListing.Calendar
