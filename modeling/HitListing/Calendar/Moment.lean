import HitListing.Calendar.Date
import HitListing.Fault

/-!
# Moments

A moment is a day and a time of day as a clock shows them, together with how
far that clock is ahead of universal time, if that is known.  Two moments whose
clocks are known compare as instants.

The module also holds the two ways in which a moment is shown to readers: in
full, and short.
-/

namespace HitListing.Calendar

/-- The microseconds of a day. -/
def dayLength : Nat := 86400000000

/-- A day and a time of day. -/
structure Moment where
  date : Date
  hour : Nat
  minute : Nat
  second : Nat
  microsecond : Nat
  /-- How many microseconds the clock is ahead of universal time. -/
  offset : Option Int
deriving DecidableEq, Repr

namespace Moment

/-- Whether the fields name a time that exists. -/
def IsValid (m : Moment) : Prop :=
  m.date.IsValid ∧ m.hour < 24 ∧ m.minute < 60 ∧ m.second < 60 ∧ m.microsecond < 1000000 ∧
    ∀ d ∈ m.offset, -(dayLength : Int) < d ∧ d < dayLength

instance (m : Moment) : Decidable m.IsValid := by
  unfold IsValid; infer_instance

/-- The moment itself if it exists. -/
def check (m : Moment) : Except Fault Moment :=
  if m.IsValid then .ok m else .error .badValue

/-! ## Instants -/

/-- The microseconds since midnight. -/
def sinceMidnight (m : Moment) : Nat :=
  ((m.hour * 60 + m.minute) * 60 + m.second) * 1000000 + m.microsecond

/-- The microseconds since the beginning of the calendar, by the moment's own
clock. -/
def clockTime (m : Moment) : Nat :=
  m.date.count * dayLength + m.sinceMidnight

/-- The microseconds since the beginning of the calendar in universal time.  A
clock of unknown offset is taken to show it. -/
def instant (m : Moment) : Int :=
  m.clockTime - m.offset.getD 0

/-- The moment in universal time at an instant, if the calendar holds it. -/
def ofInstant? (t : Int) : Option Moment :=
  if 0 ≤ t ∧ t < (daysBeforeYear (lastYear + 1) * dayLength : Nat) then
    let n := t.toNat
    let rest := n % dayLength
    let seconds := rest / 1000000
    some {
      date := .ofCount (n / dayLength)
      hour := seconds / 3600
      minute := seconds / 60 % 60
      second := seconds % 60
      microsecond := rest % 1000000
      offset := some 0 }
  else none

/-- The same instant in universal time. -/
def toUniversal (m : Moment) : Except Fault Moment :=
  match ofInstant? m.instant with
  | some u => .ok u
  | none => .error .outOfRange

/-- Whether one moment is not after another.  A moment of known and one of
unknown offset do not compare. -/
def le (a b : Moment) : Except Fault Bool :=
  if a.offset.isSome = b.offset.isSome then .ok (a.instant ≤ b.instant) else .error .wrongKind

/-! ## Showing moments -/

/-- A number of microseconds of at most six digits as a fraction, unless it is
zero. -/
def fraction (microseconds : Nat) : Text :=
  if microseconds = 0 then [] else '.' :: Text.digits 6 microseconds

/-- How far a clock is ahead: sign, hours and minutes, and seconds if there are
any. -/
def showOffset (offset : Int) : Text :=
  let n := offset.natAbs
  let seconds := n / 1000000
  let tail : Text :=
    if n % 60000000 = 0 then []
    else ':' :: Text.digits 2 (seconds % 60) ++ fraction (n % 1000000)
  (if offset < 0 then '-' else '+') :: Text.digits 2 (seconds / 3600) ++
    ':' :: Text.digits 2 (seconds / 60 % 60) ++ tail

/-- A moment in full. -/
def iso (m : Moment) : Text :=
  Text.digits 4 m.date.year ++ '-' :: Text.digits 2 m.date.month ++ '-' ::
    Text.digits 2 m.date.day ++ 'T' :: Text.digits 2 m.hour ++ ':' :: Text.digits 2 m.minute ++
    ':' :: Text.digits 2 m.second ++ fraction m.microsecond ++ (m.offset.map showOffset).getD []

/-- A moment in short: month, day and year of the century, and the hour on a
dial of twelve hours. -/
def short (m : Moment) : Text :=
  let hour := if m.hour % 12 = 0 then 12 else m.hour % 12
  Text.ofNat m.date.month ++ '/' :: Text.ofNat m.date.day ++ '/' ::
    Text.digits 2 (m.date.year % 100) ++ ' ' :: Text.ofNat hour ++ ':' :: Text.digits 2 m.minute ++
    ' ' :: (if m.hour < 12 then 'A' else 'P') :: ['M']

end Moment

end HitListing.Calendar
