import HitListing.Calendar.Moment
import HitListing.Calendar.Pattern
import HitListing.Number.Binary64

/-!
# Index dates

The index stores a date as a string of digits, `yyyyMMddHHmmssSSS`, of which
any number of fields may be missing at the end; it then stands for the first
instant of the period it names.  Dates are in universal time.
-/

namespace HitListing.Calendar

/-! ## Writing -/

/-- A moment as an index date, cut to milliseconds.  The year is not
padded. -/
def formatIndexDate (m : Moment) : Except Fault Text := do
  let u ← m.toUniversal
  return Text.ofNat u.date.year ++ Text.digits 2 u.date.month ++ Text.digits 2 u.date.day ++
    Text.digits 2 u.hour ++ Text.digits 2 u.minute ++ Text.digits 2 u.second ++
    Text.digits 3 (u.microsecond / 1000)

/-! ## Reading -/

/-- A year: four digits. -/
def yearField : Field :=
  [[.decimal, .decimal, .decimal, .decimal]]

/-- A month, its zero in front may be missing. -/
def monthField : Field :=
  [[.between '1' '1', .between '0' '2'], [.between '0' '0', .between '1' '9'],
    [.between '1' '9']]

/-- A day of a month. -/
def dayField : Field :=
  [[.between '3' '3', .between '0' '1'], [.between '1' '2', .decimal],
    [.between '0' '0', .between '1' '9'], [.between '1' '9']]

/-- An hour of a day. -/
def hourField : Field :=
  [[.between '2' '2', .between '0' '3'], [.between '0' '1', .decimal], [.decimal]]

/-- A minute of an hour. -/
def minuteField : Field :=
  [[.between '0' '5', .decimal], [.decimal]]

/-- A second of a minute; two leap seconds have a form as well. -/
def secondField : Field :=
  [[.between '6' '6', .between '0' '1'], [.between '0' '5', .decimal], [.decimal]]

/-- The pattern of a date and time to the second. -/
def secondPattern : Pattern :=
  [yearField, monthField, dayField, hourField, minuteField, secondField]

/-- The patterns of the resolutions of index dates, by the number of their
digits. -/
def indexPatterns : List (Nat × Pattern) :=
  [(4, [yearField]), (6, [yearField, monthField]), (8, [yearField, monthField, dayField]),
    (10, [yearField, monthField, dayField, hourField]),
    (12, [yearField, monthField, dayField, hourField, minuteField]), (14, secondPattern)]

/-- The moment whose year, month, day, hour, minute and second are given, each
missing one being the first of its range. -/
def ofNumbers (numbers : List Nat) : Moment :=
  ⟨⟨numbers.getD 0 1, numbers.getD 1 1, numbers.getD 2 1⟩, numbers.getD 3 0, numbers.getD 4 0,
    numbers.getD 5 0, 0, some 0⟩

/-- The moment that a text names in a pattern. -/
def readPattern (pattern : Pattern) (t : Text) : Except Fault Moment :=
  match pattern.read t with
  | some (numbers, []) => (ofNumbers numbers).check
  | _ => .error .badValue

/-- A numeral of decimal digits of any script. -/
def digitField? (t : Text) : Option Nat :=
  (t.mapM decimalValue?).map ofDigits

/-- The moment that an index date stands for. -/
def parseIndexDate (t : Text) : Except Fault Moment :=
  if t.isEmpty || !t.all isDigit then .error (.badDate t)
  else if t.length = 17 then do
    let m ← readPattern secondPattern (t.take 14)
    match digitField? (t.drop 14) with
    | some milli => Moment.check { m with microsecond := 1000 * milli }
    | none => .error .badValue
  else
    match indexPatterns.lookup t.length with
    | some pattern => readPattern pattern t
    | none => .error (.badDate t)

/-! ## Modification times -/

/-- The microseconds between the beginning of the calendar and the beginning
of 1970. -/
def epoch : Nat :=
  daysBeforeYear 1970 * dayLength

/-- A rational rounded to a whole number, a half to the even one. -/
def roundEven (q : Rat) : Int :=
  let size : Int := Binary64.roundQuotient q.num.natAbs q.den
  if q < 0 then -size else size

/-- The microseconds since 1970 of a modification time in nanoseconds.  The
time passes through a double that counts seconds. -/
def modifiedMicroseconds (ns : Int) : Int :=
  let whole := ns.fdiv 1000000000
  let part := ns.fmod 1000000000
  let nano := Binary64.round (mkRat 1 1000000000)
  let seconds := Binary64.round (Binary64.round whole + Binary64.round (nano * part))
  let intPart : Int := if seconds < 0 then -((-seconds).floor) else seconds.floor
  let fraction := seconds - intPart
  intPart * 1000000 + roundEven (Binary64.round (fraction * 1000000))

/-- The index date of a file with the given modification time in nanoseconds
since 1970. -/
def modifiedIndexDate (ns : Int) : Except Fault Text :=
  match Moment.ofInstant? (epoch + modifiedMicroseconds ns) with
  | some m => formatIndexDate m
  | none => .error .badValue

end HitListing.Calendar
