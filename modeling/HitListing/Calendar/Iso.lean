import HitListing.Calendar.Moment
import HitListing.Utf8

/-!
# Reading moments

A moment in one of the written forms of the international standard: a calendar
date or a week date, with hyphens or without; then, behind any one character, a
time of day, with colons or without; then how far the clock is ahead.

The text is read as bytes, each shown as the character with its code.  Beyond
its end stand NULs, so that looking ahead needs no care.

Reading is lenient in places: digits of a fraction beyond the sixth are passed
over, and between the time and a clock offset one stray character may stand.
-/

namespace HitListing.Calendar.Iso

/-- The bytes of a text as characters. -/
def octets (t : Text) : Text :=
  (Utf8.encode t).map fun b => Char.ofNat b.toNat

/-- The character at a place; NUL beyond the end. -/
def charAt (s : Text) (i : Nat) : Char :=
  s.getD i '\x00'

/-- The number written in `count` ASCII digits at a place. -/
def number? (s : Text) (i : Nat) : (count : Nat) → Option Nat
  | 0 => some 0
  | count + 1 => do
    let n ← number? s i count
    let c := charAt s (i + count)
    if c.isDigit then some (10 * n + (c.toNat - '0'.toNat)) else none

/-! ## The date -/

/-- The place behind the digits that stand at a place. -/
def digitsEnd (s : Text) (i : Nat) : Nat :=
  i + ((s.drop i).takeWhile Char.isDigit).length

/-- Where the date ends.  The forms of a date differ in length, and the fifth
and sixth character tell most of them apart; a hyphen behind a week may begin a
weekday or a time. -/
def dateEnd (s : Text) : Nat :=
  if s.length = 7 then 7
  else if charAt s 4 = '-' then
    if charAt s 5 = 'W' then
      if charAt s 8 = '-' then if (charAt s 10).isDigit then 8 else 10
      else 8
    else 10
  else if charAt s 4 = 'W' then
    let last := digitsEnd s 7
    if last < 9 then last else if last % 2 = 0 then 7 else 8
  else 8

/-- The date that ends at a place. -/
def date? (s : Text) (last : Nat) : Option Date := do
  let year ← number? s 0 4
  let hyphens := charAt s 4 = '-'
  let i := if hyphens then 5 else 4
  if charAt s i = 'W' then
    let week ← number? s (i + 1) 2
    let i := i + 3
    if i < last then
      if hyphens && charAt s i ≠ '-' then none
      else
        let day ← number? s (if hyphens then i + 1 else i) 1
        ofWeek? year week day
    else ofWeek? year week 1
  else
    let month ← number? s i 2
    let i := i + 2
    if hyphens && charAt s i ≠ '-' then none
    else
      let i := if hyphens then i + 1 else i
      let day ← number? s i 2
      if i + 2 = last then some ⟨year, month, day⟩ else none

/-! ## The time -/

/-- A reading of a clock: hours, minutes, seconds and microseconds, and whether
nothing stands behind it. -/
structure Clock where
  fields : List Nat
  microsecond : Nat
  atEnd : Bool
deriving DecidableEq, Repr

/-- The clock whose first fields are given and whose fraction begins at a
place. -/
def withFraction? (s : Text) (i stop : Nat) (fields : List Nat) : Option Clock := do
  let count := min (stop - i) 6
  let n ← number? s i count
  return ⟨fields, n * Nat.pow 10 (6 - count), charAt s (digitsEnd s (i + count)) = '\x00'⟩

/-- The clock from a place on up to `stop`, with at most `left` more fields.
`colons` says whether colons part the fields. -/
def fields? (s : Text) (stop : Nat) (colons : Bool) (fields : List Nat) :
    (left i : Nat) → Option Clock
  | 0, i => withFraction? s i stop fields
  | left + 1, i => do
    let n ← number? s i 2
    let fields := fields ++ [n]
    let c := charAt s (i + 2)
    let colons := if fields.length = 1 then c = ':' else colons
    if stop ≤ i + 3 then some ⟨fields, 0, c = '\x00'⟩
    else if colons && c = ':' then fields? s stop colons fields left (i + 3)
    else if c = '.' || c = ',' then withFraction? s (i + 3) stop fields
    else if colons then none
    else fields? s stop colons fields left (i + 2)

/-- The clock between two places. -/
def clock? (s : Text) (i stop : Nat) : Option Clock :=
  fields? s stop false [] 3 i

/-- The microseconds that the fields of a clock stand for. -/
def Clock.total (c : Clock) : Int :=
  ((c.fields.getD 0 0 * 60 + c.fields.getD 1 0) * 60 + c.fields.getD 2 0 : Nat) * 1000000 +
    c.microsecond

/-- Where the time ends: at a sign or a `Z`, or at the end of the text. -/
def zoneStart (s : Text) (i : Nat) : Nat :=
  i + ((s.drop i).takeWhile fun c => c ≠ '+' && c ≠ '-' && c ≠ 'Z').length

/-- How far a clock is ahead, read from the sign on.  Less than a second counts
as nothing. -/
def offset? (s : Text) (i : Nat) : Option Int :=
  if charAt s i = 'Z' then if charAt s (i + 1) = '\x00' then some 0 else none
  else do
    let clock ← clock? s (i + 1) s.length
    if !clock.atEnd then none
    else
      let n := if clock.total < 1000000 then 0 else clock.total
      some (if charAt s i = '-' then -n else n)

/-- The moment with the given date and the time from a place on. -/
def withTime? (s : Text) (date : Date) (i : Nat) : Option Moment := do
  let zone := zoneStart s i
  let clock ← clock? s i zone
  let moment (offset : Option Int) : Moment :=
    ⟨date, clock.fields.getD 0 0, clock.fields.getD 1 0, clock.fields.getD 2 0, clock.microsecond,
      offset⟩
  if zone < s.length then
    let offset ← offset? s zone
    return moment (some offset)
  else if clock.atEnd then some (moment none)
  else none

/-- The number of bytes of the character that begins with a byte. -/
def leadWidth (c : Char) : Nat :=
  if c.toNat < 0x80 then 1
  else if c.toNat / 16 = 0xe then 3
  else if c.toNat / 16 = 0xf then 4
  else 2

/-- The fields of a written moment. -/
def fieldsOf? (t : Text) : Option Moment := do
  let s := octets t
  if t.length < 7 then none
  else
    let last := dateEnd s
    let date ← date? s last
    if last < s.length then withTime? s date (last + leadWidth (charAt s last))
    else some ⟨date, 0, 0, 0, 0, none⟩

/-- The moment that a text names. -/
def read (t : Text) : Except Fault Moment :=
  match fieldsOf? t with
  | some m => m.check
  | none => .error .badValue

/-- The moment that a text names, in universal time unless it says
otherwise. -/
def readUniversal (t : Text) : Except Fault Moment :=
  (read t).map fun m => { m with offset := some (m.offset.getD 0) }

end HitListing.Calendar.Iso
