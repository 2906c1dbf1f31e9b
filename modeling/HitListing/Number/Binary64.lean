/-!
# Double precision

A double-precision number as the exact rational that it stands for.  Every
operation computes in the rationals and rounds once at the end, to the nearest
number with 53 binary digits, a tie going to the even one.

There are three groups: the values, rounding, and the two operations the
library needs, subtraction and comparison.
-/

namespace HitListing

/-- A double-precision number.  A finite value is exact; zero with a minus
sign is a value of its own. -/
inductive Binary64 where
  | finite (value : Rat)
  | negativeZero
  | infinity (negative : Bool)
  | nan
deriving DecidableEq, Repr

namespace Binary64

/-! ## Rounding -/

/-- A quotient rounded to the nearest whole number, a half to the even one. -/
def roundQuotient (num den : Nat) : Nat :=
  let low := num / den
  let excess := 2 * (num % den)
  if excess < den then low
  else if den < excess then low + 1
  else if low % 2 = 0 then low else low + 1

/-- A power of a number as a rational. -/
def ratPower (base exponent : Nat) : Rat :=
  (Nat.pow base exponent : Nat)

/-- A power of two with any exponent. -/
def powerOfTwo (e : Int) : Rat :=
  if 0 ≤ e then ratPower 2 e.toNat else 1 / ratPower 2 (-e).toNat

/-- The exponent of the last binary digit that a positive number keeps: the
53rd digit counted from its first one, but none below the smallest number. -/
def lastExponent (q : Rat) : Int :=
  let guess : Int := (q.num.natAbs.log2 : Int) - q.den.log2
  let first := if q < powerOfTwo guess then guess - 1 else guess
  max (first - 52) (-1074)

/-- A number that is not negative, rounded to 53 binary digits. -/
def roundNonneg (q : Rat) : Rat :=
  if q = 0 then 0
  else
    let unit := powerOfTwo (lastExponent q)
    let scaled := q / unit
    (roundQuotient scaled.num.natAbs scaled.den : Rat) * unit

/-- A rational rounded to 53 binary digits, without a bound on its size. -/
def round (q : Rat) : Rat :=
  if q < 0 then -roundNonneg (-q) else roundNonneg q

/-- The double nearest to a rational.  What is too large becomes infinite, and
a negative number too small to hold becomes negative zero. -/
def ofRat (q : Rat) : Binary64 :=
  let r := round q
  if powerOfTwo 1024 ≤ r then .infinity false
  else if r ≤ -powerOfTwo 1024 then .infinity true
  else if r = 0 ∧ q < 0 then .negativeZero
  else .finite r

/-- The double nearest to `digits * 10 ^ exponent`, negated if `negative`.
Exponents far outside the range of doubles are settled by size alone. -/
def ofDecimal (negative : Bool) (digits : Nat) (exponent : Int) : Binary64 :=
  let zero : Binary64 := if negative then .negativeZero else .finite 0
  if digits = 0 then zero
  else
    let magnitude : Int := (Nat.toDigits 10 digits).length + exponent
    if magnitude > 310 then .infinity negative
    else if magnitude < -330 then zero
    else
      let power : Rat := ratPower 10 exponent.natAbs
      let size : Rat := if 0 ≤ exponent then digits * power else digits / power
      ofRat (if negative then -size else size)

/-- The double nearest to an integer, or nothing if it is out of range. -/
def ofInt? (n : Int) : Option Binary64 :=
  match ofRat n with
  | .infinity _ => none
  | x => some x

/-! ## Operations -/

/-- The rational that a finite double stands for. -/
def value? : Binary64 → Option Rat
  | .finite q => some q
  | .negativeZero => some 0
  | .infinity _ => none
  | .nan => none

/-- The difference of two doubles. -/
def sub : Binary64 → Binary64 → Binary64
  | .nan, _ => .nan
  | _, .nan => .nan
  | .infinity a, .infinity b => if a = b then .nan else .infinity a
  | .infinity a, _ => .infinity a
  | _, .infinity b => .infinity !b
  | .negativeZero, .finite 0 => .negativeZero
  | x, y => ofRat (x.value?.getD 0 - y.value?.getD 0)

end Binary64

end HitListing
