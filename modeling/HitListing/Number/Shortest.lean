import HitListing.Text
import HitListing.Number.Binary64

/-!
# Shortest decimal

A double is written with the fewest digits that read back as the same double,
and among those with the digits nearest to its value.

The number of digits is found by trying 1, 2, .. up to 17 of them.  On the grid
of decimals with that many digits only the two neighbours of the value can be
the answer.
-/

namespace HitListing.Binary64

/-- Digits and a place for the point: the number `0.d₁d₂.. * 10 ^ point`. -/
structure Decimal where
  digits : Nat
  point : Int
deriving Repr, DecidableEq

/-- The power of ten just above a positive number: the exponent `p` with
`10 ^ (p - 1) ≤ q < 10 ^ p`. -/
def pointOf (q : Rat) : Int :=
  let whole := q.num.natAbs / q.den
  if 0 < whole then (Nat.toDigits 10 whole).length
  else
    let inverse := q.den / q.num.natAbs
    let guess : Int := 1 - (Nat.toDigits 10 inverse).length
    -- `guess` or `guess + 1`: decided by an exact comparison
    if q * ratPower 10 (-guess).toNat < 1 then guess else guess + 1

/-- The value of `count` digits with the point at `point`. -/
def gridValue (count : Nat) (point : Int) (digits : Nat) : Rat :=
  let e : Int := point - count
  let power : Rat := ratPower 10 e.natAbs
  if 0 ≤ e then digits * power else digits / power

/-- The nearest of the two neighbours of `q` among the decimals with `count`
digits that reads back as `q`, if one does. -/
def onGrid? (q : Rat) (point : Int) (count : Nat) : Option Nat :=
  let e : Int := count - point
  let power : Rat := ratPower 10 e.natAbs
  let scaled : Rat := if 0 ≤ e then q * power else q / power
  let low := scaled.num.natAbs / scaled.den
  let high := low + 1
  let readsBack (n : Nat) : Bool := round (gridValue count point n) == q
  match readsBack low, readsBack high with
  | true, false => some low
  | false, true => some high
  | false, false => none
  | true, true =>
    let below := scaled - low
    let above := high - scaled
    if below < above then some low
    else if above < below then some high
    else some (if low % 2 = 0 then low else high)

/-- The shortest decimal of a positive number, with at least `count` digits;
`more` further digits may be tried. -/
def shortestFrom (q : Rat) (point : Int) (count : Nat) : Nat → Decimal
  | 0 => ⟨(onGrid? q point count).getD 0, point⟩
  | more + 1 =>
    match onGrid? q point count with
    | some n =>
      -- the upper neighbour may be the next power of ten
      if n = Nat.pow 10 count then ⟨1, point + 1⟩ else ⟨n, point⟩
    | none => shortestFrom q point (count + 1) more

/-- The shortest decimal that reads back as a positive number. -/
def shortest (q : Rat) : Decimal :=
  shortestFrom q (pointOf q) 1 16

/-- A decimal in full, with the point among its digits: from `0.0001` up to
numbers below `10 ^ 16`. -/
def Decimal.positional (d : Decimal) : Text :=
  let ds := Text.ofNat d.digits
  if d.point ≤ 0 then
    ['0', '.'] ++ List.replicate (-d.point).toNat '0' ++ ds
  else
    let whole := d.point.toNat
    if ds.length ≤ whole then Text.padRight whole '0' ds ++ ['.', '0']
    else ds.take whole ++ '.' :: ds.drop whole

/-- A decimal with one digit before the point and a power of ten of at least
two digits. -/
def Decimal.scientific (d : Decimal) : Text :=
  let ds := Text.ofNat d.digits
  let e := d.point - 1
  let fraction : Text := if ds.length ≤ 1 then [] else '.' :: ds.drop 1
  ds.take 1 ++ fraction ++ 'e' :: (if e < 0 then '-' else '+') :: Text.digits 2 e.natAbs

/-- A decimal, in full unless it is very small or very large. -/
def Decimal.write (d : Decimal) : Text :=
  if -4 < d.point ∧ d.point ≤ 16 then d.positional else d.scientific

/-- A finite number in its shortest form. -/
def writeFinite (q : Rat) : Text :=
  if q = 0 then ['0', '.', '0']
  else if q < 0 then '-' :: (shortest (-q)).write
  else (shortest q).write

/-- A double in its shortest form. -/
def write : Binary64 → Text
  | .finite q => writeFinite q
  | .negativeZero => "-0.0"
  | .infinity false => "inf"
  | .infinity true => "-inf"
  | .nan => "nan"

end HitListing.Binary64
