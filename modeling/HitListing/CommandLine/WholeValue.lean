import HitListing.Number.Numeral

/-!
# Whole numbers as values

Reading a whole number that is the value of a switch.  It has the digits from 0 to 9
only, and between them single underscores.  Blanks may stand around it, zeros or a
plus sign before it, and a point with zeros behind it; but no zeros stand between a
minus sign and another digit.
-/

namespace HitListing.CommandLine

/-- A number without the zeros before it, and without the underscores among these;
`last` is the character before it, which was left out.  One character stays. -/
def dropZeros? (last : Char) : Text → Option Text
  | [] => some [last]
  | c :: rest =>
    if c = '0' || c = '_' then dropZeros? c rest
    else if c = '.' then some (last :: c :: rest)
    else if c.isDigit then some (c :: rest)
    else none

/-- A number that begins with a digit or a minus sign, without the zeros before
it. -/
def dropLeadingZeros? : Text → Option Text
  | '0' :: rest => dropZeros? '0' rest
  | c :: rest => if c.isDigit || c = '-' then some (c :: rest) else none
  | [] => none

/-- A number without a point that only zeros follow. -/
def dropZeroFraction (t : Text) : Text :=
  match Text.cutAt? '.' t with
  | some (whole, fraction) => if fraction.all (· = '0') then whole else t
  | none => t

/-- Whether an underscore stands next to another one. -/
def hasDoubleUnderscore : Text → Bool
  | '_' :: '_' :: _ => true
  | _ :: rest => hasDoubleUnderscore rest
  | [] => false

/-- A number without its underscores, if they stand alone and not at an end. -/
def dropUnderscores (t : Text) : Text :=
  if t.head? = some '_' || t.getLast? = some '_' || hasDoubleUnderscore t then t
  else t.filter (· ≠ '_')

/-- The number of digits without a zero before them. -/
def digits? (t : Text) : Option Nat :=
  if t.isEmpty || !t.all Char.isDigit || (t.head? = some '0' && 1 < t.length) then none
  else readNat? t

/-- A whole number of the digits alone, after its sign if it is negative. -/
def plainWhole? (t : Text) : Option Int :=
  if maxDigits < t.length then none
  else
    match t with
    | '-' :: rest => (digits? rest).map fun n => -(n : Int)
    | rest => (digits? rest).map fun n => (n : Int)

/-- The whole number that is the value of a switch. -/
def wholeValue? (t : Text) : Option Int := do
  let t := Text.trim isNumeralBlank t
  let unsigned ← match t with
    | '+' :: '-' :: _ => none
    | '+' :: rest => some rest
    | rest => some rest
  let t ← dropLeadingZeros? unsigned
  plainWhole? (dropUnderscores (dropZeroFraction t))

end HitListing.CommandLine
