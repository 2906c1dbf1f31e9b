import HitListing.Text.Blank
import HitListing.Text.Digit
import HitListing.Text

/-!
# Numerals

Reading a whole number from text that somebody typed: blanks around it, a sign
before it, digits of any script, and single underscores between digits.
-/

namespace HitListing

/-- The number of digits that a numeral may have. -/
def maxDigits : Nat := 4300

/-- The values of digits, of which single underscores may stand between two. -/
def digitValues? : Text → Option (List Nat)
  | [] => none
  | [c] => (decimalValue? c).map ([·])
  | c :: '_' :: rest => do
    let d ← decimalValue? c
    let more ← digitValues? rest
    return d :: more
  | c :: rest => do
    let d ← decimalValue? c
    let more ← digitValues? rest
    return d :: more

/-- The number that a list of decimal digits stands for. -/
def ofDigits (digits : List Nat) : Nat :=
  digits.foldl (fun n d => 10 * n + d) 0

/-- Read a number without a sign. -/
def readNat? (t : Text) : Option Nat := do
  let digits ← digitValues? t
  if digits.length ≤ maxDigits then some (ofDigits digits) else none

/-- Read a whole number. -/
def readInt? (t : Text) : Option Int :=
  match Text.trim isNumeralBlank t with
  | '-' :: rest => (readNat? rest).map fun n => -(n : Int)
  | '+' :: rest => (readNat? rest).map fun n => (n : Int)
  | rest => (readNat? rest).map fun n => (n : Int)

end HitListing
