/-!
# Text

A text is a list of characters, so that what holds of it is shown by recursion
on the list.  Literals are written as strings and become texts where a text is
expected.

Beside the type the module holds the few operations that no part of the
library owns: decimal and padded numerals, trimming, the order of texts by
code point, and sorted lists without repetition.
-/

namespace HitListing

/-- A text, one character after the other.

The characters are the Unicode scalar values.  Half of a surrogate pair, which JSON
can name by itself, is none of them and is read as U+FFFD.  So texts with such a half
are not modelled: where one is kept it could not be told from others, and where it is
encoded, as the name of a project is in a link, encoding it would fail. -/
abbrev Text := List Char

/-- A string literal stands for the text of its characters. -/
instance : Coe String Text := ⟨String.toList⟩

namespace Text

/-! ## Numerals -/

/-- The decimal digits of a number, without leading zeros. -/
def ofNat (n : Nat) : Text :=
  Nat.toDigits 10 n

/-- The decimal digits of an integer after its sign, if it is negative. -/
def ofInt : Int → Text
  | .ofNat n => ofNat n
  | .negSucc n => '-' :: ofNat (n + 1)

/-- Fill a text up to a width with a character in front of it. -/
def padLeft (width : Nat) (fill : Char) (t : Text) : Text :=
  List.replicate (width - t.length) fill ++ t

/-- Fill a text up to a width with a character behind it. -/
def padRight (width : Nat) (fill : Char) (t : Text) : Text :=
  t ++ List.replicate (width - t.length) fill

/-- A number in at least `width` digits. -/
def digits (width n : Nat) : Text :=
  padLeft width '0' (ofNat n)

/-- A number in at least `width` small hexadecimal digits. -/
def hexDigits (width n : Nat) : Text :=
  padLeft width '0' (Nat.toDigits 16 n)

/-! ## Trimming and cutting -/

/-- Drop the characters at the end that satisfy the test. -/
def dropEndWhile (p : Char → Bool) (t : Text) : Text :=
  (t.reverse.dropWhile p).reverse

/-- Drop the characters at both ends that satisfy the test. -/
def trim (p : Char → Bool) (t : Text) : Text :=
  dropEndWhile p (t.dropWhile p)

/-- The part before the first occurrence of a character and the part behind it. -/
def cutAt? (c : Char) : Text → Option (Text × Text)
  | [] => none
  | d :: r => if d = c then some ([], r) else (cutAt? c r).map fun (a, b) => (d :: a, b)

/-- The part before the last occurrence of a character and the part behind it. -/
def cutAtLast? (c : Char) : Text → Option (Text × Text)
  | [] => none
  | d :: r =>
    match cutAtLast? c r with
    | some (a, b) => some (d :: a, b)
    | none => if d = c then some ([], r) else none

/-- The pieces between the occurrences of a character; one more than there
are occurrences. -/
def splitAtChar (c : Char) : Text → List Text
  | [] => [[]]
  | d :: r =>
    match splitAtChar c r with
    | [] => [[d]]
    | piece :: rest => if d = c then [] :: piece :: rest else (d :: piece) :: rest

/-- Pieces joined by a separator. -/
def join (separator : Text) (pieces : List Text) : Text :=
  separator.intercalate pieces

/-! ## Order -/

/-- Texts in the order of their code points, a prefix before what extends it. -/
def le : Text → Text → Bool
  | [], _ => true
  | _ :: _, [] => false
  | a :: r, b :: s => a < b || (a == b && le r s)

/-- A sorted list of texts without repetitions. -/
def sortedSet (texts : List Text) : List Text :=
  (texts.mergeSort le).eraseReps

end Text

end HitListing
