import HitListing.Utf8

/-!
# Percent encoding

A text in a link is written byte by byte: letters, digits and a few marks stay
as they are, and every other byte becomes a percent sign and two digits.
-/

namespace HitListing.Uri

/-- Whether a character stands for itself in any part of a link. -/
def isUnreserved (c : Char) : Bool :=
  c.isAlphanum || c = '_' || c = '.' || c = '-' || c = '~'

/-- A hexadecimal digit with a capital letter. -/
def hexDigit (n : Nat) : Char :=
  if n < 10 then Char.ofNat ('0'.toNat + n) else Char.ofNat ('A'.toNat + (n - 10))

/-- A byte as a percent sign and two digits. -/
def percent (b : UInt8) : Text :=
  ['%', hexDigit (b.toNat / 16), hexDigit (b.toNat % 16)]

/-- The encoding of one character. -/
def encodeChar (c : Char) : Text :=
  if isUnreserved c then [c] else (String.utf8EncodeChar c).flatMap percent

/-- A path in a link.  Its slashes stay. -/
def encodePath (path : Text) : Text :=
  path.flatMap fun c => if c = '/' then [c] else encodeChar c

/-- A value in the query of a link.  Its spaces become plus signs. -/
def encodeValue (value : Text) : Text :=
  value.flatMap fun c => if c = ' ' then ['+'] else encodeChar c

end HitListing.Uri
