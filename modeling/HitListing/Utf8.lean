import HitListing.Text

/-!
# UTF-8

Bytes are read as a list of segments.  A segment is a character, or a longest
stretch of bytes that begins a character and does not complete it, or the
beginning of a character at which the bytes end.  Reading strictly wants
characters only; reading leniently puts a replacement character in the place of
each other segment.
-/

namespace HitListing

/-- Stored bytes. -/
abbrev Bytes := List UInt8

namespace Utf8

/-- The bytes of a text. -/
def encode (t : Text) : Bytes :=
  t.flatMap String.utf8EncodeChar

/-! ## Segments -/

/-- What the front of a list of bytes holds. -/
inductive Head where
  /-- A character and the number of its bytes. -/
  | char (c : Char) (width : Nat)
  /-- Bytes that begin a character which the next byte does not continue. -/
  | broken (width : Nat)
  /-- All bytes together begin a character. -/
  | cut
deriving DecidableEq, Repr

/-- The bits that a lead byte adds to the code point, and the ranges of the
bytes that may follow it. -/
def lead (b : UInt8) : Option (Nat × List (UInt8 × UInt8)) :=
  let n := b.toNat
  if b < 0x80 then some (n, [])
  else if b < 0xc2 then none
  else if b < 0xe0 then some (n % 32, [(0x80, 0xbf)])
  else if b = 0xe0 then some (n % 16, [(0xa0, 0xbf), (0x80, 0xbf)])
  else if b = 0xed then some (n % 16, [(0x80, 0x9f), (0x80, 0xbf)])
  else if b < 0xf0 then some (n % 16, [(0x80, 0xbf), (0x80, 0xbf)])
  else if b = 0xf0 then some (n % 8, [(0x90, 0xbf), (0x80, 0xbf), (0x80, 0xbf)])
  else if b < 0xf4 then some (n % 8, [(0x80, 0xbf), (0x80, 0xbf), (0x80, 0xbf)])
  else if b = 0xf4 then some (n % 8, [(0x80, 0x8f), (0x80, 0xbf), (0x80, 0xbf)])
  else none

/-- Read the bytes that follow a lead byte; `code` and `width` say what has
been read. -/
def follow (code width : Nat) : List (UInt8 × UInt8) → Bytes → Head
  | [], _ => .char (Char.ofNat code) width
  | _ :: _, [] => .cut
  | (low, high) :: ranges, b :: rest =>
    if low ≤ b ∧ b ≤ high then follow (64 * code + b.toNat % 64) (width + 1) ranges rest
    else .broken width

/-- What begins with the byte `b`, before the bytes `rest`. -/
def headAt (b : UInt8) (rest : Bytes) : Head :=
  match lead b with
  | none => .broken 1
  | some (bits, ranges) => follow bits 1 ranges rest

/-- A segment of a list of bytes. -/
inductive Segment where
  | char (c : Char)
  | broken
  | cut
deriving DecidableEq, Repr

/-- The segments of a list of bytes after the first `pass` bytes. -/
def segmentsAfter : Nat → Bytes → List Segment
  | _, [] => []
  | pass + 1, _ :: rest => segmentsAfter pass rest
  | 0, b :: rest =>
    match headAt b rest with
    | .char c width => .char c :: segmentsAfter (width - 1) rest
    | .broken width => .broken :: segmentsAfter (width - 1) rest
    | .cut => [.cut]

/-- The segments of a list of bytes. -/
def segments (bytes : Bytes) : List Segment :=
  segmentsAfter 0 bytes

/-! ## Reading -/

/-- The character of a segment, if it is one. -/
def Segment.char? : Segment → Option Char
  | .char c => some c
  | _ => none

/-- The character that stands for a segment when reading leniently. -/
def Segment.shown (s : Segment) : Char :=
  s.char?.getD '\uFFFD'

/-- The text of bytes that are UTF-8 throughout. -/
def decode? (bytes : Bytes) : Option Text :=
  (segments bytes).mapM Segment.char?

/-- The text of any bytes. -/
def decodeLenient (bytes : Bytes) : Text :=
  (segments bytes).map Segment.shown

/-- Whether bytes end in the first two of the three bytes that a surrogate would
take. -/
def endsInSurrogate : Bytes → Bool
  | [] => false
  | [a, b] => a = 0xed && 0xa0 ≤ b && b ≤ 0xbf
  | _ :: rest => endsInSurrogate rest

/-- The segments without those at the end on which a reader waits for further
bytes: the beginning of a character, and that of a surrogate, although it cannot
be completed. -/
def settled (bytes : Bytes) : List Segment :=
  if endsInSurrogate bytes then (segments bytes).dropLast.dropLast
  else (segments bytes).filter (· ≠ .cut)

end Utf8

end HitListing
