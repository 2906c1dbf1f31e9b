import HitListing.Proofs.Escaping
import HitListing.Proofs.Utf8
import Mathlib.Tactic.IntervalCases

/-!
# Reading links

What has been encoded for a link is read back as it was.  A percent sign with two
digits behind it stands for a byte, every other character for its own bytes, and
the bytes are read as UTF-8.  In the value of a query a plus sign stands for a
space.

An encoded character gives its bytes back whatever follows it
(`decodeBytes_encodeChar_append`), and so an encoded value is read back as a whole
(`decodeValue_encodeValue`).
-/

namespace HitListing.Uri

/-! ## Decoding -/

/-- The bytes that an encoded text stands for. -/
def decodeBytes : Text → Bytes
  | [] => []
  | '%' :: a :: b :: rest =>
    if Markup.isHexDigit a && Markup.isHexDigit b then
      UInt8.ofNat (16 * Markup.hexDigitValue a + Markup.hexDigitValue b) :: decodeBytes rest
    else String.utf8EncodeChar '%' ++ decodeBytes (a :: b :: rest)
  | c :: rest => String.utf8EncodeChar c ++ decodeBytes rest

/-- The text of an encoded text. -/
def decode (t : Text) : Text :=
  Utf8.decodeLenient (decodeBytes t)

/-- A character of a value, with spaces for plus signs. -/
def spaceForPlus (c : Char) : Char :=
  if c = '+' then ' ' else c

/-- The text of an encoded value. -/
def decodeValue (value : Text) : Text :=
  decode (value.map spaceForPlus)

/-! ## One character -/

theorem hexDigitValue_hexDigit {n : Nat} (h : n < 16) :
    Markup.isHexDigit (hexDigit n) = true ∧ Markup.hexDigitValue (hexDigit n) = n := by
  interval_cases n <;> decide

theorem decodeBytes_cons {c : Char} (hc : c ≠ '%') (rest : Text) :
    decodeBytes (c :: rest) = String.utf8EncodeChar c ++ decodeBytes rest := by
  rw [decodeBytes.eq_def]
  split
  case h_1 heq => cases heq
  case h_2 heq =>
    injection heq with heq _
    exact absurd heq hc
  case h_3 heq =>
    injection heq with hc hrest
    rw [hc, hrest]

/-- An encoded byte is read back, whatever follows it. -/
theorem decodeBytes_percent_append (b : UInt8) (rest : Text) :
    decodeBytes (percent b ++ rest) = b :: decodeBytes rest := by
  have hbyte : b.toNat < 256 := b.toNat_lt
  obtain ⟨hhigh, hhighValue⟩ := hexDigitValue_hexDigit (n := b.toNat / 16) (by omega)
  obtain ⟨hlow, hlowValue⟩ := hexDigitValue_hexDigit (n := b.toNat % 16) (by omega)
  have hvalue : 16 * (b.toNat / 16) + b.toNat % 16 = b.toNat := Nat.div_add_mod b.toNat 16
  show decodeBytes ('%' :: hexDigit (b.toNat / 16) :: hexDigit (b.toNat % 16) :: rest) = _
  rw [decodeBytes, hhigh, hlow, hhighValue, hlowValue, hvalue, UInt8.ofNat_toNat]
  rfl

theorem decodeBytes_flatMap_percent_append (bytes : Bytes) (rest : Text) :
    decodeBytes (bytes.flatMap percent ++ rest) = bytes ++ decodeBytes rest := by
  induction bytes with
  | nil => rfl
  | cons b bytes ih =>
    rw [List.flatMap_cons, List.append_assoc, decodeBytes_percent_append, ih, List.cons_append]

/-- An encoded character gives its bytes, whatever follows it. -/
theorem decodeBytes_encodeChar_append (c : Char) (rest : Text) :
    decodeBytes (encodeChar c ++ rest) = String.utf8EncodeChar c ++ decodeBytes rest := by
  unfold encodeChar
  split
  case isTrue h =>
    have hc : c ≠ '%' := by
      rintro rfl
      exact absurd h (by decide)
    exact decodeBytes_cons hc rest
  case isFalse => exact decodeBytes_flatMap_percent_append _ rest

/-! ## Values -/

/-- An encoded character holds no plus sign. -/
theorem map_spaceForPlus_encodeChar (c : Char) :
    (encodeChar c).map spaceForPlus = encodeChar c := by
  have hsame : ∀ d ∈ encodeChar c, spaceForPlus d = d := by
    intro d hd
    refine if_neg ?_
    rintro rfl
    rcases isUnreserved_of_mem_encodeChar hd with hplus | hplus <;> revert hplus <;> decide
  rw [List.map_congr_left hsame, List.map_id']

/-- An encoded value is read back. -/
theorem decodeValue_encodeValue (value : Text) : decodeValue (encodeValue value) = value := by
  have hbytes : decodeBytes ((encodeValue value).map spaceForPlus) = Utf8.encode value := by
    induction value with
    | nil => rfl
    | cons c value ih =>
      have hcons : (encodeValue (c :: value)).map spaceForPlus =
          (if c = ' ' then [' '] else encodeChar c) ++ (encodeValue value).map spaceForPlus := by
        rw [encodeValue, List.flatMap_cons, List.map_append]
        split
        · rfl
        · rw [map_spaceForPlus_encodeChar]
          rfl
      rw [hcons, Utf8.encode, List.flatMap_cons]
      split
      case isTrue hc =>
        rw [hc, List.singleton_append, decodeBytes_cons (by decide), ih]
        rfl
      case isFalse =>
        rw [decodeBytes_encodeChar_append, ih]
        rfl
  rw [decodeValue, decode, hbytes, Utf8.decodeLenient_encode]

end HitListing.Uri
