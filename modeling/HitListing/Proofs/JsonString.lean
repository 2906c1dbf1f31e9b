import HitListing.Json.Reader
import HitListing.Json.Writer

/-!
# Strings in JSON

A string is read back from the way it is written (`readString_write`).  Each
character is written as one or two code units of sixteen bits (`codeUnits`);
reading goes over the same units, however they are escaped
(`readUnits_escapeChar`), and joins them again (`joinUnits_flatMap`).
-/

namespace HitListing.Json

/-! ## Hexadecimal digits -/

theorem hexValue?_digitChar {d : Nat} (hd : d < 16) : hexValue? d.digitChar = some d := by
  have h : ∀ e : Fin 16, hexValue? (e : Nat).digitChar = some (e : Nat) := by decide
  exact h ⟨d, hd⟩

theorem hexDigits_four {n : Nat} (hn : n < 0x10000) :
    Text.hexDigits 4 n =
      [(n / 4096).digitChar, (n / 256 % 16).digitChar, (n / 16 % 16).digitChar,
        (n % 16).digitChar] := by
  have hzero : '0' = (0 : Nat).digitChar := rfl
  rw [Text.hexDigits, Text.padLeft]
  by_cases h1 : n < 16
  · rw [Nat.toDigits_of_lt_base h1, show n / 4096 = 0 by omega, show n / 256 % 16 = 0 by omega,
      show n / 16 % 16 = 0 by omega, show n % 16 = n by omega]
    rfl
  rw [Nat.toDigits_of_base_le (by decide) (by omega)]
  by_cases h2 : n < 256
  · rw [Nat.toDigits_of_lt_base (by omega), show n / 4096 = 0 by omega,
      show n / 256 % 16 = 0 by omega, show n / 16 % 16 = n / 16 by omega]
    rfl
  rw [Nat.toDigits_of_base_le (by decide) (by omega), Nat.div_div_eq_div_mul]
  by_cases h3 : n < 4096
  · rw [Nat.toDigits_of_lt_base (by omega), show n / 4096 = 0 by omega,
      show n / 256 % 16 = n / (16 * 16) by omega]
    rfl
  · rw [Nat.toDigits_of_base_le (by decide) (by omega), Nat.div_div_eq_div_mul,
      Nat.toDigits_of_lt_base (by omega)]
    rfl

/-- The escape of a code unit reads as that unit. -/
theorem readUnits_unit (a b c d : Char) (rest : Text) :
    readUnits ('\\' :: 'u' :: a :: b :: c :: d :: rest) =
      match hexUnit? a b c d with
      | none => none
      | some n => (readUnits rest).map fun (units, behind) => (n :: units, behind) := rfl

theorem readUnits_unitEscape {n : Nat} (hn : n < 0x10000) (rest : Text) :
    readUnits (unitEscape n ++ rest) =
      (readUnits rest).map fun (units, behind) => (n :: units, behind) := by
  have hunit : hexUnit? (n / 4096).digitChar (n / 256 % 16).digitChar (n / 16 % 16).digitChar
      (n % 16).digitChar = some n := by
    rw [hexUnit?, hexValue?_digitChar (by omega), hexValue?_digitChar (by omega),
      hexValue?_digitChar (by omega), hexValue?_digitChar (by omega)]
    simp only [Option.bind_eq_bind, Option.bind_some, Option.pure_def]
    congr 1
    omega
  rw [unitEscape, hexDigits_four hn]
  simp only [List.cons_append, List.nil_append]
  rw [readUnits_unit, hunit]

/-! ## Characters -/

/-- The code units of a character. -/
def codeUnits (c : Char) : List Nat :=
  if c.toNat < 0x10000 then [c.toNat]
  else [0xd800 + (c.toNat - 0x10000) / 0x400, 0xdc00 + (c.toNat - 0x10000) % 0x400]

/-- A character that needs no escape reads as itself. -/
theorem readUnits_cons {c : Char} (hquote : c ≠ '"') (hslash : c ≠ '\\') (hspace : ' ' ≤ c)
    (rest : Text) :
    readUnits (c :: rest) =
      (readUnits rest).map fun (units, behind) => (c.toNat :: units, behind) := by
  have hlow : ¬c.toNat < 0x20 := by
    have h : (' ' : Char).toNat ≤ c.toNat := hspace
    exact Nat.not_lt.mpr h
  rw [readUnits.eq_def]
  split
  · rename_i h
    cases h
  · rename_i h
    injection h with h _
    exact absurd h hquote
  · rename_i h
    injection h with h _
    exact absurd h hslash
  · rename_i h
    injection h with h _
    exact absurd h hslash
  · rename_i h
    injection h with hc hrest
    subst hc hrest
    rw [if_neg (by simp [hlow, hslash])]

/-- However a character is written, it reads as its code units. -/
theorem readUnits_escapeChar (c : Char) (rest : Text) :
    readUnits (escapeChar c ++ rest) =
      (readUnits rest).map fun (units, behind) => (codeUnits c ++ units, behind) := by
  unfold escapeChar
  -- the seven characters with a letter of their own
  iterate 7
    split
    · rename_i h
      subst h
      rfl
  rename_i hquote hslash _ _ _ _ _
  split
  · rename_i hprint
    have hsmall : c.toNat < 0x10000 := by
      have h : c.toNat ≤ ('~' : Char).toNat := hprint.2
      exact Nat.lt_of_le_of_lt h (by decide)
    rw [codeUnits, if_pos hsmall]
    exact readUnits_cons hquote hslash hprint.1 rest
  split
  · rename_i hsmall
    rw [codeUnits, if_pos hsmall]
    exact readUnits_unitEscape hsmall rest
  · rename_i hlarge
    have hvalid : c.toNat < 0xd800 ∨ 0xdfff < c.toNat ∧ c.toNat < 0x110000 := c.valid
    rw [codeUnits, if_neg hlarge, List.append_assoc, readUnits_unitEscape (by omega),
      readUnits_unitEscape (by omega), Option.map_map]
    rfl

/-! ## Texts -/

/-- A text reads up to its closing quote as the code units of its characters. -/
theorem readUnits_flatMap (t rest : Text) :
    readUnits (t.flatMap escapeChar ++ '"' :: rest) = some (t.flatMap codeUnits, rest) := by
  induction t with
  | nil => rfl
  | cons c t ih =>
    rw [List.flatMap_cons, List.append_assoc, readUnits_escapeChar, ih]
    rfl

/-- A unit outside the range of surrogates stands for its character. -/
theorem joinUnits_cons {n : Nat} (hn : n < 0xd800 ∨ 0xdfff < n) (units : List Nat) :
    joinUnits (n :: units) = Char.ofNat n :: joinUnits units := by
  have hchar : unitChar n = Char.ofNat n := by
    rw [unitChar, if_neg (by omega)]
  cases units with
  | nil => rw [← hchar, joinUnits, joinUnits]
  | cons low units => rw [joinUnits, if_neg (by omega), hchar]

/-- A pair of surrogates stands for one character. -/
theorem joinUnits_pair {high low : Nat} (hhigh : high < 0x400) (hlow : low < 0x400)
    (units : List Nat) :
    joinUnits ((0xd800 + high) :: (0xdc00 + low) :: units) =
      Char.ofNat (0x10000 + 0x400 * high + low) :: joinUnits units := by
  rw [joinUnits, if_pos (by omega), Nat.add_sub_cancel_left, Nat.add_sub_cancel_left]

/-- The code units of a text join to the text. -/
theorem joinUnits_flatMap (t : Text) : joinUnits (t.flatMap codeUnits) = t := by
  induction t with
  | nil => rfl
  | cons c t ih =>
    have hvalid : c.toNat < 0xd800 ∨ 0xdfff < c.toNat ∧ c.toNat < 0x110000 := c.valid
    rw [List.flatMap_cons, codeUnits]
    split
    · rw [List.singleton_append, joinUnits_cons (by omega), ih, Char.ofNat_toNat]
    · have hcode : 0x10000 + 0x400 * ((c.toNat - 0x10000) / 0x400) +
          (c.toNat - 0x10000) % 0x400 = c.toNat := by omega
      rw [List.cons_append, List.singleton_append, joinUnits_pair (by omega) (by omega), ih, hcode,
        Char.ofNat_toNat]

/-- A string behind its opening quote reads as its text. -/
theorem readString_write (t rest : Text) :
    readString (t.flatMap escapeChar ++ '"' :: rest) = .ok (t, rest) := by
  rw [readString, readUnits_flatMap]
  simp only
  rw [joinUnits_flatMap]

end HitListing.Json
