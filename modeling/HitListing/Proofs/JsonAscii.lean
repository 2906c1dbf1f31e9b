import HitListing.Proofs.JsonText

/-!
# JSON is ASCII

Whatever characters a string holds, it is written in ASCII
(`isAscii_writeString`), and so is every value without doubles
(`isAscii_write`).  Its bytes are then the codes of its characters.
-/

namespace HitListing

/-- Whether a text holds ASCII characters only. -/
def Text.IsAscii (t : Text) : Prop :=
  ∀ c ∈ t, c.toNat < 0x80

-- by the characters of the text, since all characters can be enumerated as well
instance (t : Text) : Decidable t.IsAscii :=
  List.decidableBAll (fun c : Char => c.toNat < 0x80) t

namespace Text

theorem isAscii_nil : IsAscii [] :=
  List.forall_mem_nil _

theorem isAscii_append {s t : Text} : IsAscii (s ++ t) ↔ IsAscii s ∧ IsAscii t :=
  List.forall_mem_append

theorem isAscii_cons {c : Char} {t : Text} : IsAscii (c :: t) ↔ c.toNat < 0x80 ∧ IsAscii t :=
  List.forall_mem_cons

theorem isAscii_of_isDigit {t : Text} (h : ∀ c ∈ t, c.isDigit = true) : IsAscii t := by
  intro c hc
  have hrange : 48 ≤ c.toNat ∧ c.toNat ≤ 57 := by
    simpa [Char.isDigit, UInt32.le_iff_toNat_le] using h c hc
  omega

theorem isAscii_ofNat (n : Nat) : IsAscii (ofNat n) :=
  isAscii_of_isDigit fun _ => isDigit_of_mem_ofNat

theorem isAscii_digits (width n : Nat) : IsAscii (digits width n) :=
  isAscii_of_isDigit fun _ => isDigit_of_mem_digits

theorem isAscii_ofInt (n : Int) : IsAscii (ofInt n) := by
  cases n with
  | ofNat n => exact isAscii_ofNat n
  | negSucc n => exact isAscii_cons.mpr ⟨by decide, isAscii_ofNat (n + 1)⟩

end Text

/-- The bytes of an ASCII text are below 128. -/
theorem Utf8.lt_of_mem_encode {t : Text} (h : t.IsAscii) {b : UInt8} (hb : b ∈ encode t) :
    b < 0x80 := by
  obtain ⟨c, hc, hb⟩ := List.mem_flatMap.mp hb
  have hcode : c.val.toNat ≤ 0x7f := Nat.le_of_lt_succ (h c hc)
  rw [String.utf8EncodeChar, if_pos hcode, List.mem_singleton] at hb
  rw [hb, UInt8.lt_iff_toNat_lt, UInt8.toNat_ofNat']
  show c.val.toNat % 256 < 128
  omega

namespace Json

/-! ## Strings -/

theorem isAscii_unitEscape {n : Nat} (hn : n < 0x10000) : (unitEscape n).IsAscii := by
  have hdigit (d : Nat) (hd : d < 16) : d.digitChar.toNat < 0x80 := by
    have h : ∀ e : Fin 16, (e : Nat).digitChar.toNat < 0x80 := by decide
    exact h ⟨d, hd⟩
  rw [unitEscape, hexDigits_four hn]
  simp only [Text.isAscii_cons]
  exact ⟨by decide, by decide, hdigit _ (by omega), hdigit _ (by omega), hdigit _ (by omega),
    hdigit _ (by omega), Text.isAscii_nil⟩

/-- What is no printable ASCII character is written as an escape. -/
theorem isAscii_escapeChar (c : Char) : (escapeChar c).IsAscii := by
  unfold escapeChar
  -- the seven characters with a letter of their own
  iterate 7
    split
    · decide
  split
  · rename_i hprint
    have hcode : c.toNat ≤ ('~' : Char).toNat := hprint.2
    exact Text.isAscii_cons.mpr ⟨Nat.lt_of_le_of_lt hcode (by decide), Text.isAscii_nil⟩
  split
  · rename_i hsmall
    exact isAscii_unitEscape hsmall
  · have hvalid : c.toNat < 0xd800 ∨ 0xdfff < c.toNat ∧ c.toNat < 0x110000 := c.valid
    exact Text.isAscii_append.mpr
      ⟨isAscii_unitEscape (by omega), isAscii_unitEscape (by omega)⟩

theorem isAscii_writeString (t : Text) : (writeString t).IsAscii := by
  have hinner : Text.IsAscii (t.flatMap escapeChar) := by
    intro d hd
    obtain ⟨c, _, hd⟩ := List.mem_flatMap.mp hd
    exact isAscii_escapeChar c d hd
  exact Text.isAscii_cons.mpr ⟨by decide, Text.isAscii_append.mpr ⟨hinner, by decide⟩⟩

/-! ## Values -/

mutual

/-- A value that holds no double is written in ASCII. -/
theorem isAscii_write (v : Json) (hv : IsSimple v) : (write v).IsAscii := by
  match v with
  | .null => decide
  | .bool true => decide
  | .bool false => decide
  | .int n => exact Text.isAscii_ofInt n
  | .real x => exact absurd hv (by simp [IsSimple])
  | .str t => exact isAscii_writeString t
  | .arr items =>
    rw [IsSimple] at hv
    exact Text.isAscii_cons.mpr
      ⟨by decide, Text.isAscii_append.mpr ⟨isAscii_writeItems items hv, by decide⟩⟩
  | .obj fields =>
    rw [IsSimple] at hv
    exact Text.isAscii_cons.mpr
      ⟨by decide, Text.isAscii_append.mpr ⟨isAscii_writeFields fields hv.2, by decide⟩⟩

theorem isAscii_writeItems (items : List Json) (h : ItemsSimple items) :
    (writeItems items).IsAscii := by
  match items with
  | [] => exact Text.isAscii_nil
  | [item] =>
    rw [ItemsSimple] at h
    exact isAscii_write item h.1
  | item :: next :: items =>
    rw [ItemsSimple] at h
    rw [writeItems, Text.isAscii_append, Text.isAscii_append]
    · exact ⟨⟨isAscii_write item h.1, by decide⟩, isAscii_writeItems (next :: items) h.2⟩
    · exact nofun

theorem isAscii_writeFields (fields : List (Text × Json)) (h : FieldsSimple fields) :
    (writeFields fields).IsAscii := by
  match fields with
  | [] => exact Text.isAscii_nil
  | [(key, value)] =>
    rw [FieldsSimple] at h
    rw [writeFields, Text.isAscii_append, Text.isAscii_append]
    exact ⟨⟨isAscii_writeString key, by decide⟩, isAscii_write value h.1⟩
  | (key, value) :: next :: fields =>
    rw [FieldsSimple] at h
    rw [writeFields, Text.isAscii_append, Text.isAscii_append, Text.isAscii_append,
      Text.isAscii_append]
    · exact ⟨⟨⟨⟨isAscii_writeString key, by decide⟩, isAscii_write value h.1⟩, by decide⟩,
        isAscii_writeFields (next :: fields) h.2⟩
    · exact nofun

end

end Json

end HitListing
