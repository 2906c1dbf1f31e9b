import HitListing.Number.Shortest
import HitListing.Proofs.Numerals

/-!
# The texts of doubles

A finite double is written as a numeral, with a minus before it if it is
negative (`Binary64.isNumeral_writeFinite`).  A numeral has digits, which a point
with more digits may follow, and then an exponent with its sign.
-/

namespace HitListing

/-- Whether a text is made of digits, and of one at least. -/
structure IsDigits (t : Text) : Prop where
  ne_nil : t ≠ []
  isDigit : ∀ c ∈ t, c.isDigit = true

/-- Whether a text is what may stand behind the digits of a numeral: a point with digits behind it,
or nothing. -/
inductive IsFraction : Text → Prop where
  | none : IsFraction []
  | digits {t : Text} (h : IsDigits t) : IsFraction ('.' :: t)

/-- Whether a text is what may stand at the end of a numeral: an exponent with its sign, or
nothing. -/
inductive IsExponent : Text → Prop where
  | none : IsExponent []
  | digits {sign : Char} {t : Text} (hsign : sign = '-' ∨ sign = '+') (h : IsDigits t) :
      IsExponent ('e' :: sign :: t)

/-- Whether a text is a numeral without a sign. -/
inductive IsNumeral : Text → Prop where
  | parts {whole fraction exponent : Text} (hwhole : IsDigits whole) (hfraction : IsFraction fraction)
      (hexponent : IsExponent exponent) : IsNumeral (whole ++ (fraction ++ exponent))

theorem IsDigits.append {s t : Text} (hs : IsDigits s) (ht : ∀ c ∈ t, c.isDigit = true) :
    IsDigits (s ++ t) :=
  ⟨List.append_ne_nil_of_left_ne_nil hs.ne_nil t, List.forall_mem_append.mpr ⟨hs.isDigit, ht⟩⟩

theorem IsDigits.append_right {s t : Text} (hs : ∀ c ∈ s, c.isDigit = true) (ht : IsDigits t) :
    IsDigits (s ++ t) :=
  ⟨List.append_ne_nil_of_right_ne_nil s ht.ne_nil, List.forall_mem_append.mpr ⟨hs, ht.isDigit⟩⟩

theorem isDigits_zero : IsDigits ['0'] :=
  ⟨List.cons_ne_nil _ _, List.forall_mem_singleton.mpr rfl⟩

theorem isDigit_of_mem_zeros (count : Nat) : ∀ c ∈ List.replicate count '0', c.isDigit = true := by
  intro c hc
  obtain rfl := List.eq_of_mem_replicate hc
  rfl

theorem isDigits_ofNat (n : Nat) : IsDigits (Text.ofNat n) := by
  refine ⟨?_, fun c hc => Text.isDigit_of_mem_ofNat hc⟩
  rw [Text.ofNat]
  exact List.ne_nil_of_length_pos Nat.length_toDigits_pos

theorem isDigits_digits (width n : Nat) : IsDigits (Text.digits width n) :=
  .append_right (isDigit_of_mem_zeros _) (isDigits_ofNat n)

theorem IsDigits.take {t : Text} (h : IsDigits t) {n : Nat} (hn : 0 < n) : IsDigits (t.take n) := by
  refine ⟨?_, fun c hc => h.isDigit c (List.mem_of_mem_take hc)⟩
  rw [Ne, List.take_eq_nil_iff, not_or]
  exact ⟨Nat.ne_of_gt hn, h.ne_nil⟩

theorem IsDigits.drop {t : Text} (h : IsDigits t) {n : Nat} (hn : n < t.length) :
    IsDigits (t.drop n) := by
  refine ⟨?_, fun c hc => h.isDigit c (List.mem_of_mem_drop hc)⟩
  rw [Ne, List.drop_eq_nil_iff]
  omega

/-- A numeral begins with a digit. -/
theorem IsNumeral.exists_cons {t : Text} (h : IsNumeral t) :
    ∃ c rest, t = c :: rest ∧ c.isDigit = true := by
  obtain @⟨whole, fraction, exponent, hwhole, -, -⟩ := h
  obtain ⟨c, rest, rfl⟩ := List.exists_cons_of_ne_nil hwhole.ne_nil
  exact ⟨c, rest ++ (fraction ++ exponent), rfl, hwhole.isDigit c List.mem_cons_self⟩

namespace Binary64

/-- A decimal with its point among its digits is a numeral. -/
theorem Decimal.isNumeral_positional (d : Decimal) : IsNumeral d.positional := by
  have hdigits := isDigits_ofNat d.digits
  rw [positional]
  simp only
  split
  case isTrue =>
    have hzeros := isDigit_of_mem_zeros (-d.point).toNat
    have h := IsNumeral.parts isDigits_zero (.digits (.append_right hzeros hdigits)) .none
    simpa using h
  case isFalse hpoint =>
    split
    case isTrue =>
      have hzeros := isDigit_of_mem_zeros (d.point.toNat - (Text.ofNat d.digits).length)
      have h := IsNumeral.parts (hdigits.append hzeros) (.digits isDigits_zero) .none
      simpa [Text.padRight] using h
    case isFalse =>
      have hpositive : 0 < d.point.toNat := by omega
      have hshort : d.point.toNat < (Text.ofNat d.digits).length := by omega
      have h := IsNumeral.parts (hdigits.take hpositive) (.digits (hdigits.drop hshort)) .none
      simpa using h

/-- A decimal with a power of ten is a numeral. -/
theorem Decimal.isNumeral_scientific (d : Decimal) : IsNumeral d.scientific := by
  have hdigits := isDigits_ofNat d.digits
  have hfraction : IsFraction (if (Text.ofNat d.digits).length ≤ 1 then []
      else '.' :: (Text.ofNat d.digits).drop 1) := by
    split
    · exact .none
    · exact .digits (hdigits.drop (by omega))
  have hsign : (if d.point - 1 < 0 then '-' else '+') = '-' ∨
      (if d.point - 1 < 0 then '-' else '+') = '+' := by
    split
    · exact Or.inl rfl
    · exact Or.inr rfl
  rw [scientific]
  simp only [List.append_assoc]
  exact .parts (hdigits.take Nat.one_pos) hfraction
    (.digits hsign (isDigits_digits 2 (d.point - 1).natAbs))

theorem Decimal.isNumeral_write (d : Decimal) : IsNumeral d.write := by
  rw [write]
  split
  · exact d.isNumeral_positional
  · exact d.isNumeral_scientific

/-- A finite double is written as a numeral, or as a minus and a numeral. -/
theorem isNumeral_writeFinite (q : Rat) :
    IsNumeral (writeFinite q) ∨ ∃ t, writeFinite q = '-' :: t ∧ IsNumeral t := by
  rw [writeFinite]
  split
  · exact Or.inl (.parts isDigits_zero (.digits isDigits_zero) .none)
  · split
    · exact Or.inr ⟨_, rfl, Decimal.isNumeral_write _⟩
    · exact Or.inl (Decimal.isNumeral_write _)

end Binary64

end HitListing
