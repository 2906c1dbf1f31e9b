import HitListing.Number.Numeral
import Mathlib.Algebra.Group.Nat.Defs

/-!
# Decimal numerals

A number is read back from its digits, so that different numbers have different
numerals.  Numerals that are filled up to one width by zeros put side by side are
again one (`digits_append`), and their order as texts is that of the numbers
(`digits_lt_digits_iff`).
-/

namespace HitListing

/-- The value of an ASCII digit. -/
theorem decimalValue?_of_isDigit {c : Char} (hc : c.isDigit = true) :
    decimalValue? c = some (c.toNat - '0'.toNat) := by
  have hrange : 48 ≤ c.toNat ∧ c.toNat ≤ 57 := by
    simpa [Char.isDigit, UInt32.le_iff_toNat_le] using hc
  have hfirst : (decide (48 ≤ c.toNat) && decide (c.toNat < 58)) = true := by
    simp
    omega
  rw [decimalValue?, decimalZeros, List.find?_cons, hfirst]
  rfl

/-- ASCII digits have the value that they have in any base-ten reading. -/
theorem ofDigits_filterMap_decimalValue? {digits : Text}
    (h : ∀ c ∈ digits, c.isDigit = true) :
    ofDigits (digits.filterMap decimalValue?) = Nat.ofDigitChars 10 digits 0 := by
  have hmap : digits.filterMap decimalValue? = digits.map fun c => c.toNat - '0'.toNat := by
    induction digits with
    | nil => rfl
    | cons c digits ih =>
      rw [List.filterMap_cons_some (decimalValue?_of_isDigit (h c List.mem_cons_self)),
        ih fun d hd => h d (List.mem_cons_of_mem c hd), List.map_cons]
  rw [hmap, ofDigits, Nat.ofDigitChars_eq_foldl, List.foldl_map]

/-- A numeral is below the power of ten with as many zeros as it has digits. -/
theorem ofDigitChars_lt {t : Text} (h : ∀ c ∈ t, c.isDigit = true) (front : Nat) :
    Nat.ofDigitChars 10 t front < (front + 1) * 10 ^ t.length := by
  induction t generalizing front with
  | nil => simp
  | cons c t ih =>
    obtain ⟨hc, ht⟩ := List.forall_mem_cons.mp h
    have hrange : 48 ≤ c.toNat ∧ c.toNat ≤ 57 := by
      simpa [Char.isDigit, UInt32.le_iff_toNat_le] using hc
    have hdigit : 10 * front + (c.toNat - '0'.toNat) + 1 ≤ (front + 1) * 10 := by
      show 10 * front + (c.toNat - 48) + 1 ≤ _
      omega
    calc Nat.ofDigitChars 10 (c :: t) front
        = Nat.ofDigitChars 10 t (10 * front + (c.toNat - '0'.toNat)) := Nat.ofDigitChars_cons
      _ < (10 * front + (c.toNat - '0'.toNat) + 1) * 10 ^ t.length := ih ht _
      _ ≤ (front + 1) * 10 * 10 ^ t.length := Nat.mul_le_mul_right _ hdigit
      _ = (front + 1) * 10 ^ (c :: t).length := by
        rw [List.length_cons, Nat.pow_succ, Nat.mul_assoc, Nat.mul_comm 10]

namespace Text

theorem isDigit_of_mem_ofNat {n : Nat} {c : Char} (hc : c ∈ ofNat n) : c.isDigit = true :=
  Nat.isDigit_of_mem_toDigits (by decide) (by decide) hc

/-- The digits of a number read as that number. -/
theorem ofDigits_ofNat (n : Nat) : ofDigits ((ofNat n).filterMap decimalValue?) = n := by
  rw [ofDigits_filterMap_decimalValue? fun c => isDigit_of_mem_ofNat]
  exact Nat.ofDigitChars_toDigits (by decide) (by decide)

/-- Different numbers have different digits. -/
theorem ofNat_injective {m n : Nat} (h : ofNat m = ofNat n) : m = n := by
  rw [← ofDigits_ofNat m, h, ofDigits_ofNat]

/-! ## Numerals of one width -/

theorem isDigit_of_mem_digits {width n : Nat} {c : Char} (hc : c ∈ digits width n) :
    c.isDigit = true := by
  rcases List.mem_append.mp hc with hc | hc
  · obtain rfl := List.eq_of_mem_replicate hc
    rfl
  · exact isDigit_of_mem_ofNat hc

/-- Zeros in front do not change the number. -/
theorem ofDigitChars_digits (width n : Nat) : Nat.ofDigitChars 10 (digits width n) 0 = n := by
  have hzeros (count : Nat) : Nat.ofDigitChars 10 (List.replicate count '0') 0 = 0 := by
    induction count with
    | zero => rfl
    | succ count ih =>
      rw [List.replicate_succ, Nat.ofDigitChars_cons]
      exact ih
  rw [digits, padLeft, Nat.ofDigitChars_append, hzeros]
  exact Nat.ofDigitChars_toDigits (by decide) (by decide)

theorem digits_one {n : Nat} (hn : n < 10) : digits 1 n = [n.digitChar] := by
  rw [digits, ofNat, Nat.toDigits_of_lt_base hn]
  rfl

/-- The last digit stands behind the numeral of one digit less. -/
theorem digits_succ {width : Nat} (hwidth : 0 < width) (n : Nat) :
    digits (width + 1) n = digits width (n / 10) ++ [(n % 10).digitChar] := by
  obtain ⟨w, rfl⟩ : ∃ w, width = w + 1 := ⟨width - 1, by omega⟩
  unfold digits ofNat padLeft
  rcases Nat.lt_or_ge n 10 with hn | hn
  · rw [Nat.toDigits_of_lt_base hn, Nat.div_eq_of_lt hn, Nat.mod_eq_of_lt hn,
      Nat.toDigits_of_lt_base (by decide)]
    simp [List.replicate_succ']
  · rw [Nat.toDigits_eq_if (by decide), if_neg (by omega), ← List.append_assoc,
      List.length_append, List.length_singleton, Nat.add_sub_add_right]

theorem length_digits (width : Nat) {n : Nat} (hwidth : 0 < width) (hn : n < 10 ^ width) :
    (digits width n).length = width := by
  have hlength : (ofNat n).length ≤ width :=
    (Nat.length_toDigits_le_iff (by decide) hwidth).mpr hn
  rw [digits, padLeft, List.length_append, List.length_replicate]
  omega

/-- Two numerals side by side are one. -/
theorem digits_append {v w a b : Nat} (hv : 0 < v) (hw : 0 < w) (hb : b < 10 ^ w) :
    digits v a ++ digits w b = digits (v + w) (a * 10 ^ w + b) := by
  induction w generalizing b with
  | zero => omega
  | succ w ih =>
    have hpow : a * 10 ^ (w + 1) = 10 * (a * 10 ^ w) := by
      rw [Nat.pow_succ, ← Nat.mul_assoc, Nat.mul_comm]
    have hquotient : (a * 10 ^ (w + 1) + b) / 10 = a * 10 ^ w + b / 10 := by omega
    have hlast : (a * 10 ^ (w + 1) + b) % 10 = b % 10 := by omega
    rw [← Nat.add_assoc, digits_succ (show 0 < v + w by omega), hquotient, hlast]
    rcases Nat.eq_zero_or_pos w with rfl | hpos
    · have hb : b < 10 := hb
      rw [digits_one hb, Nat.mod_eq_of_lt hb, Nat.div_eq_of_lt hb]
      simp
    · rw [digits_succ hpos, ← List.append_assoc, ih hpos (by rw [Nat.pow_succ] at hb; omega)]

/-- The order of texts of one length is settled before what follows them. -/
theorem append_lt_append {s t : Text} (h : s < t) (hlength : s.length = t.length) (u v : Text) :
    s ++ u < t ++ v := by
  induction s generalizing t with
  | nil =>
    obtain rfl := List.eq_nil_of_length_eq_zero hlength.symm
    exact absurd h (List.lt_irrefl [])
  | cons c s ih =>
    cases t with
    | nil => cases hlength
    | cons d t =>
      rw [List.cons_append, List.cons_append, List.cons_lt_cons_iff]
      rcases List.cons_lt_cons_iff.mp h with hcd | ⟨hcd, hst⟩
      · exact Or.inl hcd
      · exact Or.inr ⟨hcd, ih hst (Nat.succ.inj hlength)⟩

/-- Of numerals of one width that of the smaller number comes first. -/
theorem digits_lt_digits {width a b : Nat} (hwidth : 0 < width) (hb : b < 10 ^ width)
    (hab : a < b) : digits width a < digits width b := by
  have hlast {x y : Nat} (hxy : x < y) (hy : y < 10) : [x.digitChar] < [y.digitChar] := by
    rw [List.cons_lt_cons_iff]
    refine Or.inl ?_
    show x.digitChar.toNat < y.digitChar.toNat
    rw [Nat.toNat_digitChar_of_lt_ten hy, Nat.toNat_digitChar_of_lt_ten (by omega)]
    omega
  induction width generalizing a b with
  | zero => omega
  | succ w ih =>
    rcases Nat.eq_zero_or_pos w with rfl | hpos
    · rw [digits_one (by omega), digits_one hb]
      exact hlast hab hb
    · rw [Nat.pow_succ] at hb
      rw [digits_succ hpos, digits_succ hpos]
      rcases Nat.lt_or_ge (a / 10) (b / 10) with hfront | hfront
      · refine append_lt_append (ih hpos (by omega) hfront) ?_ _ _
        rw [length_digits w hpos (by omega), length_digits w hpos (by omega)]
      · obtain hfront : a / 10 = b / 10 := by omega
        rw [hfront]
        exact List.append_left_lt (hlast (by omega) (by omega))

theorem digits_lt_digits_iff {width a b : Nat} (hwidth : 0 < width) (ha : a < 10 ^ width)
    (hb : b < 10 ^ width) : digits width a < digits width b ↔ a < b := by
  refine ⟨fun h => ?_, digits_lt_digits hwidth hb⟩
  rcases Nat.lt_trichotomy a b with hab | rfl | hba
  · exact hab
  · exact absurd h (List.lt_irrefl _)
  · exact absurd h (List.lt_asymm (digits_lt_digits hwidth ha hba))

end Text

end HitListing
