import HitListing.Calendar.IndexDate
import HitListing.Proofs.Numerals
import Mathlib.Data.List.Forall2

/-!
# Patterns at fixed places

The fields of a date may be written in more or in fewer digits.  Of a text of
digits that is as long as the widest forms of all fields together, a narrower
form of any field would leave something over.  So the way that a pattern takes
through such a text, if there is one, is to cut it at fixed places
(`Pattern.read_eq_some_iff`), and all that is left of the forms is the range of
numbers that each field has at its full width (`Field.HasExtent`).
-/

namespace HitListing.Calendar

/-! ## Fields of full width -/

/-- The width of a field, and the numbers that stand in it from the lowest to the highest. -/
structure Extent where
  width : Nat
  low : Nat
  high : Nat

/-- Whether an extent holds a number. -/
def Extent.Holds (x : Extent) (n : Nat) : Prop :=
  x.low ≤ n ∧ n ≤ x.high

/-- Whether a field tries wider forms first, none of them wider than its extent, and reads those
numerals of full width that the extent holds. -/
structure Field.HasExtent (field : Field) (x : Extent) : Prop where
  ordered : field.Pairwise fun form other => other.length ≤ form.length
  length_le : ∀ form ∈ field, form.length ≤ x.width
  fits_iff : ∀ piece : Text, piece.length = x.width → (∀ c ∈ piece, c.isDigit = true) →
    ((∃ form ∈ field, form.length = x.width ∧ form.fits piece = true) ↔
      x.Holds (Nat.ofDigitChars 10 piece 0))

theorem exists_digitChar {c : Char} (hc : c.isDigit = true) : ∃ n < 10, c = n.digitChar := by
  have hrange : 48 ≤ c.toNat ∧ c.toNat ≤ 57 := by
    simpa [Char.isDigit, UInt32.le_iff_toNat_le] using hc
  refine ⟨c.toNat - 48, by omega, ?_⟩
  apply Char.toNat_inj.mp
  rw [Nat.toNat_digitChar_of_lt_ten (by omega)]
  omega

theorem ofDigitChars_pair {x y : Nat} (hx : x < 10) (hy : y < 10) :
    Nat.ofDigitChars 10 [x.digitChar, y.digitChar] 0 = 10 * x + y := by
  rw [Nat.ofDigitChars_cons, Nat.ofDigitChars_cons, Nat.toNat_digitChar_of_lt_ten hx,
    Nat.toNat_digitChar_of_lt_ten hy]
  show 10 * (10 * 0 + (48 + x - 48)) + (48 + y - 48) = _
  omega

/-- A field of two digits has an extent if it has it on all pairs of digits. -/
theorem hasExtent_of_pairs {field : Field} {low high : Nat}
    (hordered : field.Pairwise fun form other => other.length ≤ form.length)
    (hlength : ∀ form ∈ field, form.length ≤ 2)
    (hpairs : ∀ x < 10, ∀ y < 10,
      (∃ form ∈ field, form.length = 2 ∧ form.fits [x.digitChar, y.digitChar] = true) ↔
        low ≤ 10 * x + y ∧ 10 * x + y ≤ high) :
    field.HasExtent ⟨2, low, high⟩ where
  ordered := hordered
  length_le := hlength
  fits_iff := by
    intro piece hpiece hdigits
    match piece with
    | [a, b] =>
      obtain ⟨x, hx, rfl⟩ := exists_digitChar (hdigits a (by simp))
      obtain ⟨y, hy, rfl⟩ := exists_digitChar (hdigits b (by simp))
      rw [ofDigitChars_pair hx hy]
      exact hpairs x hx y hy

theorem hasExtent_monthField : monthField.HasExtent ⟨2, 1, 12⟩ :=
  hasExtent_of_pairs (by decide) (by decide) (by decide +kernel)

theorem hasExtent_dayField : dayField.HasExtent ⟨2, 1, 31⟩ :=
  hasExtent_of_pairs (by decide) (by decide) (by decide +kernel)

theorem hasExtent_hourField : hourField.HasExtent ⟨2, 0, 23⟩ :=
  hasExtent_of_pairs (by decide) (by decide) (by decide +kernel)

theorem hasExtent_minuteField : minuteField.HasExtent ⟨2, 0, 59⟩ :=
  hasExtent_of_pairs (by decide) (by decide) (by decide +kernel)

theorem hasExtent_secondField : secondField.HasExtent ⟨2, 0, 61⟩ :=
  hasExtent_of_pairs (by decide) (by decide) (by decide +kernel)

theorem isDecimal_of_isDigit {c : Char} (hc : c.isDigit = true) : isDecimal c = true := by
  rw [isDecimal, decimalValue?_of_isDigit hc]
  rfl

theorem hasExtent_yearField : yearField.HasExtent ⟨4, 0, 9999⟩ where
  ordered := by decide
  length_le := by decide
  fits_iff := by
    intro piece hpiece hdigits
    refine iff_of_true ⟨_, List.mem_singleton_self _, rfl, ?_⟩ ⟨Nat.zero_le _, ?_⟩
    · match piece with
      | [a, b, c, d] =>
        simp only [List.forall_mem_cons] at hdigits
        obtain ⟨ha, hb, hc, hd, _⟩ := hdigits
        simp [Form.fits, Place.admits, isDecimal_of_isDigit, ha, hb, hc, hd]
    · have hlt := ofDigitChars_lt hdigits 0
      rw [show piece.length = 4 from hpiece] at hlt
      show _ ≤ 9999
      omega

/-! ## Cutting at fixed places -/

namespace Extent

/-- The width of fields side by side. -/
def totalWidth : List Extent → Nat
  | [] => 0
  | x :: xs => x.width + totalWidth xs

/-- The numbers of a text that is cut at the widths of fields. -/
def numbers : List Extent → Text → List Nat
  | [], _ => []
  | x :: xs, t => Nat.ofDigitChars 10 (t.take x.width) 0 :: numbers xs (t.drop x.width)

end Extent

theorem Form.fits_take (form : Form) (t : Text) :
    form.fits (t.take form.length) = form.fits t := by
  induction form generalizing t with
  | nil => rfl
  | cons place form ih =>
    cases t with
    | nil => rfl
    | cons c t => simp [Form.fits, ih]

theorem numberOf_eq {t : Text} (h : ∀ c ∈ t, c.isDigit = true) :
    numberOf t = Nat.ofDigitChars 10 t 0 :=
  ofDigits_filterMap_decimalValue? h

namespace Pattern

variable {pattern : Pattern} {xs : List Extent} {t : Text} {ns : List Nat}

theorem read_cons_eq_some {field : Field} {rest : Text}
    (h : Pattern.read (field :: pattern) t = some (ns, rest)) :
    ∃ form ∈ field, form.fits t = true ∧ ∃ more,
      Pattern.read pattern (t.drop form.length) = some (more, rest) ∧
        ns = numberOf (t.take form.length) :: more := by
  obtain ⟨form, hform, h⟩ := List.exists_of_findSome?_eq_some h
  split at h
  · rename_i hfits
    obtain ⟨⟨more, behind⟩, hmore, heq⟩ := Option.map_eq_some_iff.mp h
    cases heq
    exact ⟨form, hform, hfits, more, hmore, rfl⟩
  · cases h

/-- A pattern takes at most the width of all its fields. -/
theorem length_le_of_read (h : List.Forall₂ Field.HasExtent pattern xs) {rest : Text}
    (hread : pattern.read t = some (ns, rest)) :
    t.length ≤ Extent.totalWidth xs + rest.length := by
  induction h generalizing t ns with
  | nil =>
    cases hread
    exact Nat.le_add_left _ _
  | @cons field x fields xs hfield _ ih =>
    obtain ⟨form, hform, _, more, hmore, _⟩ := read_cons_eq_some hread
    have hrest := ih hmore
    have hwidth := hfield.length_le form hform
    rw [List.length_drop] at hrest
    show _ ≤ (x.width + Extent.totalWidth xs) + _
    omega

/-- Forms of full width are tried before narrower ones, and all of them leave the same text. -/
theorem read_cons_of_fits {field : Field} {x : Extent} (hfield : field.HasExtent x)
    {form : Form} (hform : form ∈ field) (hwidth : form.length = x.width)
    (hfits : form.fits t = true) (hrest : Pattern.read pattern (t.drop x.width) = some (ns, [])) :
    Pattern.read (field :: pattern) t = some (numberOf (t.take x.width) :: ns, []) := by
  have hstep {other : Form} (hother : other.length = x.width) (hfits : other.fits t = true) :
      (if other.fits t then
          (Pattern.read pattern (t.drop other.length)).map fun found =>
            (numberOf (t.take other.length) :: found.1, found.2)
        else none) = some (numberOf (t.take x.width) :: ns, []) := by
    rw [if_pos hfits, hother, hrest]
    rfl
  rw [Pattern.read]
  cases hfound : List.findSome? _ field with
  | none =>
    have hnone := List.findSome?_eq_none_iff.mp hfound form hform
    cases (hstep hwidth hfits).symm.trans hnone
  | some found =>
    obtain ⟨before, first, after, heq, hfirst, hnone⟩ := List.findSome?_eq_some_iff.mp hfound
    have hle : form.length ≤ first.length := by
      have hordered := hfield.ordered
      rw [heq, List.pairwise_append, List.pairwise_cons] at hordered
      rw [heq, List.mem_append, List.mem_cons] at hform
      rcases hform with hbefore | rfl | hafter
      · have hskipped := hnone form hbefore
        cases (hstep hwidth hfits).symm.trans hskipped
      · exact Nat.le_refl _
      · exact hordered.2.1.1 form hafter
    have hfirstWidth : first.length = x.width := by
      have := hfield.length_le first (by rw [heq]; simp)
      omega
    have hfirstFits : first.fits t = true := by
      by_contra hnot
      rw [if_neg hnot] at hfirst
      cases hfirst
    exact hfirst.symm.trans (hstep hfirstWidth hfirstFits)

/-- Of a text of digits that is as long as all fields together, the pattern reads the whole
exactly if the numbers at the fixed places are in range; these are then what it reads. -/
theorem read_eq_some_iff (h : List.Forall₂ Field.HasExtent pattern xs)
    (hlength : t.length = Extent.totalWidth xs) (hdigits : ∀ c ∈ t, c.isDigit = true) :
    pattern.read t = some (ns, []) ↔
      List.Forall₂ Extent.Holds xs (Extent.numbers xs t) ∧ ns = Extent.numbers xs t := by
  induction h generalizing t ns with
  | nil =>
    obtain rfl := List.eq_nil_of_length_eq_zero hlength
    rw [Pattern.read, Extent.numbers]
    simp [eq_comm]
  | @cons field x fields xs hfield hfields ih =>
    have htotal : t.length = x.width + Extent.totalWidth xs := hlength
    have hpiece : (t.take x.width).length = x.width := by
      rw [List.length_take]
      omega
    have hpieceDigits : ∀ c ∈ t.take x.width, c.isDigit = true :=
      fun c hc => hdigits c (List.mem_of_mem_take hc)
    have hrest {more : List Nat} : Pattern.read fields (t.drop x.width) = some (more, []) ↔
        List.Forall₂ Extent.Holds xs (Extent.numbers xs (t.drop x.width)) ∧
          more = Extent.numbers xs (t.drop x.width) :=
      ih (by rw [List.length_drop]; omega) fun c hc => hdigits c (List.mem_of_mem_drop hc)
    have hfits := hfield.fits_iff (t.take x.width) hpiece hpieceDigits
    rw [Extent.numbers, List.forall₂_cons, ← hfits]
    constructor
    · intro hread
      obtain ⟨form, hform, hformFits, more, hmore, rfl⟩ := read_cons_eq_some hread
      have hwidth : form.length = x.width := by
        have hle := hfield.length_le form hform
        have hbound := length_le_of_read hfields hmore
        rw [List.length_drop, List.length_nil] at hbound
        omega
      rw [hwidth] at hmore ⊢
      obtain ⟨hholds, rfl⟩ := hrest.mp hmore
      rw [numberOf_eq hpieceDigits]
      refine ⟨⟨⟨form, hform, hwidth, ?_⟩, hholds⟩, rfl⟩
      rw [← hwidth, Form.fits_take]
      exact hformFits
    · rintro ⟨⟨⟨form, hform, hwidth, hformFits⟩, hholds⟩, rfl⟩
      rw [← hwidth, Form.fits_take] at hformFits
      rw [← numberOf_eq hpieceDigits]
      exact read_cons_of_fits hfield hform hwidth hformFits (hrest.mpr ⟨hholds, rfl⟩)

end Pattern

end HitListing.Calendar
