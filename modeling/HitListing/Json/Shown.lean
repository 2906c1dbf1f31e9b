import HitListing.Fault
import HitListing.Json.Writer
import HitListing.Number.Numeral

/-!
# Numerals that are too long to be written

An integer with more than `maxDigits` digits has no text.  A value that holds one
can be neither put into a message or a link nor written as JSON.
-/

namespace HitListing.Json

mutual

/-- Whether no numeral in a value is too long. -/
def numeralsFit : Json → Bool
  | .int n => (Text.ofNat n.natAbs).length ≤ maxDigits
  | .arr items => itemsFit items
  | .obj fields => fieldsFit fields
  | _ => true

/-- The same for all items. -/
def itemsFit : List Json → Bool
  | [] => true
  | item :: rest => numeralsFit item && itemsFit rest

/-- The same for the values of all fields. -/
def fieldsFit : List (Text × Json) → Bool
  | [] => true
  | (_, value) :: rest => numeralsFit value && fieldsFit rest

end

/-- A result that is only there if the numerals fit. -/
def ifFits {α : Type} (fits : Bool) (result : α) : Except Fault α :=
  if fits then .ok result else .error .badValue

/-- A value as running text, if it has one. -/
def shown (v : Json) : Except Fault Text :=
  ifFits v.numeralsFit v.plain

/-- A value on one line, if it can be written. -/
def dump (v : Json) : Except Fault Text :=
  ifFits v.numeralsFit v.write

theorem shown_of_fits {v : Json} (h : v.numeralsFit = true) : v.shown = .ok v.plain := by
  rw [shown, h]
  rfl

theorem shown_of_not_fits {v : Json} (h : v.numeralsFit = false) :
    v.shown = .error .badValue := by
  rw [shown, h]
  rfl

/-- The text that a value is shown as is its plain text. -/
theorem eq_plain_of_shown {v : Json} {t : Text} (h : v.shown = .ok t) : t = v.plain := by
  cases hfits : v.numeralsFit with
  | false =>
    rw [shown_of_not_fits hfits] at h
    cases h
  | true =>
    rw [shown_of_fits hfits] at h
    exact (Except.ok.inj h).symm

theorem dump_of_fits {v : Json} (h : v.numeralsFit = true) : v.dump = .ok v.write := by
  rw [dump, h]
  rfl

theorem dump_of_not_fits {v : Json} (h : v.numeralsFit = false) : v.dump = .error .badValue := by
  rw [dump, h]
  rfl

/-- What a value is written as is its text on one line. -/
theorem eq_write_of_dump {v : Json} {t : Text} (h : v.dump = .ok t) : t = v.write := by
  cases hfits : v.numeralsFit with
  | false =>
    rw [dump_of_not_fits hfits] at h
    cases h
  | true =>
    rw [dump_of_fits hfits] at h
    exact (Except.ok.inj h).symm

end HitListing.Json
