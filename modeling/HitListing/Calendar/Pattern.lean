import HitListing.Number.Numeral

/-!
# Patterns of dates

A pattern reads a date one field after the other.  A field may be written in
several forms, of one digit or of more, and these are tried in the order in
which they are listed: where there is no way through the rest of the pattern
behind one form, the next one is tried.  So the first way through the whole
pattern counts.  It need not reach the end of the text.
-/

namespace HitListing.Calendar

/-- What may stand at one place of a form. -/
inductive Place where
  /-- A character between two others, these included. -/
  | between (first last : Char)
  /-- A decimal digit of any script. -/
  | decimal
deriving DecidableEq, Repr

/-- Whether a character may stand at a place. -/
def Place.admits : Place → Char → Bool
  | .between first last, c => first ≤ c && c ≤ last
  | .decimal, c => isDecimal c

/-- A form of a field, place by place. -/
abbrev Form := List Place

/-- Whether a text begins in a form. -/
def Form.fits : Form → Text → Bool
  | [], _ => true
  | _ :: _, [] => false
  | place :: form, c :: t => place.admits c && Form.fits form t

/-- A field: its forms in the order in which they are tried. -/
abbrev Field := List Form

/-- A pattern, field by field. -/
abbrev Pattern := List Field

/-- The number that a text of decimal digits stands for. -/
def numberOf (t : Text) : Nat :=
  ofDigits (t.filterMap decimalValue?)

/-- The numbers that the fields of a pattern have at the front of a text, and
what is left of the text. -/
def Pattern.read : Pattern → Text → Option (List Nat × Text)
  | [], t => some ([], t)
  | field :: fields, t =>
    field.findSome? fun form =>
      if form.fits t then
        (Pattern.read fields (t.drop form.length)).map fun (numbers, rest) =>
          (numberOf (t.take form.length) :: numbers, rest)
      else none

end HitListing.Calendar
