/-!
# Sets of code points

A character class is a list of ranges of code points, in increasing order and
without overlap.  Membership stops at the first range that begins beyond the
character, so that the common characters at the front are found quickly.
-/

namespace HitListing

/-- Ranges of code points, each with its first and its last member, in
increasing order. -/
abbrev CodePoints := List (Nat × Nat)

/-- Whether a code point lies in one of the ranges. -/
def CodePoints.hasCode : CodePoints → Nat → Bool
  | [], _ => false
  | (first, last) :: rest, n =>
    if n < first then false else n ≤ last || CodePoints.hasCode rest n

/-- Whether a character lies in one of the ranges. -/
def CodePoints.has (ranges : CodePoints) (c : Char) : Bool :=
  ranges.hasCode c.toNat

end HitListing
