import HitListing.Text
import HitListing.Text.CodePoints

/-!
# Blank characters

The white space of Unicode, and the four separator controls.
-/

namespace HitListing

/-- The blank code points of Unicode 14. -/
def blankCodePoints : CodePoints :=
  [
    (0x9, 0xD), (0x1C, 0x20), (0x85, 0x85), (0xA0, 0xA0), (0x1680, 0x1680), (0x2000, 0x200A),
    (0x2028, 0x2029), (0x202F, 0x202F), (0x205F, 0x205F), (0x3000, 0x3000)
  ]

/-- Whether a character is white space. -/
def isBlank (c : Char) : Bool :=
  blankCodePoints.has c

/-- Whether a blank may stand around a numeral.  The separator controls may
not. -/
def isNumeralBlank (c : Char) : Bool :=
  isBlank c && !(0x1c ≤ c.toNat && c.toNat ≤ 0x1f)

namespace Text

/-- Put a character in front of runs of characters of which all or none are blank,
each with whether it is blank. -/
def attachRun (c : Char) : List (Bool × Text) → List (Bool × Text)
  | [] => [(isBlank c, [c])]
  | (blank, run) :: rest =>
    if blank = isBlank c then (blank, c :: run) :: rest
    else (isBlank c, [c]) :: (blank, run) :: rest

/-- The longest runs of a text of which all or none of the characters are blank,
each with whether it is blank. -/
def runs (t : Text) : List (Bool × Text) :=
  t.foldr attachRun []

/-- The pieces of a text between its blanks. -/
def unblanked (t : Text) : List Text :=
  t.runs.filterMap fun (blank, run) => if blank then none else some run

/-- Runs in turn, each with the blanks behind it. -/
def withBlanks : List (Bool × Text) → List Text
  | [] => []
  | (_, run) :: (true, blanks) :: rest => (run ++ blanks) :: withBlanks rest
  | (_, run) :: rest => run :: withBlanks rest

/-- The pieces of a text between its blanks, each with the blanks behind it; the
first has those before it too. -/
def spaced (t : Text) : List Text :=
  match t.runs with
  | (true, blanks) :: rest =>
    match withBlanks rest with
    | [] => [blanks]
    | first :: more => (blanks ++ first) :: more
  | runs => withBlanks runs

end Text

end HitListing
