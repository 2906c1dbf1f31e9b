import HitListing.Text
import HitListing.Text.CellTable

/-!
# Cell widths

How many cells of a terminal a text takes.  A character takes none if it is a
control, a mark that stands on the character before it or one that is not shown,
two if it is a wide character of an East Asian script or a picture, and otherwise
one.

Two characters work on their neighbours.  The joiner draws the character behind
it into the one before, so that it takes no cells of its own.  The picture
selector turns a narrow character that can also be a picture into a wide one.
-/

namespace HitListing

/-- The number of cells that a character takes by itself. -/
def cellWidth (c : Char) : Nat :=
  if zeroCodePoints.has c then 0 else if wideCodePoints.has c then 2 else 1

/-- The character that draws the next one into the one before. -/
def joiner : Char := '\u200d'

/-- The character that asks for the picture of the one before. -/
def pictureSelector : Char := '\ufe0f'

/-- The cells that the picture selector adds to the character before it. -/
def selectedCells (before : Option Char) : Nat :=
  if before.any selectableCodePoints.has then 1 else 0

namespace Text

/-- The number of cells that a text takes, behind a character that the picture
selector can still change, if there is one.  The first character takes none if it
is joined to the one before. -/
def cellsAfter (before : Option Char) (joined : Bool) : Text → Nat
  | [] => 0
  | c :: rest =>
    if joined then cellsAfter before false rest
    else if c = joiner then cellsAfter before true rest
    else if c = pictureSelector then selectedCells before + cellsAfter none false rest
    else
      match cellWidth c with
      | 0 => cellsAfter before false rest
      | n => n + cellsAfter (some c) false rest

/-- The number of cells that a text takes. -/
def cells (t : Text) : Nat :=
  cellsAfter none false t

/-- Fill a text up to a number of cells with blanks behind it. -/
def padCells (width : Nat) (t : Text) : Text :=
  t ++ List.replicate (width - t.cells) ' '

end Text

end HitListing
