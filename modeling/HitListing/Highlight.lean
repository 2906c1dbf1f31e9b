import HitListing.Fault
import HitListing.Markup.Escape
import HitListing.Terms
import HitListing.Text.Lines

/-!
# Highlighted lines

A source line is laid out with its tabs filled up, escaped, and has the words
that match a term in bold.
-/

namespace HitListing

/-- The first tab width that layout refuses. -/
def tabSizeBound : Int := 2147483648

/-- A line without its end, with tabs filled up if a tab width is set. -/
def layOut (tabSize : Int) (line : Text) : Except Fault Text :=
  if tabSize ≤ 0 then .ok (dropNewline line)
  else if tabSize < tabSizeBound then .ok (expandTabs tabSize.toNat (dropNewline line))
  else .error .outOfRange

namespace Markup

/-- Text in bold. -/
def bold (t : Text) : Text :=
  "<b>" ++ escape t ++ "</b>"

end Markup

namespace Terms

/-- A piece of a line, in bold if it is a word that matches. -/
def highlightPiece (terms : Terms) (p : Piece) : Text :=
  if p.isWord && terms.has p.text then Markup.bold p.text else Markup.escape p.text

/-- A line that has been laid out, with its matching words in bold. -/
def highlightText (terms : Terms) (line : Text) : Text :=
  (pieces line).flatMap terms.highlightPiece

/-- A line laid out and with its matching words in bold. -/
def highlight (terms : Terms) (tabSize : Int) (line : Text) : Except Fault Text :=
  (layOut tabSize line).map terms.highlightText

end Terms

end HitListing
