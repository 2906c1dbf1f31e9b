import HitListing.Text

/-!
# Escaping

Text within markup, or within a quoted attribute, has its five special
characters written as references.
-/

namespace HitListing.Markup

/-- A character as markup shows it. -/
def escapeChar (c : Char) : Text :=
  if c = '&' then "&amp;"
  else if c = '<' then "&lt;"
  else if c = '>' then "&gt;"
  else if c = '"' then "&quot;"
  else if c = '\'' then "&#x27;"
  else [c]

/-- A text as markup shows it. -/
def escape (t : Text) : Text :=
  t.flatMap escapeChar

end HitListing.Markup
