import HitListing.Text
import HitListing.Text.Printable

/-!
# Quoted text

A text as messages quote it: in single quotes, or in double quotes where it
holds a single quote and no double one.  Characters that are not printable are
written by their code.
-/

namespace HitListing

/-- The quote that encloses a text. -/
def quoteFor (t : Text) : Char :=
  if t.contains '\'' && !t.contains '"' then '"' else '\''

/-- One character inside the given quotes. -/
def quotedChar (quote c : Char) : Text :=
  if c = quote || c = '\\' then ['\\', c]
  else if c = '\n' then "\\n"
  else if c = '\r' then "\\r"
  else if c = '\t' then "\\t"
  else if isPrintable c then [c]
  else if c.toNat ≤ 0xff then "\\x" ++ Text.hexDigits 2 c.toNat
  else if c.toNat ≤ 0xffff then "\\u" ++ Text.hexDigits 4 c.toNat
  else "\\U" ++ Text.hexDigits 8 c.toNat

/-- A text in quotes. -/
def quoted (t : Text) : Text :=
  let quote := quoteFor t
  quote :: t.flatMap (quotedChar quote) ++ [quote]

end HitListing
