import HitListing.Text.LowerCase
import HitListing.Text.Word

/-!
# Queries

What a user asks for: the words of the query text, and whether they are to be
looked up among definitions only.
-/

namespace HitListing

/-- A query. -/
structure Query where
  terms : List Text
  defSearch : Bool
deriving DecidableEq, Repr

/-- The query of a text: its words in lower case, in order. -/
def Query.parse (text : Text) (defSearch : Bool) : Query :=
  ⟨(words text).map lower, defSearch⟩

end HitListing
