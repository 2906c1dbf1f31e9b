import HitListing.Text.LowerCase
import HitListing.Text.Word

/-!
# Query terms

A set of terms in lower case.  A word of a text matches if its lower-case form
is one of them.
-/

namespace HitListing

/-- A set of query terms, each in lower case and none empty, in order. -/
structure Terms where
  all : List Text
deriving DecidableEq, Repr

namespace Terms

/-- The set of the given terms. -/
def ofList (terms : List Text) : Terms :=
  ⟨Text.sortedSet ((terms.filter (· ≠ [])).map lower)⟩

/-- Whether a word matches a term. -/
def has (terms : Terms) (word : Text) : Bool :=
  terms.all.contains (lower word)

/-- The terms that words of a text match, each once and in order. -/
def matched (terms : Terms) (t : Text) : List Text :=
  Text.sortedSet (((words t).map lower).filter terms.all.contains)

end Terms

end HitListing
