import HitListing.Text
import HitListing.Text.LowerTable

/-!
# Lower case

Lower-casing a text goes character by character, with one exception: a capital
sigma becomes the final small sigma where it ends a word, that is where a cased
character stands before it and none behind it.  Marks and apostrophes are
looked through on both sides.
-/

namespace HitListing

/-- Whether the first character that a sigma does not look through is cased. -/
def startsCased (t : Text) : Bool :=
  (t.dropWhile isCaseIgnorable).head?.any isCased

/-- Lower-case a text; `cased` says whether the nearest character before it
that a sigma does not look through is cased. -/
def lowerAfter (cased : Bool) : Text → Text
  | [] => []
  | c :: rest =>
    let small :=
      if c = 'Σ' then [if cased && !startsCased rest then 'ς' else 'σ'] else lowerChar c
    small ++ lowerAfter (if isCaseIgnorable c then cased else isCased c) rest

/-- A text in lower case. -/
def lower (t : Text) : Text :=
  lowerAfter false t

end HitListing
