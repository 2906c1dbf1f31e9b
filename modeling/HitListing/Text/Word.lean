import HitListing.Text
import HitListing.Text.WordChar

/-!
# Words

A text falls into pieces, each a longest run of word characters or a longest
run of other characters, in turn.  The pieces of the first kind are its words.
-/

namespace HitListing

/-- A stretch of text that is a word, or a stretch between words. -/
structure Piece where
  isWord : Bool
  text : Text
deriving Repr, DecidableEq

/-- Put a character in front of a list of pieces. -/
def Piece.attach (c : Char) : List Piece → List Piece
  | [] => [⟨isWordChar c, [c]⟩]
  | p :: rest =>
    if p.isWord == isWordChar c then ⟨p.isWord, c :: p.text⟩ :: rest
    else ⟨isWordChar c, [c]⟩ :: p :: rest

/-- The pieces of a text, words and gaps in turn. -/
def pieces (t : Text) : List Piece :=
  t.foldr Piece.attach []

/-- The words of a text in order. -/
def words (t : Text) : List Text :=
  (pieces t).filterMap fun p => if p.isWord then some p.text else none

end HitListing
