import HitListing.Json.Writer
import HitListing.Text.LowerCase
import HitListing.Text.Lines
import HitListing.Text.Word
import HitListing.Utf8

/-!
# Line positions

The inverted index of a text: for each word in lower case the numbers of the
lines that hold it, and the text of every line that holds a word.  Lines count
from 1.
-/

namespace HitListing

/-- A line with its number and its words in lower case. -/
structure IndexedLine where
  number : Nat
  text : Text
  words : List Text
deriving DecidableEq, Repr

/-- The lines of a text that hold a word. -/
def indexedLines (t : Text) : List IndexedLine :=
  ((indexLines t).zipIdx 1).filterMap fun (line, number) =>
    match (words line).map lower with
    | [] => none
    | found => some ⟨number, line, found⟩

/-- Where the words of a text are. -/
structure Positions where
  /-- For each word the numbers of its lines, in increasing order. -/
  terms : List (Text × List Nat)
  /-- The lines that hold a word, by their numbers. -/
  lines : List (Nat × Text)
deriving DecidableEq, Repr

namespace Positions

/-- The index of a text. -/
def ofText (t : Text) : Positions :=
  let lines := indexedLines t
  let vocabulary := Text.sortedSet (lines.flatMap (·.words))
  { terms := vocabulary.map fun word =>
      (word, (lines.filter (·.words.contains word)).map (·.number))
    lines := lines.map fun line => (line.number, line.text) }

/-- The index as a value of two tables. -/
def toJson (p : Positions) : Json :=
  let numbersJson (numbers : List Nat) : Json := .arr (numbers.map fun n => .int (n : Nat))
  .obj [
    ("terms", .obj (p.terms.map fun (word, numbers) => (word, numbersJson numbers))),
    ("lines", .obj (p.lines.map fun (number, line) => (Text.ofNat number, .str line)))]

/-- The index as stored bytes. -/
def encode (p : Positions) : Bytes :=
  Utf8.encode p.toJson.write

end Positions

end HitListing
