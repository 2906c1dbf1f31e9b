import HitListing.Highlight
import HitListing.Text.Blank

/-!
# Excerpts

The excerpt of a text is a window of consecutive words that holds as many
matches as any window of its width, the leftmost such window.  It is shown with
its matches in bold, with single spaces for runs of blanks, and with dots where
text is left out.
-/

namespace HitListing

/-- What excerpts are made by: the terms and the width of the window. -/
structure Summarizer where
  terms : Terms
  window : Int
deriving DecidableEq, Repr

namespace Summarizer

/-- The width of a window unless another is asked for. -/
def defaultWindow : Int := 20

/-- Whether a word is among the terms.  NULs at the end of a term do not
count. -/
def marks (s : Summarizer) (word : Text) : Bool :=
  (s.terms.all.map (Text.dropEndWhile (· = '\x00'))).contains (lower word)

/-! ## The window -/

/-- The number of marks in each window of the given width, from left to
right. -/
def windowCounts (width : Nat) : List Bool → List Nat
  | [] => []
  | m :: rest =>
    let window := (m :: rest).take width
    if window.length = width then window.count true :: windowCounts width rest else []

/-- The index and the value of the first largest number. -/
def firstMax : List Nat → Nat × Nat
  | [] => (0, 0)
  | [n] => (0, n)
  | n :: rest =>
    let (i, best) := firstMax rest
    if best ≤ n then (0, n) else (i + 1, best)

/-- The first word of the densest window. -/
def start (width : Nat) (marked : List Bool) : Nat :=
  (firstMax (windowCounts width marked)).1

/-- The pieces from the word with the given index on. -/
def fromWord : Nat → List Piece → List Piece
  | _, [] => []
  | n, p :: rest =>
    if p.isWord then
      match n with
      | 0 => p :: rest
      | n + 1 => fromWord n rest
    else fromWord n rest

/-- The pieces up to and including the given number of words. -/
def throughWord : Nat → List Piece → List Piece
  | 0, _ => []
  | _, [] => []
  | n + 1, p :: rest => p :: throughWord (if p.isWord then n else n + 1) rest

/-! ## Showing it -/

/-- A text with a single space for each run of blanks. -/
def squeezeBlanks : Text → Text
  | [] => []
  | c :: rest =>
    if isBlank c then
      match rest with
      | d :: _ => if isBlank d then squeezeBlanks rest else ' ' :: squeezeBlanks rest
      | [] => [' ']
    else c :: squeezeBlanks rest

/-- A piece of the window. -/
def showPiece (s : Summarizer) (p : Piece) : Text :=
  if p.isWord then
    if s.marks p.text then Markup.bold p.text else Markup.escape p.text
  else Markup.escape (squeezeBlanks p.text)

/-- Dots where text is left out. -/
def dotsIf (left : Bool) : Text :=
  if left then "..." else ([] : Text)

/-- The excerpt of a text; empty if the text has no words. -/
def summarize (s : Summarizer) (t : Text) : Text :=
  let ps := pieces t
  let marked := (ps.filter (·.isWord)).map fun p => s.marks p.text
  let count := marked.length
  if count = 0 then []
  else
    let width := min (max s.window 1).toNat count
    let first := start width marked
    let shown := throughWord width (fromWord first ps)
    dotsIf (0 < first) ++ shown.flatMap s.showPiece ++ dotsIf (first + width < count)

end Summarizer

end HitListing
