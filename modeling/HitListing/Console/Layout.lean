import HitListing.Console.PlainText
import HitListing.Text.Cluster
import HitListing.Text.Lines

/-!
# Lines of a console

A text is laid out in lines of a fixed number of cells.  A line ends where the next
word would not fit; the blanks behind a word stay with it, and those beyond the
width are left out.  A word that is longer than a line is folded into several, or
cut off.
-/

namespace HitListing.Console

/-- The number of cells in a line of the console. -/
def lineWidth : Nat := 200

/-- The number of cells between tab stops. -/
def tabStop : Nat := 8

/-- What happens to a word that is longer than a line. -/
inductive Overflow where
  /-- It goes on in the next line. -/
  | fold
  /-- Its end is left out, and an ellipsis stands for it. -/
  | cutOff
deriving DecidableEq, Repr

/-! ## Tabs -/

/-- Pieces between tabs, the first of which begins at a cell, with blanks up to the
next tab stop for each tab, but at least one. -/
def fillTabsFrom (cell : Nat) : List Text → Text
  | [] => []
  | [last] => last
  | piece :: rest =>
    let stop := cell + Text.cells (piece ++ [' '])
    let gap := (tabStop - stop % tabStop) % tabStop
    piece ++ ' ' :: List.replicate gap ' ' ++ fillTabsFrom (stop + gap) rest

/-- A line with blanks for its tabs. -/
def fillTabs (line : Text) : Text :=
  fillTabsFrom 0 (Text.splitAtChar '\t' line)

/-! ## Breaking lines -/

/-- Lines under way: those that are complete, in reverse order, and the one that
grows, with the cell that it has reached. -/
structure Lines where
  complete : List Text
  current : Text
  cell : Nat
deriving DecidableEq, Repr

namespace Lines

/-- No lines yet. -/
def start : Lines := ⟨[], [], 0⟩

/-- Whether nothing has been laid out yet. -/
def isStart (l : Lines) : Bool :=
  l.complete.isEmpty && l.current.isEmpty

/-- Lines with a text as a new one.  The first text begins no new line. -/
def newLine (l : Lines) (t : Text) : Lines :=
  ⟨if l.isStart then [] else l.current :: l.complete, t, t.cells⟩

/-- Lines with a word, which may have blanks around it. -/
def add (o : Overflow) (width : Nat) (l : Lines) (word : Text) : Lines :=
  let cells := Text.cells (Text.dropEndWhile isBlank word)
  if l.cell + cells ≤ width then ⟨l.complete, l.current ++ word, l.cell + word.cells⟩
  else if width < cells then
    match o with
    | .fold => (Cluster.chop width (Cluster.ofText word)).foldl newLine l
    | .cutOff => l.newLine word
  else l.newLine word

/-- All lines in order. -/
def toList (l : Lines) : List Text :=
  (l.current :: l.complete).reverse

end Lines

/-- A text without line feeds broken into lines. -/
def breakLine (o : Overflow) (width : Nat) (t : Text) : List Text :=
  (t.spaced.foldl (Lines.add o width) .start).toList

/-! ## Fitting lines -/

/-- A line without the blanks at its end that are beyond the width. -/
def dropExcess (width : Nat) (line : Text) : Text :=
  let blanks := (line.reverse.takeWhile isBlank).length
  line.take (line.length - min blanks (line.length - width))

/-- A line that takes no more cells than the width. -/
def fit (o : Overflow) (width : Nat) (line : Text) : Text :=
  if line.cells ≤ width then line
  else
    match o with
    | .fold => Cluster.takeCells width (Cluster.ofText line)
    | .cutOff => Cluster.takeCells (width - 1) (Cluster.ofText line) ++ ['…']

/-- A plain text in lines of at most `width` cells. -/
def layOut (o : Overflow) (width : Nat) (t : Text) : List Text :=
  (Text.splitAtChar '\n' t).flatMap fun line =>
    (breakLine o width (fillTabs line)).map fun l => fit o width (dropExcess width l)

/-- What the console prints for a text, each line with its line feed. -/
def print (t : Text) : Except Fault Text := do
  let lines := layOut .fold lineWidth (← plainText t)
  return lines.flatMap (· ++ ['\n'])

end HitListing.Console
