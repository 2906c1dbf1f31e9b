import HitListing.Console.Layout

/-!
# Drawn tables

A table drawn on the console with box characters: a header between heavy lines, and
below it the lines of each row.  A column is as wide as its widest cell, with a
blank on each side.  If the console is too narrow for that, the widest columns give
way and their cells go over several lines.
-/

namespace HitListing

/-- A column of console texts below a header. -/
structure Column where
  header : Text
  cells : List Text
deriving DecidableEq, Repr

/-- A table of console texts. -/
structure Table where
  columns : List Column
deriving DecidableEq, Repr

namespace Table

/-- The characters of a horizontal line: at its left end, along it, where it
meets a line between columns, and at its right end. -/
structure Rule where
  left : Char
  along : Char
  between : Char
  right : Char

/-- The line above the header. -/
def topRule : Rule := ⟨'┏', '━', '┳', '┓'⟩

/-- The line below the header. -/
def headerRule : Rule := ⟨'┡', '━', '╇', '┩'⟩

/-- The line below the last row. -/
def bottomRule : Rule := ⟨'└', '─', '┴', '┘'⟩

/-! ## The widths of columns -/

/-- The number of cells that the widest line of a text takes. -/
def widest (t : Text) : Nat :=
  (indexLines t).foldl (fun w line => max w line.cells) 0

/-- The width that a column asks for, without the blanks at its sides. -/
def wantedWidth (c : Column) : Nat :=
  c.cells.foldl (fun w cell => max w (widest cell)) (widest c.header)

/-- The number of cells that all columns together can have. -/
def room (columns : Nat) : Nat :=
  Console.lineWidth - (3 * columns + 1)

/-- A number divided by another, to the nearest number, and half to the even one. -/
def nearestQuotient (n d : Nat) : Nat :=
  let q := n / d
  let rest := n % d
  if 2 * rest < d || (2 * rest = d && q % 2 = 0) then q else q + 1

/-- Take cells from the columns of a width, which share the loss but lose no more
than `limit` each; there are `count` of them left, and `loss` cells to take. -/
def takeFrom (width limit : Nat) : Nat → Nat → List Nat → List Nat
  | _, _, [] => []
  | loss, count, w :: rest =>
    if w = width then
      let share := min limit (nearestQuotient loss count)
      (w - share) :: takeFrom width limit (loss - share) (count - 1) rest
    else w :: takeFrom width limit loss count rest

/-- Columns after the widest of them lost cells, down to the next widest at most. -/
def giveWay (excess : Nat) (widths : List Nat) : List Nat :=
  let first := widths.foldl max 0
  let second := (widths.filter (· ≠ first)).foldl max 0
  takeFrom first (min excess (first - second)) excess (widths.filter (· = first)).length widths

/-- Columns made to fit, in at most `steps` steps. -/
def shrink (room : Nat) : Nat → List Nat → List Nat
  | 0, widths => widths
  | steps + 1, widths =>
    let total := widths.foldl (· + ·) 0
    if total ≤ room then widths else shrink room steps (giveWay (total - room) widths)

/-- The widths of the columns, without the blanks at their sides. -/
def widths (t : Table) : List Nat :=
  let limit := room t.columns.length
  let wanted := t.columns.map fun c => min (limit + 2 * (t.columns.length - 1)) (wantedWidth c)
  shrink limit (wanted.foldl (· + ·) 0) wanted

/-! ## Drawing -/

/-- A horizontal line through columns of the given widths. -/
def Rule.draw (r : Rule) (widths : List Nat) : Text :=
  r.left :: Text.join [r.between] (widths.map fun w => List.replicate (w + 2) r.along) ++
    [r.right, '\n']

/-- A cell filled up to a width.  A joiner at its end takes the first blank into
itself, for which another one is put behind. -/
def fillCell (width : Nat) (cell : Text) : Text :=
  Text.padCells width (Text.padCells width cell)

/-- A line of cells, with the given character between columns and at both
ends. -/
def drawLine (edge : Char) (widths : List Nat) (line : List Text) : Text :=
  let cells := List.zipWith (fun w cell => ' ' :: fillCell w cell ++ [' ', edge]) widths line
  edge :: cells.flatten ++ ['\n']

/-- A row of cells, each in as many lines as it needs. -/
def drawRow (edge : Char) (widths : List Nat) (row : List Text) : Text :=
  let columns := List.zipWith (fun w cell => Console.layOut .cutOff w cell) widths row
  let height := columns.foldl (fun h column => max h column.length) 0
  (List.range height).flatMap fun i =>
    drawLine edge widths (columns.map fun column => column.getD i [])

/-- A column without tags in its cells. -/
def plainColumn (c : Column) : Except Fault Column := do
  return ⟨← Console.plainText c.header, ← c.cells.mapM Console.plainText⟩

/-- The number of rows below the header. -/
def height (t : Table) : Nat :=
  t.columns.foldl (fun h c => max h c.cells.length) 0

/-- The cells of a row. -/
def row (t : Table) (i : Nat) : List Text :=
  t.columns.map fun c => c.cells.getD i []

/-- The drawing of a table. -/
def draw (t : Table) : Except Fault Text := do
  let t : Table := ⟨← t.columns.mapM plainColumn⟩
  let ws := t.widths
  return topRule.draw ws ++ drawRow '┃' ws (t.columns.map (·.header)) ++ headerRule.draw ws ++
    (List.range t.height).flatMap (fun i => drawRow '│' ws (t.row i)) ++ bottomRule.draw ws

end Table

end HitListing
