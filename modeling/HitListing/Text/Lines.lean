import HitListing.Text

/-!
# Lines

Two rules cut a text into lines.  The index counts a line break at every
character that Unicode lets end a line.  Reading a file first turns each
carriage return, alone or before a line feed, into a line feed, and then ends
lines at line feeds alone.

The last function lays a line out in columns, with tabs filled up by spaces.
-/

namespace HitListing

/-- Whether the index ends a line at the character. -/
def isLineBreak (c : Char) : Bool :=
  c = '\n' || c = '\r' || c = '\x0b' || c = '\x0c' || c = '\x1c' || c = '\x1d' || c = '\x1e' ||
    c = '\u0085' || c = '\u2028' || c = '\u2029'

/-- The lines of a text as the index counts them, without their breaks. -/
def indexLines : Text → List Text
  | [] => []
  | '\r' :: '\n' :: rest => [] :: indexLines rest
  | c :: rest =>
    if isLineBreak c then [] :: indexLines rest
    else
      match indexLines rest with
      | [] => [[c]]
      | line :: more => (c :: line) :: more

/-- Each carriage return, together with a line feed behind it, becomes a line
feed. -/
def normalizeNewlines : Text → Text
  | [] => []
  | '\r' :: '\n' :: rest => '\n' :: normalizeNewlines rest
  | c :: rest => (if c = '\r' then '\n' else c) :: normalizeNewlines rest

/-- The lines of a text that end at line feeds, each with its line feed. -/
def feedLines : Text → List Text
  | [] => []
  | c :: rest =>
    if c = '\n' then [c] :: feedLines rest
    else
      match feedLines rest with
      | [] => [[c]]
      | line :: more => (c :: line) :: more

/-- A line without the carriage returns and line feeds at its end. -/
def dropNewline (line : Text) : Text :=
  Text.dropEndWhile (fun c => c = '\n' || c = '\r') line

/-- Fill each tab up with spaces to the next multiple of `width`, starting at
column `column`. -/
def expandTabsFrom (width : Nat) : Nat → Text → Text
  | _, [] => []
  | column, c :: rest =>
    if c = '\t' then
      let gap := width - column % width
      List.replicate gap ' ' ++ expandTabsFrom width (column + gap) rest
    else
      c :: expandTabsFrom width (if c = '\n' || c = '\r' then 0 else column + 1) rest

/-- A line laid out with tab stops every `width` columns. -/
def expandTabs (width : Nat) (line : Text) : Text :=
  expandTabsFrom width 0 line

end HitListing
