import HitListing.Definitions
import HitListing.Highlight
import HitListing.Json.Shown
import HitListing.Scopes
import HitListing.Uri

/-!
# Context lines

The lines of a file that match a query, each linked to its place in the file,
with its matches in bold, the type of what it defines, and the scope it lies in.
At most so many lines are shown; if there are more, a link to all of them comes
last.

Lines are given one by one, and a line may fail to be there.  Only the lines up
to the one behind the last that is shown are looked at.
-/

namespace HitListing

/-- What context lines are chosen by: the terms, whether only definitions
count, and how many lines are shown. -/
structure SourceContext where
  terms : Terms
  defSearch : Bool
  limit : Int
deriving DecidableEq, Repr

/-- A line with its number, or why it cannot be had. -/
abbrev NumberedLine := Except Fault (Json × Json)

/-- What the lines of one file are shown with: its path, the links they lead
to, its tables if there are any, and the tab width. -/
structure FileView where
  path : Text
  xrefBase : Text
  moreBase : Text
  definitions : Option Definitions
  scopes : Option Scopes
  tabSize : Int
deriving DecidableEq

/-- A value escaped for markup, which only a text can be. -/
def escapeValue : Json → Except Fault Text
  | .str t => .ok (Markup.escape t)
  | _ => .error .noMember

namespace SourceContext

/-- How many lines are shown unless it is said otherwise. -/
def defaultLimit : Int := 10

/-- The terms that the words of a line are matched against.  They are put in
lower case once more. -/
def lineTerms (c : SourceContext) : Terms :=
  .ofList c.terms.all

/-- The definitions on a line that its matching words name; none if there is no
table. -/
def definitionsOn (v : FileView) (number : Json) (matched : List Text) :
    Except Fault (List Definition) :=
  match v.definitions with
  | none => .ok []
  | some table => table.definitionsOf number (matched.map .str)

/-- Whether a line is to be shown: its text, and its definitions. -/
def select (c : SourceContext) (v : FileView) (number line : Json) :
    Except Fault (Option (Text × List Definition)) :=
  match line with
  | .str t =>
    match c.lineTerms.matched t with
    | [] => .ok none
    | matched => do
      let found ← definitionsOn v number matched
      if c.defSearch && found.isEmpty then return none else return some (t, found)
  | _ => .error .wrongKind

/-- The type of the first definition on a line. -/
def typeNote : List Definition → Except Fault Text
  | [] => .ok []
  | d :: _ => (escapeValue d.type).map fun t => " <i>" ++ t ++ "</i>"

/-- The scope that a line lies in. -/
def scopeNote (v : FileView) (number : Json) : Except Fault Text :=
  match v.scopes with
  | none => .ok []
  | some table => do
    match ← table.scopeAt number with
    | none => return []
    | some s =>
      let name ← escapeValue s.name
      return " <span class=\"scope\">in " ++ name ++ "()</span>"

/-- A line as it is shown, which its number must have a text for. -/
def block (c : SourceContext) (v : FileView) (number : Json) (line : Text)
    (found : List Definition) : Except Fault Text := do
  let place ← number.shown
  let highlighted ← c.lineTerms.highlight v.tabSize line
  let types ← typeNote found
  let enclosing ← scopeNote v number
  return "<a class=\"s\" href=\"" ++ v.xrefBase ++ "/" ++ Uri.encodePath v.path ++ "#" ++
    place ++ "\"><span class=\"l\">" ++ place ++ "</span> " ++ highlighted ++
    "</a>" ++ types ++ enclosing ++ "<br/>"

/-- The link to all lines. -/
def moreLink (c : SourceContext) (v : FileView) : Text :=
  "<a href=\"" ++ v.moreBase ++ "/" ++ Uri.encodePath v.path ++ "?t=" ++
    Uri.encodeValue (Text.join [' '] c.terms.all) ++ "\">[all...]</a>"

/-- The lines to be shown, after `shown` of them. -/
def renderFrom (c : SourceContext) (v : FileView) (shown : Nat) :
    List NumberedLine → Except Fault Text
  | [] => .ok []
  | item :: rest => do
    let (number, line) ← item
    match ← c.select v number line with
    | none => renderFrom c v shown rest
    | some (t, found) =>
      if (shown : Int) = c.limit then return c.moreLink v
      else
        let start ← c.block v number t found
        let more ← renderFrom c v (shown + 1) rest
        return start ++ more

/-- The lines to be shown, and a link if there are more. -/
def renderLines (c : SourceContext) (v : FileView) (lines : List NumberedLine) :
    Except Fault Text :=
  c.renderFrom v 0 lines

/-- The lines of a text, numbered from 1. -/
def numbered (t : Text) : List NumberedLine :=
  ((feedLines t).zipIdx 1).map fun (line, n) => .ok (.int (n : Nat), .str line)

end SourceContext

end HitListing
