import HitListing.Fault
import HitListing.Utf8

/-!
# Hits

The stored fields of a document that a search has found.
-/

namespace HitListing

/-- What kind of content a document has. -/
inductive Genre where
  /-- Source text with a cross-reference. -/
  | xrefable
  | html
  /-- Plain text. -/
  | plain
  | other
deriving DecidableEq, Repr

namespace Genre

/-- The letter that the index stores for a genre. -/
def code : Genre → Text
  | .xrefable => "x"
  | .html => "h"
  | .plain => "p"
  | .other => "o"

/-- The name of a genre. -/
def name : Genre → Text
  | .xrefable => "XREFABLE"
  | .html => "HTML"
  | .plain => "PLAIN"
  | .other => "OTHER"

/-- The genre with a stored code; what is not known is other content. -/
def ofCode (stored : Option Text) : Genre :=
  ([Genre.xrefable, .html, .plain, .other].find? fun g => stored = some g.code).getD .other

end Genre

/-- A document that a search has found, with its stored fields. -/
structure Hit where
  id : Int
  path : Option Text
  genre : Genre
  date : Option Text
  tags : Option Bytes
  scopes : Option Bytes
  positions : Option Bytes
deriving DecidableEq, Repr

/-- The directory of a path: all before its last slash. -/
def parentOf (path : Text) : Text :=
  ((Text.cutAtLast? '/' path).map (·.1)).getD []

/-- The base name of a path: all behind its last slash. -/
def nameOf (path : Text) : Text :=
  ((Text.cutAtLast? '/' path).map (·.2)).getD path

namespace Hit

/-- The directory of a hit. -/
def parent (h : Hit) : Except Fault Text :=
  match h.path with
  | some path => .ok (parentOf path)
  | none => .error (.noPath h.id)

/-- The base name of a hit. -/
def name (h : Hit) : Except Fault Text :=
  match h.path with
  | some path => .ok (nameOf path)
  | none => .error (.noPath h.id)

end Hit

end HitListing
