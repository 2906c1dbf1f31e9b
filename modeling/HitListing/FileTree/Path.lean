import HitListing.Text

/-!
# Paths

A path in normal form: its root, if it has one, and its segments.  Empty
segments and single dots are dropped; double dots stay, because a link may lie
before them.
-/

namespace HitListing

/-- A path in normal form. -/
structure Path where
  /-- Nothing, one slash or two. -/
  root : Text
  segments : List Text
deriving DecidableEq, Repr, Inhabited

namespace Path

/-- The path that a text names.  More than two slashes at the front count as
one. -/
def ofText (t : Text) : Path where
  root :=
    let slashes := t.takeWhile (· = '/')
    if slashes.length ≤ 2 then slashes else ['/']
  segments := (Text.splitAtChar '/' t).filter fun s => s ≠ [] && s ≠ ['.']

/-- Whether a path starts from the root. -/
def isAbsolute (p : Path) : Bool :=
  p.root ≠ []

/-- One path followed from another.  An absolute path starts afresh. -/
def append (p q : Path) : Path :=
  if q.isAbsolute then q else ⟨p.root, p.segments ++ q.segments⟩

/-- The path that a text names, followed from another path. -/
def child (p : Path) (t : Text) : Path :=
  p.append (.ofText t)

/-- The path as text; the empty path is a single dot. -/
def toText (p : Path) : Text :=
  match p.root ++ Text.join ['/'] p.segments with
  | [] => ['.']
  | t => t

end Path

end HitListing
