import HitListing.Text.CellWidth

/-!
# Clusters

A cluster is a character with all that takes no cells of its own behind it.  A text
is cut between its clusters only, so that no mark loses the character that it
stands on.
-/

namespace HitListing

/-- A cluster: its text, and how many cells that takes. -/
structure Cluster where
  text : Text
  cells : Nat
deriving DecidableEq, Repr

namespace Cluster

/-- Clusters in reverse order after a character with some cells was taken into the
last of them.  A character with none to stand on takes no cells. -/
def extend (c : Char) (cells : Nat) : List Cluster → List Cluster
  | [] => [⟨[c], 0⟩]
  | k :: before => ⟨k.text ++ [c], k.cells + cells⟩ :: before

/-- The clusters of a text in reverse order, behind those before it.  The picture
selector can still change the character `last`, if there is one.  The first
character belongs to the last cluster if it is joined to that. -/
def collect (before : List Cluster) (last : Option Char) (joined : Bool) : Text → List Cluster
  | [] => before
  | c :: rest =>
    if joined then collect (extend c 0 before) last false rest
    else if c = joiner then collect (extend c 0 before) last (!before.isEmpty) rest
    else if c = pictureSelector then
      let added := selectedCells last
      collect (extend c added before) (if added = 0 then last else none) false rest
    else
      match cellWidth c with
      | 0 => collect (extend c 0 before) last false rest
      | n => collect (⟨[c], n⟩ :: before) (some c) false rest

/-- The clusters of a text. -/
def ofText (t : Text) : List Cluster :=
  (collect [] none false t).reverse

/-- The text of clusters. -/
def join (clusters : List Cluster) : Text :=
  clusters.flatMap (·.text)

/-- As many clusters as fit into a number of cells.  A blank stands for half of a
wide one. -/
def takeCells : Nat → List Cluster → Text
  | 0, _ => []
  | _, [] => []
  | n, k :: rest =>
    if k.cells ≤ n then k.text ++ takeCells (n - k.cells) rest else List.replicate n ' '

/-- Clusters cut into lines of at most `width` cells, behind a line with some
clusters in reverse order.  A last line without cells is left out. -/
def chopAfter (width : Nat) (line : List Cluster) (taken : Nat) : List Cluster → List Text
  | [] => if taken = 0 then [] else [join line.reverse]
  | k :: rest =>
    if taken + k.cells ≤ width then chopAfter width (k :: line) (taken + k.cells) rest
    else join line.reverse :: chopAfter width [k] k.cells rest

/-- Clusters cut into lines of at most `width` cells. -/
def chop (width : Nat) (clusters : List Cluster) : List Text :=
  chopAfter width [] 0 clusters

end Cluster

end HitListing
