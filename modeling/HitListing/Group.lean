import HitListing.Draft
import HitListing.Hit
import HitListing.Json

/-!
# Directory groups

The hits of a page, gathered by directory.  The directories stand in the order
in which they first appear among the hits, and the hits of a directory keep
their order.
-/

namespace HitListing

/-- The id of a document, as a request gives it.  The index compares any value
with its integer ids. -/
abbrev DocumentId := Json

/-- How a document is read from the index. -/
abbrev Reader := DocumentId → Except Fault Hit

/-- The hits of one directory. -/
structure DirectoryGroup where
  directory : Text
  ids : List DocumentId
deriving DecidableEq

namespace DirectoryGroup

/-- Add a hit to the group of its directory, or begin a group at the end. -/
def insert (directory : Text) (id : DocumentId) : List DirectoryGroup → List DirectoryGroup
  | [] => [⟨directory, [id]⟩]
  | g :: rest =>
    if g.directory = directory then ⟨g.directory, g.ids ++ [id]⟩ :: rest
    else g :: insert directory id rest

end DirectoryGroup

/-- The hits from `start` up to but not including `stop`.  Bounds outside of the
list are moved to its ends. -/
def hitRange (hits : List DocumentId) (start stop : Int) : List DocumentId :=
  (hits.take stop.toNat).drop start.toNat

/-- Gather hits, after the groups there are already. -/
def gather (read : Reader) (groups : List DirectoryGroup) :
    List DocumentId → Draft (List DirectoryGroup)
  | [] => return groups
  | id :: rest => do
    let hit ← Draft.ofExcept (read id)
    match hit.path with
    | none =>
      Draft.note (.noPath id.plain)
      gather read groups rest
    | some path => gather read (DirectoryGroup.insert (parentOf path) id groups) rest

/-- The groups of a range of hits.  A document without a path is noted and left
out. -/
def groupByDirectory (read : Reader) (hits : List DocumentId) (start stop : Int) :
    Draft (List DirectoryGroup) :=
  gather read [] (hitRange hits start stop)

end HitListing
