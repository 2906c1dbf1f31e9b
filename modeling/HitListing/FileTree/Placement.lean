import HitListing.FileTree

/-!
# Placing files

Writing a file below the working directory.  Directories that are missing on the
way are made.  What is written outside of the working directory is not kept in
the tree.
-/

namespace HitListing

/-- The directory that a path lies in. -/
def Path.parent (p : Path) : Path :=
  ⟨p.root, p.segments.dropLast⟩

namespace FileTree

/-- Follow segments from a position and make the directories that are missing: the
tree with them, and where the segments lead.  `path` names the whole in faults. -/
def makeDirectories (path : Text) (tree : FileTree) :
    Position → List Text → Except Fault (FileTree × Position)
  | .file _, [] => .error .fileExists
  | p, [] => .ok (tree, p)
  | .file _, _ :: _ => .error (.notDirectory path)
  | .directory place, s :: rest =>
    if s = "..".toList then makeDirectories path tree (.directory place.dropLast) rest
    else if segmentLimit < (Utf8.encode s).length then .error .nameTooLong
    else
      let below := place ++ [s]
      match tree.lookIn below with
      | some next => makeDirectories path tree next rest
      | none =>
        let tree := { tree with made := tree.made ++ [below] }
        makeDirectories path tree (.directory below) rest

/-- The segments below the working directory at which a file of a name in a position
can be written, if it lies there.  `path` names the place in faults. -/
def place (tree : FileTree) (path : Text) :
    Position → Option Text → Except Fault (Option (List Text))
  | _, none => .error (.isDirectory path)
  | .file _, some _ => .ok none
  | .directory above, some name =>
    if name = "..".toList then .error (.isDirectory path)
    else if segmentLimit < (Utf8.encode name).length then .error .nameTooLong
    else
      let below := above ++ [name]
      match tree.lookIn below with
      | some (.directory _) => .error (.isDirectory path)
      | _ =>
        .ok (if tree.home.isPrefixOf below then some (below.drop tree.home.length) else none)

/-- A tree with a file at a place, instead of the one that was there. -/
def put (tree : FileTree) (f : File) : FileTree :=
  { tree with files := tree.files.filter (·.segments ≠ f.segments) ++ [f] }

/-- A tree after content was written at a path.  The file counts as modified at
the beginning of 1970. -/
def write (tree : FileTree) (p : Path) (content : Bytes) : Except Fault FileTree := do
  let (tree, position) ← tree.makeDirectories p.parent.toText (tree.start p) p.parent.segments
  match ← tree.place p.toText position p.segments.getLast? with
  | some segments => return tree.put ⟨segments, content, 0⟩
  | none => return tree

end FileTree

end HitListing
