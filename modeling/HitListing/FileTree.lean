import HitListing.Fault
import HitListing.FileTree.Path
import HitListing.Utf8

/-!
# File trees

The files that a request can see, below one working directory, and where that
lies.  A directory is there if a file lies below it, if it was made, or if it is
on the way to the working directory.

Looking up a path follows its segments, so that going through a file or through
a missing directory is noticed even if double dots lead back.
-/

namespace HitListing

/-- A file: where it lies below the working directory, what it holds, and when it
was modified, in nanoseconds since 1970. -/
structure File where
  segments : List Text
  content : Bytes
  modified : Int
deriving DecidableEq, Repr

/-- The files below the working directory. -/
structure FileTree where
  files : List File
  /-- The directories that were made, each by its segments from the root on. -/
  made : List (List Text)
  /-- Where the working directory lies, by its segments from the root on. -/
  home : List Text
  /-- The files that must not be read, each by its segments below the working directory. -/
  locked : List (List Text)
deriving DecidableEq, Repr

/-- What a path leads to. -/
inductive FileEntry where
  | file (f : File)
  /-- A file that must not be read; only when it was modified can be seen. -/
  | locked (modified : Int)
  | directory
deriving DecidableEq, Repr

namespace FileTree

/-- The tree of some files, all of which may be read, below a directory at the root. -/
def ofFiles (files : List File) : FileTree := ⟨files, [], ["work".toList], []⟩

/-- Whether there is a directory at some segments from the root on. -/
def hasDirectory (tree : FileTree) (place : List Text) : Bool :=
  place.isPrefixOf tree.home || tree.made.any (place.isPrefixOf ·) ||
    tree.files.any fun f => place.isPrefixOf (tree.home ++ f.segments)

/-- The length in bytes from which on a path is too long. -/
def pathLimit : Nat := 4096

/-- The largest length in bytes of a segment. -/
def segmentLimit : Nat := 255

/-- The length in bytes from which on a file is too large: it is a signed number of
64 bits. -/
def sizeLimit : Nat := 9223372036854775808

/-- Where following a path has led. -/
inductive Position where
  /-- A directory, by its segments from the root on. -/
  | directory (place : List Text)
  | file (f : File)
deriving DecidableEq, Repr

/-- What lies at some segments from the root on. -/
def lookIn (tree : FileTree) (place : List Text) : Option Position :=
  match tree.files.find? fun f => tree.home ++ f.segments = place with
  | some f => some (.file f)
  | none => if tree.hasDirectory place then some (.directory place) else none

/-- Follow segments from a position; `path` names the whole in faults.  Nothing lies
above the root, which double dots lead back to. -/
def follow (tree : FileTree) (path : Text) : Position → List Text → Except Fault Position
  | p, [] => .ok p
  | .file _, _ :: _ => .error (.notDirectory path)
  | .directory place, s :: rest =>
    if s = "..".toList then follow tree path (.directory place.dropLast) rest
    else if segmentLimit < (Utf8.encode s).length then .error .nameTooLong
    else
      match tree.lookIn (place ++ [s]) with
      | some next => follow tree path next rest
      | none => .error (.fileMissing path)

/-- Where following a path starts: at the root or in the working directory. -/
def start (tree : FileTree) (p : Path) : Position :=
  .directory (if p.isAbsolute then [] else tree.home)

/-- How a file is found. -/
def entry (tree : FileTree) (f : File) : Except Fault FileEntry :=
  if sizeLimit ≤ f.content.length then .error .refused
  else if tree.locked.contains f.segments then .ok (.locked f.modified)
  else .ok (.file f)

/-- What lies at a path. -/
def lookup (tree : FileTree) (p : Path) : Except Fault FileEntry :=
  let path := p.toText
  if path.contains '\x00' then .error .badValue
  else if pathLimit ≤ (Utf8.encode path).length then .error .nameTooLong
  else
    match tree.follow path (tree.start p) p.segments with
    | .ok (.file f) => tree.entry f
    | .ok (.directory _) => .ok .directory
    | .error e => .error e

/-- The content of the file at a path. -/
def readBytes (tree : FileTree) (p : Path) : Except Fault Bytes := do
  match ← tree.lookup p with
  | .file f => return f.content
  | .locked _ => throw .refused
  | .directory => throw (.isDirectory p.toText)

/-- When the file at a path was modified; a directory has no fixed time. -/
def modified? (tree : FileTree) (p : Path) : Except Fault (Option Int) := do
  match ← tree.lookup p with
  | .file f => return some f.modified
  | .locked modified => return some modified
  | .directory => return none

end FileTree

end HitListing
