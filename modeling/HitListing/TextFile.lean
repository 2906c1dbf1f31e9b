import HitListing.Calendar.IndexDate
import HitListing.FileTree
import HitListing.Gzip
import HitListing.Text.Lines

/-!
# Text files

Reading a file as text: a byte order mark at the front is dropped, the bytes are
read as UTF-8, and each line ends at a single line feed.  Source files are read
leniently, cached ones strictly.

A file is read in chunks.  Reading only its beginning therefore does not notice
what is wrong far behind it.
-/

namespace HitListing.TextFile

/-- How bytes that are no UTF-8 are treated. -/
inductive Decoding where
  | strict
  | lenient
deriving DecidableEq, Repr

/-- The byte order mark. -/
def mark : Bytes :=
  [0xef, 0xbb, 0xbf]

/-- Bytes without the mark at their front.  Bytes that only begin a mark count
as nothing. -/
def dropMark (bytes : Bytes) : Bytes :=
  if bytes.length < 3 ∧ bytes.isPrefixOf mark then []
  else if mark.isPrefixOf bytes then bytes.drop 3
  else bytes

/-- The text of segments. -/
def textOf (d : Decoding) (segments : List Utf8.Segment) : Except Fault Text :=
  match d with
  | .lenient => .ok (segments.map Utf8.Segment.shown)
  | .strict =>
    match segments.mapM Utf8.Segment.char? with
    | some t => .ok t
    | none => .error .badUtf8

/-- The text of a whole file. -/
def decode (d : Decoding) (bytes : Bytes) : Except Fault Text :=
  (textOf d (Utf8.segments (dropMark bytes))).map normalizeNewlines

/-- A carriage return at the end waits for what follows. -/
def withoutPending (t : Text) : Text :=
  if t.getLast? = some '\r' then t.dropLast else t

/-- The text of the beginning of a file, as far as no further byte can change
it. -/
def decodeSettled (d : Decoding) (bytes : Bytes) : Except Fault Text :=
  (textOf d (Utf8.settled (dropMark bytes))).map fun t => normalizeNewlines (withoutPending t)

/-! ## Chunks -/

/-- The number of bytes that one read asks for at least. -/
def chunkSize : Nat := 8192

/-- The whole text of a stream, after the bytes in `before`. -/
def readAllFrom (d : Decoding) : (fuel : Nat) → Bytes → Stream → Except Fault Text
  | 0, before, _ => decode d before
  | fuel + 1, before, s => do
    let (chunk, s) ← s.read chunkSize
    if chunk = [] then decode d before
    else
      let _ ← decodeSettled d (before ++ chunk)
      readAllFrom d fuel (before ++ chunk) s

/-- The whole text of a stream.  Each read takes at least a byte, so that the
number of bytes bounds the number of reads. -/
def readAll (d : Decoding) (s : Stream) : Except Fault Text :=
  readAllFrom d (s.size + 1) [] s

/-- The number of bytes to ask for when `wanted` characters are missing and the
last chunk gave `chars` characters for its bytes. -/
def request (wanted bytes chars : Nat) : Nat :=
  if chars = 0 then max chunkSize wanted else max chunkSize (max wanted (wanted * bytes / chars))

/-- The beginning of the text of a stream, with at least `count` characters if
there are so many.  `before` holds the bytes read so far, `known` the number of
characters they gave, `lastBytes` and `lastChars` the size of the last chunk. -/
def readStartFrom (d : Decoding) (count : Nat) :
    (fuel : Nat) → (before : Bytes) → (known lastBytes lastChars : Nat) → Stream →
      Except Fault Text
  | 0, before, _, _, _, _ => decode d before
  | fuel + 1, before, known, lastBytes, lastChars, s => do
    let (chunk, s) ← s.read (request (count - known) lastBytes lastChars)
    if chunk = [] then decode d before
    else
      let t ← decodeSettled d (before ++ chunk)
      if count ≤ t.length then return t
      else readStartFrom d count fuel (before ++ chunk) t.length chunk.length (t.length - known) s

/-- The first `count` characters of a stream. -/
def readStart (d : Decoding) (count : Nat) (s : Stream) : Except Fault Text :=
  (readStartFrom d count (s.size + 1) [] 0 0 0 s).map (·.take count)

/-! ## The two kinds of files -/

/-- The text of a source file.  Reading leniently never fails, so that chunks
make no difference. -/
def source (tree : FileTree) (root : Path) (path : Text) : Except Fault Text := do
  let bytes ← tree.readBytes (root.child path)
  decode .lenient bytes

/-- The path of a cached file. -/
def cachedPath (base : Path) (path : Text) (compressed : Bool) : Path :=
  base.child (if compressed then path ++ ".gz" else path)

/-- The stream of a cached file. -/
def cached (tree : FileTree) (base : Path) (path : Text) (compressed : Bool) :
    Except Fault Stream := do
  let bytes ← tree.readBytes (cachedPath base path compressed)
  return if compressed then Gzip.stream bytes else .ofBytes bytes

/-- The index date of the source file at a path; a directory has none that
stays. -/
def modifiedDate (tree : FileTree) (root : Path) (path : Text) : Except Fault (Option Text) := do
  match ← tree.modified? (root.child path) with
  | some ns => return some (← Calendar.modifiedIndexDate ns)
  | none => return none

end HitListing.TextFile
