import HitListing.Calendar.Iso
import HitListing.FileTree
import HitListing.Store
import HitListing.StoredTable

/-!
# Index files

An index on disk: the stored documents, the moment as of which they are shown,
and a copy of the files that they were made from.  It is a JSON object, in which
bytes are written in hexadecimal digits.  An empty file is an index without
documents.
-/

namespace HitListing

/-! ## Bytes in digits -/

/-- Bytes in hexadecimal digits, two for each. -/
def toHex (bytes : Bytes) : Text :=
  bytes.flatMap fun b => Text.hexDigits 2 b.toNat

/-- The bytes that hexadecimal digits stand for. -/
def ofHex? : Text → Option Bytes
  | [] => some []
  | a :: b :: rest => do
    let x ← Json.hexValue? a
    let y ← Json.hexValue? b
    let bytes ← ofHex? rest
    return UInt8.ofNat (16 * x + y) :: bytes
  | _ => none

/-- The content of an index on disk. -/
structure IndexFile where
  moment : Calendar.Moment
  rows : List Row
  files : List File
deriving DecidableEq, Repr

namespace IndexFile

/-- The beginning of 1970. -/
def epoch : Calendar.Moment :=
  ⟨⟨1970, 1, 1⟩, 0, 0, 0, 0, some 0⟩

/-- The index without documents. -/
def empty : IndexFile := ⟨epoch, [], []⟩

/-- The documents of an index, ready to be looked up. -/
def store (x : IndexFile) : Store :=
  .ready x.rows

/-! ## Writing -/

/-- A text that may be absent. -/
def ofText : Option Text → Json
  | some t => .str t
  | none => .null

/-- Bytes that may be absent. -/
def ofBlob (b : Option Bytes) : Json :=
  ofText (b.map toHex)

/-- A stored document as JSON. -/
def ofRow (r : Row) : Json :=
  .obj [("id", .int r.id), ("path", ofText r.path), ("genre", ofText r.genre),
    ("date", ofText r.date), ("tags", ofBlob r.tags), ("scopes", ofBlob r.scopes),
    ("positions", ofBlob r.positions)]

/-- A file as JSON. -/
def ofFile (f : File) : Json :=
  .obj [("path", .str (Text.join ['/'] f.segments)), ("content", .str (toHex f.content)),
    ("modified", .int f.modified)]

/-- An index as JSON. -/
def toJson (x : IndexFile) : Json :=
  .obj [("moment", .str x.moment.iso), ("documents", .arr (x.rows.map ofRow)),
    ("files", .arr (x.files.map ofFile))]

/-- The bytes of an index. -/
def toBytes (x : IndexFile) : Bytes :=
  Utf8.encode x.toJson.write

/-! ## Reading -/

/-- A field that holds a text or is absent. -/
def textField? (key : Text) (fields : List (Text × Json)) : Option (Option Text) :=
  match Json.lookup key fields with
  | some (.str t) => some (some t)
  | some .null => some none
  | none => some none
  | _ => none

/-- A field that holds bytes or is absent. -/
def blobField? (key : Text) (fields : List (Text × Json)) : Option (Option Bytes) := do
  match ← textField? key fields with
  | some t => return some (← ofHex? t)
  | none => return none

/-- A field that holds an integer. -/
def intField? (key : Text) (fields : List (Text × Json)) : Option Int :=
  match Json.lookup key fields with
  | some (.int n) => some n
  | _ => none

/-- A field that holds a list or is absent. -/
def listField? (key : Text) (fields : List (Text × Json)) : Option (List Json) :=
  match Json.lookup key fields with
  | some (.arr items) => some items
  | none => some []
  | _ => none

/-- The stored document of an entry. -/
def toRow? : Json → Option Row
  | .obj fields => do
    let id ← intField? "id" fields
    let path ← textField? "path" fields
    let genre ← textField? "genre" fields
    let date ← textField? "date" fields
    let tags ← blobField? "tags" fields
    let scopes ← blobField? "scopes" fields
    let positions ← blobField? "positions" fields
    return ⟨id, path, genre, date, tags, scopes, positions⟩
  | _ => none

/-- The file of an entry. -/
def toFile? : Json → Option File
  | .obj fields => do
    let path ← (← textField? "path" fields)
    let content ← (← blobField? "content" fields)
    let modified ← intField? "modified" fields
    return ⟨(Path.ofText path).segments, content, modified⟩
  | _ => none

/-- The index that a JSON value stands for. -/
def ofJson? : Json → Option IndexFile
  | .obj fields => do
    let moment ← (← textField? "moment" fields)
    let moment ← (Calendar.Iso.readUniversal moment).toOption
    let rows ← (← listField? "documents" fields).mapM toRow?
    let files ← (← listField? "files" fields).mapM toFile?
    return ⟨moment, rows, files⟩
  | _ => none

/-- The index that the bytes of a file hold. -/
def ofBytes : Bytes → Except Fault IndexFile
  | [] => .ok empty
  | bytes =>
    match Json.ofBytes bytes with
    | .ok j =>
      match ofJson? j with
      | some x => .ok x
      | none => .error .notIndex
    | .error _ => .error .notIndex

end IndexFile

end HitListing
