import HitListing.Context
import HitListing.Hit
import HitListing.TextFile

/-!
# Context from the index

The context of a plain file from the line positions that the index stores, so
that the file need not be read.  The positions are trusted only while the file
has the date at which it was indexed; otherwise, and where they cannot be read,
the answer is that the file itself has to be looked at.
-/

namespace HitListing

/-- Why stored positions do not do. -/
inductive FallbackReason where
  | noPositions
  | unavailable
  | changed
  | unreadable
deriving DecidableEq, Repr

/-- The words for a reason. -/
def FallbackReason.text : FallbackReason → Text
  | .noPositions => "no stored line positions"
  | .unavailable => "source file unavailable"
  | .changed => "source changed since indexing"
  | .unreadable => "unreadable line positions"

/-- What the index gives: a fragment of markup, or a reason why not. -/
inductive StoredContext where
  | fragment (t : Text)
  | needsFallback (reason : FallbackReason)
deriving DecidableEq, Repr

namespace StoredContext

/-! ## Reading positions -/

/-- The two tables of stored positions, if they are there. -/
def tables? (bytes : Bytes) : Option (Json × Json) :=
  match Json.ofBytes bytes with
  | .ok (.obj fields) => do
    let terms ← Json.lookup "terms" fields
    let lines ← Json.lookup "lines" fields
    return (terms, lines)
  | _ => none

/-- The members of a value that can be gone through: the items of a list, the
characters of a text, the keys of an object. -/
def members : Json → Except Fault (List Json)
  | .arr items => .ok items
  | .str t => .ok (t.map fun c => .str [c])
  | .obj fields => .ok (fields.map fun (key, _) => .str key)
  | _ => .error .wrongKind

/-- The line numbers of a term. -/
def numbersOf (terms : Json) (term : Text) : Except Fault (List Json) :=
  match terms with
  | .obj fields =>
    match Json.lookup term fields with
    | none => .ok []
    | some value => do
      let found ← members value
      if found.all Json.isScalar then return found else throw .wrongKind
  | _ => .error .noMember

/-- The numbers of the lines that hold a term, each once and in order. -/
def numbers (terms : Json) (wanted : Terms) : Except Fault (List Json) := do
  let found ← wanted.all.mapM (numbersOf terms)
  Json.sortMembers (Json.distinct found.flatten)

/-- Whether a text occurs in another. -/
def occursIn (t : Text) : Text → Bool
  | [] => t.isEmpty
  | c :: rest => t.isPrefixOf (c :: rest) || occursIn t rest

/-- The line with a number, if the table of lines has it.  A table that is no
object has no lines to give. -/
def line? (lines : Json) (number : Json) : Option NumberedLine :=
  match lines with
  | .obj fields => (Json.lookup number.plain fields).map fun line => .ok (number, line)
  | .arr items =>
    if items.any (Json.same (.str number.plain)) then some (.error .wrongKind) else none
  | .str t => if occursIn number.plain t then some (.error .wrongKind) else none
  | _ => some (.error .wrongKind)

/-! ## Rendering -/

/-- Whether the source file still has the date of a hit, or why its positions
do not do. -/
def checkDate (tree : FileTree) (root : Path) (path : Text) (hit : Hit) :
    Except Fault (Option FallbackReason) :=
  match TextFile.modifiedDate tree root path with
  | .ok (some date) => .ok (if hit.date = some date then none else some .changed)
  | .ok none => .ok (some .changed)
  | .error f => if f.isFileFault then .ok (some .unavailable) else .error f

/-- The context of a hit from stored positions. -/
def render (c : SourceContext) (tree : FileTree) (root : Path) (hit : Hit)
    (xrefBase moreBase : Text) (tabSize : Int) : Except Fault StoredContext :=
  match hit.positions, hit.path with
  | none, _ => .ok (.needsFallback .noPositions)
  | some _, none => .error .wrongKind
  | some bytes, some path => do
    match ← checkDate tree root path hit with
    | some reason => return .needsFallback reason
    | none =>
      match tables? bytes with
      | none => return .needsFallback .unreadable
      | some (terms, lines) =>
        let found ← numbers terms c.terms
        let definitions ← Definitions.ofField hit.tags
        let scopes ← Scopes.ofField hit.scopes
        let view : FileView := ⟨path, xrefBase, moreBase, some definitions, some scopes, tabSize⟩
        let fragment ← c.renderLines view (found.filterMap (line? lines))
        return .fragment fragment

end StoredContext

end HitListing
