import HitListing.Context
import HitListing.Hit
import HitListing.TextFile

/-!
# Context from the file

The context of a plain file from the file as it is now.
-/

namespace HitListing.LiveContext

/-- The context of a hit from its source file. -/
def render (c : SourceContext) (tree : FileTree) (root : Path) (hit : Hit)
    (xrefBase moreBase : Text) (tabSize : Int) : Except Fault Text := do
  let definitions ← Definitions.ofField hit.tags
  let scopes ← Scopes.ofField hit.scopes
  match hit.path with
  | none => throw .wrongKind
  | some path =>
    let t ← TextFile.source tree root path
    let view : FileView := ⟨path, xrefBase, moreBase, some definitions, some scopes, tabSize⟩
    c.renderLines view (SourceContext.numbered t)

end HitListing.LiveContext
