import HitListing.Context.Live
import HitListing.Context.Stored
import HitListing.Draft
import HitListing.Excerpt
import HitListing.Markup.Strip
import HitListing.Settings

/-!
# Snippets

What is shown of a hit, by its genre: an excerpt of the cached cross-reference
or of the HTML file, or the context of a plain file, from the index if that
does, else from the file.

A cached file that cannot be read is noted and shows nothing.
-/

namespace HitListing

/-- Where a snippet comes from. -/
inductive SnippetSource where
  | xref
  | html
  | fast
  | slow
  | none
deriving DecidableEq, Repr

/-- The word for a source. -/
def SnippetSource.name : SnippetSource → Text
  | .xref => "xref"
  | .html => "html"
  | .fast => "fast"
  | .slow => "slow"
  | .none => "none"

/-- A fragment of markup and where it comes from. -/
structure Snippet where
  text : Text
  source : SnippetSource
deriving DecidableEq, Repr

/-- The snippet that shows nothing. -/
def Snippet.empty : Snippet := ⟨[], .none⟩

/-! ## The start of a cached file -/

/-- The number of characters that are read of a cached file. -/
def tagsBudget : Nat := 8192

/-- Text without a tag at its end that is not closed. -/
def dropPartialTag (t : Text) : Text :=
  match Text.cutAtLast? '<' t with
  | some (before, behind) => if behind.contains '>' then t else before
  | none => t

/-- Whether a fault in reading a cached file is only noted. -/
def isNoted (f : Fault) : Bool :=
  f.isFileFault || f = .endOfStream || f = .badUtf8 || f = .badDeflate

/-- The start of a cached file. -/
def readCached (tree : FileTree) (base : Path) (path : Text) (compressed : Bool) :
    Except Fault Text := do
  let s ← TextFile.cached tree base path compressed
  TextFile.readStart .strict tagsBudget s

/-- The plain text of the start of a cached file. -/
def readTags (tree : FileTree) (base : Path) (path : Text) (compressed : Bool) : Draft Text :=
  match readCached tree base path compressed with
  | .ok t => .ofExcept (Markup.strip (dropPartialTag t))
  | .error f =>
    if isNoted f then do
      let file := (base.child path).toText ++ (if compressed then ".gz".toList else [])
      Draft.note (.unreadable file f)
      return []
    else .ofExcept (.error f)

/-! ## Choosing a source -/

/-- What snippets are made with: the files, the settings, and the means that
the query brings, any of which may be missing. -/
structure SnippetExtractor where
  tree : FileTree
  settings : RenderSettings
  summarizer : Option Summarizer
  /-- For context from the index. -/
  stored : Option SourceContext
  /-- For context from the file. -/
  live : Option SourceContext
deriving DecidableEq

namespace SnippetExtractor

/-- Where cached cross-references lie. -/
def xrefRoot (x : SnippetExtractor) : Path :=
  x.settings.dataRoot.child "xref"

/-- The front of links to cross-references. -/
def xrefBase (x : SnippetExtractor) : Text :=
  Uri.encodePath x.settings.contextPath ++ "/xref"

/-- The front of links to all lines of a file. -/
def moreBase (x : SnippetExtractor) : Text :=
  Uri.encodePath x.settings.contextPath ++ "/more"

/-- The excerpt of the start of a cached file. -/
def excerpt (x : SnippetExtractor) (base : Path) (path : Text) (compressed : Bool)
    (source : SnippetSource) : Draft Snippet :=
  match x.summarizer with
  | none => return .empty
  | some s => do
    let t ← readTags x.tree base path compressed
    if t.isEmpty then return .empty else return ⟨s.summarize t, source⟩

/-- The context of a plain file from the index; without the means for it, the
reason is that they are missing. -/
def fromIndex (x : SnippetExtractor) (hit : Hit) (tabSize : Int) :
    Except Fault (Except Text Text) :=
  match x.stored with
  | none => .ok (.error "no fast context engine")
  | some c => do
    let root := x.settings.sourceRoot
    match ← StoredContext.render c x.tree root hit x.xrefBase x.moreBase tabSize with
    | .fragment t => return .ok t
    | .needsFallback reason => return .error reason.text

/-- The context of a plain file. -/
def context (x : SnippetExtractor) (hit : Hit) (path : Text) (tabSize : Int) : Draft Snippet := do
  match ← Draft.ofExcept (x.fromIndex hit tabSize) with
  | .ok t => return ⟨t, .fast⟩
  | .error reason =>
    Draft.note (.reanalyzing path reason)
    match x.live with
    | none => return .empty
    | some c =>
      let t ← Draft.ofExcept
        (LiveContext.render c x.tree x.settings.sourceRoot hit x.xrefBase x.moreBase tabSize)
      return ⟨t, .slow⟩

/-- The snippet of a hit.  Without a path there is none. -/
def extract (x : SnippetExtractor) (hit : Hit) (tabSize : Int) : Draft Snippet :=
  match hit.genre, hit.path with
  | .other, _ => return .empty
  | _, none => return .empty
  | .xrefable, some path => x.excerpt x.xrefRoot path x.settings.compressed .xref
  | .html, some path => x.excerpt x.settings.sourceRoot path false .html
  | .plain, some path => x.context hit path tabSize

end SnippetExtractor

end HitListing
