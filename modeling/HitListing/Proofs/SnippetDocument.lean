import HitListing.Proofs.ContextAgreement
import HitListing.Proofs.ContextDocument
import HitListing.Proofs.Drafts

/-!
# Snippets as documents

What a snippet is made from before any of it is written (`SnippetParts`): a text
of which an excerpt is shown, or the lines of a file.  A snippet has the text of
its parts (`SnippetExtractor.map_text_extract`), and their document is safe
(`SnippetExtractor.hasLinks_of_parts`).
-/

namespace HitListing

open Markup

/-! ## The lines of a file -/

/-- What the index gives of a file, before any of it is shown: how its lines are looked at and
the lines, or a reason why not. -/
def StoredContext.lines (wanted : Terms) (tree : FileTree) (root : Path) (hit : Hit)
    (xrefBase moreBase : Text) (tabSize : Int) :
    Except Fault (Except FallbackReason (FileView × List NumberedLine)) :=
  match hit.positions, hit.path with
  | none, _ => .ok (.error .noPositions)
  | some _, none => .error .wrongKind
  | some bytes, some path => do
    match ← checkDate tree root path hit with
    | some reason => return .error reason
    | none =>
      match tables? bytes with
      | none => return .error .unreadable
      | some (terms, lines) =>
        let found ← numbers terms wanted
        let definitions ← Definitions.ofField hit.tags
        let scopes ← Scopes.ofField hit.scopes
        return .ok (⟨path, xrefBase, moreBase, some definitions, some scopes, tabSize⟩,
          found.filterMap (line? lines))

/-- What a file gives, before any of it is shown. -/
def LiveContext.lines (tree : FileTree) (root : Path) (hit : Hit) (xrefBase moreBase : Text)
    (tabSize : Int) : Except Fault (FileView × List NumberedLine) := do
  let definitions ← Definitions.ofField hit.tags
  let scopes ← Scopes.ofField hit.scopes
  match hit.path with
  | none => throw .wrongKind
  | some path =>
    let t ← TextFile.source tree root path
    return (⟨path, xrefBase, moreBase, some definitions, some scopes, tabSize⟩,
      SourceContext.numbered t)

section Lines

variable {c : SourceContext} {tree : FileTree} {root : Path} {hit : Hit} {xrefBase moreBase : Text}
  {tabSize : Int}

theorem StoredContext.render_eq :
    render c tree root hit xrefBase moreBase tabSize =
      lines c.terms tree root hit xrefBase moreBase tabSize >>= fun found =>
        match found with
        | .error reason => .ok (.needsFallback reason)
        | .ok (v, items) => (c.renderLines v items).map .fragment := by
  rw [render, lines]
  cases hit.positions with
  | none => rfl
  | some bytes =>
    cases hit.path with
    | none => rfl
    | some path =>
      simp only [bind, Except.bind]
      cases checkDate tree root path hit with
      | error f => rfl
      | ok checked =>
        cases checked with
        | some reason => rfl
        | none =>
          cases tables? bytes with
          | none => rfl
          | some tables =>
            simp only
            cases numbers tables.1 c.terms with
            | error f => rfl
            | ok found =>
              cases Definitions.ofField hit.tags with
              | error f => rfl
              | ok definitions =>
                cases Scopes.ofField hit.scopes with
                | error f => rfl
                | ok scopes => rfl

theorem LiveContext.render_eq :
    render c tree root hit xrefBase moreBase tabSize =
      lines tree root hit xrefBase moreBase tabSize >>= fun (v, items) =>
        c.renderLines v items := by
  rw [render, lines]
  cases Definitions.ofField hit.tags with
  | error f => rfl
  | ok definitions =>
    cases Scopes.ofField hit.scopes with
    | error f => rfl
    | ok scopes =>
      cases hit.path with
      | none => rfl
      | some path =>
        simp only [bind, Except.bind]
        cases TextFile.source tree root path with
        | error f => rfl
        | ok t => rfl

/-- Lines are looked at with the links that are given. -/
theorem StoredContext.hasLinks_of_lines {v : FileView} {items : List NumberedLine}
    {wanted : Terms} (hxref : IsLink xrefBase) (hmore : IsLink moreBase)
    (h : lines wanted tree root hit xrefBase moreBase tabSize = .ok (.ok (v, items))) :
    v.HasLinks := by
  unfold lines at h
  split at h
  case h_1 => cases h
  case h_2 => cases h
  case h_3 =>
    obtain ⟨checked, _, h⟩ := exists_of_bind_eq_ok h
    cases checked with
    | some reason => cases h
    | none =>
      simp only at h
      split at h
      case h_1 => cases h
      case h_2 =>
        obtain ⟨found, _, h⟩ := exists_of_bind_eq_ok h
        obtain ⟨definitions, _, h⟩ := exists_of_bind_eq_ok h
        obtain ⟨scopes, _, h⟩ := exists_of_bind_eq_ok h
        cases h
        exact ⟨hxref, hmore⟩

theorem LiveContext.hasLinks_of_lines {v : FileView} {items : List NumberedLine}
    (hxref : IsLink xrefBase) (hmore : IsLink moreBase)
    (h : lines tree root hit xrefBase moreBase tabSize = .ok (v, items)) : v.HasLinks := by
  obtain ⟨definitions, _, h⟩ := exists_of_bind_eq_ok h
  obtain ⟨scopes, _, h⟩ := exists_of_bind_eq_ok h
  split at h
  case h_1 => cases h
  case h_2 =>
    obtain ⟨t, _, h⟩ := exists_of_bind_eq_ok h
    cases h
    exact ⟨hxref, hmore⟩

end Lines

/-! ## What a snippet is made from -/

/-- What a snippet is made from. -/
inductive SnippetParts where
  | nothing
  | excerpt (s : Summarizer) (t : Text)
  | lines (c : SourceContext) (v : FileView) (items : List NumberedLine)

namespace SnippetParts

/-- The text of a snippet. -/
def text : SnippetParts → Except Fault Text
  | nothing => .ok []
  | excerpt s t => .ok (s.summarize t)
  | lines c v items => c.renderLines v items

/-- A snippet as a document. -/
def document : SnippetParts → Except Fault Document
  | nothing => .ok []
  | excerpt s t => .ok (s.document t)
  | lines c v items => c.documentFrom v 0 items

theorem text_eq (parts : SnippetParts) : parts.text = parts.document.map Document.write := by
  cases parts with
  | nothing => rfl
  | excerpt s t => exact congrArg Except.ok (s.write_document t).symm
  | lines c v items => exact c.renderFrom_eq v 0 items

/-- Whether the lines of a snippet lead to encoded links. -/
def HasLinks : SnippetParts → Prop
  | lines _ v _ => v.HasLinks
  | _ => True

theorem HasLinks.isSafe {parts : SnippetParts} (h : parts.HasLinks) {d : Document}
    (hd : parts.document = .ok d) : d.IsSafe := by
  cases parts with
  | nothing =>
    cases hd
    exact nofun
  | excerpt s t =>
    cases hd
    exact s.isSafe_document t
  | lines c v items => exact SourceContext.isSafe_documentFrom h hd

end SnippetParts

namespace SnippetExtractor

/-- What the excerpt of the start of a cached file is made from. -/
def excerptParts (x : SnippetExtractor) (base : Path) (path : Text) (compressed : Bool) :
    Except Fault SnippetParts :=
  match x.summarizer with
  | none => .ok .nothing
  | some s => (readTags x.tree base path compressed).result.map (.excerpt s)

/-- What the context from the file is made from. -/
def liveParts (x : SnippetExtractor) (hit : Hit) (tabSize : Int) : Except Fault SnippetParts :=
  match x.live with
  | none => .ok .nothing
  | some c =>
    (LiveContext.lines x.tree x.settings.sourceRoot hit x.xrefBase x.moreBase tabSize).map
      fun (v, items) => .lines c v items

/-- What the context of a plain file is made from. -/
def contextParts (x : SnippetExtractor) (hit : Hit) (tabSize : Int) :
    Except Fault SnippetParts :=
  match x.stored with
  | none => x.liveParts hit tabSize
  | some c => do
    let root := x.settings.sourceRoot
    match ← StoredContext.lines c.terms x.tree root hit x.xrefBase x.moreBase tabSize with
    | .ok (v, items) => return .lines c v items
    | .error _ => x.liveParts hit tabSize

/-- What the snippet of a hit is made from. -/
def parts (x : SnippetExtractor) (hit : Hit) (tabSize : Int) : Except Fault SnippetParts :=
  match hit.genre, hit.path with
  | .other, _ => .ok .nothing
  | _, none => .ok .nothing
  | .xrefable, some path => x.excerptParts x.xrefRoot path x.settings.compressed
  | .html, some path => x.excerptParts x.settings.sourceRoot path false
  | .plain, some _ => x.contextParts hit tabSize

variable {x : SnippetExtractor} {hit : Hit} {path : Text} {tabSize : Int}

theorem map_text_excerpt (base : Path) (path : Text) (compressed : Bool)
    (source : SnippetSource) :
    (x.excerpt base path compressed source).result.map Snippet.text =
      x.excerptParts base path compressed >>= SnippetParts.text := by
  unfold excerpt excerptParts
  cases x.summarizer with
  | none => rfl
  | some s =>
    simp only
    cases hread : (readTags x.tree base path compressed).result with
    | error f =>
      rw [Draft.result_bind_of_error hread]
      rfl
    | ok t =>
      rw [Draft.result_bind_of_ok hread]
      cases t with
      | nil => rfl
      | cons c t => rfl

/-- Once the index has given a reason, a snippet is made from the file. -/
theorem map_text_context_of_reason {reason : Text}
    (h : x.fromIndex hit tabSize = .ok (.error reason)) :
    (x.context hit path tabSize).result.map Snippet.text =
      x.liveParts hit tabSize >>= SnippetParts.text := by
  cases hlive : x.live with
  | none =>
    rw [context, h, Draft.ofExcept_ok, pure_bind, liveParts, hlive]
    rfl
  | some c =>
    rw [result_context_of_reason hlive h, LiveContext.render_eq, liveParts, hlive]
    cases LiveContext.lines x.tree x.settings.sourceRoot hit x.xrefBase x.moreBase tabSize with
    | error f => rfl
    | ok found => rfl

theorem map_text_context :
    (x.context hit path tabSize).result.map Snippet.text =
      x.contextParts hit tabSize >>= SnippetParts.text := by
  cases hstored : x.stored with
  | none =>
    have hindex : x.fromIndex hit tabSize = .ok (.error "no fast context engine") := by
      rw [fromIndex, hstored]
    rw [map_text_context_of_reason hindex, contextParts, hstored]
  | some c =>
    rw [contextParts, hstored]
    simp only
    -- the index fails, has a reason, or gives lines of which some may not be shown
    cases hlines : StoredContext.lines c.terms x.tree x.settings.sourceRoot hit x.xrefBase
      x.moreBase tabSize with
    | error f =>
      have hindex : x.fromIndex hit tabSize = .error f := by
        rw [fromIndex, hstored]
        simp only [StoredContext.render_eq, hlines, bind, Except.bind]
      rw [context, hindex]
      rfl
    | ok found =>
      cases found with
      | error reason =>
        have hindex : x.fromIndex hit tabSize = .ok (.error reason.text) := by
          rw [fromIndex, hstored]
          simp only [StoredContext.render_eq, hlines, bind, Except.bind]
          rfl
        exact map_text_context_of_reason hindex
      | ok found =>
        have hindex : x.fromIndex hit tabSize =
            (c.renderLines found.1 found.2).map .ok := by
          rw [fromIndex, hstored]
          simp only [StoredContext.render_eq, hlines, bind, Except.bind]
          cases c.renderLines found.1 found.2 with
          | error f => rfl
          | ok t => rfl
        rw [context, hindex]
        show _ = c.renderLines found.1 found.2
        cases c.renderLines found.1 found.2 with
        | error f => rfl
        | ok t => rfl

/-- A snippet has the text of its parts. -/
theorem map_text_extract (x : SnippetExtractor) (hit : Hit) (tabSize : Int) :
    (x.extract hit tabSize).result.map Snippet.text =
      x.parts hit tabSize >>= SnippetParts.text := by
  unfold extract parts
  cases hit.genre with
  | other => rfl
  | xrefable =>
    cases hit.path with
    | none => rfl
    | some path => exact map_text_excerpt _ _ _ _
  | html =>
    cases hit.path with
    | none => rfl
    | some path => exact map_text_excerpt _ _ _ _
  | plain =>
    cases hit.path with
    | none => rfl
    | some path => exact map_text_context

theorem isLink_xrefBase (x : SnippetExtractor) : IsLink x.xrefBase := by
  have hxref : IsLink "/xref" := by decide
  exact isLink_append.mpr ⟨isLink_encodePath x.settings.contextPath, hxref⟩

theorem isLink_moreBase (x : SnippetExtractor) : IsLink x.moreBase := by
  have hmore : IsLink "/more" := by decide
  exact isLink_append.mpr ⟨isLink_encodePath x.settings.contextPath, hmore⟩

/-! ## Where the lines of a snippet come from -/

section Lines

variable {c : SourceContext} {v : FileView} {items : List NumberedLine}

theorem excerptParts_ne_lines (base : Path) (compressed : Bool) :
    x.excerptParts base path compressed ≠ .ok (.lines c v items) := by
  intro h
  unfold excerptParts at h
  split at h
  case h_1 => cases h
  case h_2 =>
    cases hread : (readTags x.tree base path compressed).result with
    | error f =>
      rw [hread] at h
      cases h
    | ok t =>
      rw [hread] at h
      cases h

theorem lines_of_liveParts (h : x.liveParts hit tabSize = .ok (.lines c v items)) :
    LiveContext.lines x.tree x.settings.sourceRoot hit x.xrefBase x.moreBase tabSize =
      .ok (v, items) := by
  unfold liveParts at h
  split at h
  case h_1 => cases h
  case h_2 =>
    cases hlines : LiveContext.lines x.tree x.settings.sourceRoot hit x.xrefBase x.moreBase
      tabSize with
    | error f =>
      rw [hlines] at h
      cases h
    | ok found =>
      rw [hlines] at h
      cases h
      rfl

/-- The lines of a snippet are those of the file, or the index gives them. -/
theorem lines_of_parts (h : x.parts hit tabSize = .ok (.lines c v items)) :
    LiveContext.lines x.tree x.settings.sourceRoot hit x.xrefBase x.moreBase tabSize =
        .ok (v, items) ∨
      StoredContext.lines c.terms x.tree x.settings.sourceRoot hit x.xrefBase x.moreBase tabSize =
        .ok (.ok (v, items)) := by
  unfold SnippetExtractor.parts at h
  split at h
  case h_1 => cases h
  case h_2 => cases h
  case h_3 => exact absurd h (excerptParts_ne_lines _ _)
  case h_4 => exact absurd h (excerptParts_ne_lines _ _)
  case h_5 =>
    unfold contextParts at h
    split at h
    case h_1 => exact Or.inl (lines_of_liveParts h)
    case h_2 =>
      obtain ⟨found, hlines, h⟩ := exists_of_bind_eq_ok h
      cases found with
      | error reason => exact Or.inl (lines_of_liveParts h)
      | ok found =>
        cases h
        exact Or.inr hlines

end Lines

/-- The lines of a snippet lead to encoded links. -/
theorem hasLinks_of_parts {parts : SnippetParts} (h : x.parts hit tabSize = .ok parts) :
    parts.HasLinks := by
  cases parts with
  | nothing => trivial
  | excerpt s t => trivial
  | lines c v items =>
    rcases lines_of_parts h with hlive | hstored
    · exact LiveContext.hasLinks_of_lines x.isLink_xrefBase x.isLink_moreBase hlive
    · exact StoredContext.hasLinks_of_lines x.isLink_xrefBase x.isLink_moreBase hstored

end SnippetExtractor

end HitListing
