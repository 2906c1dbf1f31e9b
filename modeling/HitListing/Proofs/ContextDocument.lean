import HitListing.Proofs.SafeDocuments
import HitListing.Snippet

/-!
# Excerpts and context lines as documents

The documents whose markup excerpts and context lines are
(`Summarizer.write_document`, `SourceContext.renderFrom_eq`).  Each line has the
anchor of its number; all else is escaped or encoded, so the documents are safe
(`Summarizer.isSafe_document`, `SourceContext.isSafe_documentFrom`).
-/

namespace HitListing

open Markup

/-! ## Text in bold -/

namespace Markup.Document

/-- Text in bold. -/
def bold (t : Text) : Document :=
  element "b" [] [.text t]

theorem write_bold (t : Text) : write (bold t) = Markup.bold t := by
  rw [bold, write_element, Markup.bold]
  show openTag "b" [] ++ ((escape t ++ []) ++ closeTag "b") = _
  rw [List.append_nil, List.append_assoc]
  rfl

theorem isSafe_bold (t : Text) : (bold t).IsSafe :=
  isSafe_element (by decide +kernel) nofun (isSafe_text t)

end Markup.Document

/-! ## Lines and excerpts -/

namespace Terms

/-- A piece of a line as a document. -/
def pieceDocument (terms : Terms) (p : Piece) : Document :=
  if p.isWord && terms.has p.text then .bold p.text else [.text p.text]

/-- A line with its matching words in bold as a document. -/
def lineDocument (terms : Terms) (line : Text) : Document :=
  (pieces line).flatMap terms.pieceDocument

theorem write_lineDocument (terms : Terms) (line : Text) :
    (terms.lineDocument line).write = terms.highlightText line := by
  rw [lineDocument, Document.write_flatMap, highlightText]
  congr 1
  funext p
  rw [pieceDocument, highlightPiece]
  split
  · exact Document.write_bold p.text
  · exact Document.write_text p.text

theorem isSafe_lineDocument (terms : Terms) (line : Text) : (terms.lineDocument line).IsSafe := by
  refine Document.isSafe_flatMap fun p => ?_
  rw [pieceDocument]
  split
  · exact Document.isSafe_bold p.text
  · exact Document.isSafe_text p.text

end Terms

namespace Summarizer

/-- A piece of a window as a document. -/
def pieceDocument (s : Summarizer) (p : Piece) : Document :=
  if p.isWord then
    if s.marks p.text then .bold p.text else [.text p.text]
  else [.text (squeezeBlanks p.text)]

/-- The excerpt of a text as a document. -/
def document (s : Summarizer) (t : Text) : Document :=
  let ps := pieces t
  let marked := (ps.filter (·.isWord)).map fun p => s.marks p.text
  let count := marked.length
  if count = 0 then []
  else
    let width := min (max s.window 1).toNat count
    let first := start width marked
    let shown := throughWord width (fromWord first ps)
    .text (dotsIf (0 < first)) ::
      (shown.flatMap s.pieceDocument ++ [.text (dotsIf (first + width < count))])

theorem write_pieceDocument (s : Summarizer) (p : Piece) :
    (s.pieceDocument p).write = s.showPiece p := by
  rw [pieceDocument, showPiece]
  split
  · split
    · exact Document.write_bold p.text
    · exact Document.write_text p.text
  · exact Document.write_text (squeezeBlanks p.text)

/-- Dots are no characters of markup. -/
theorem escape_dotsIf (left : Bool) : escape (dotsIf left) = dotsIf left := by
  cases left with
  | false => rfl
  | true => rfl

theorem write_document (s : Summarizer) (t : Text) : (s.document t).write = s.summarize t := by
  rw [document, summarize]
  split
  · rfl
  · show escape (dotsIf _) ++ Document.write (_ ++ _) = _
    rw [Document.write_append, Document.write_flatMap, Document.write_text, escape_dotsIf,
      escape_dotsIf, ← List.append_assoc, funext s.write_pieceDocument]

theorem isSafe_document (s : Summarizer) (t : Text) : (s.document t).IsSafe := by
  rw [document]
  split
  · exact nofun
  · rw [Document.isSafe_cons, Document.isSafe_append]
    refine ⟨trivial, ?_, Document.isSafe_text _⟩
    refine Document.isSafe_flatMap fun p => ?_
    rw [pieceDocument]
    split
    · split
      · exact Document.isSafe_bold p.text
      · exact Document.isSafe_text p.text
    · exact Document.isSafe_text _

end Summarizer

/-! ## Context lines -/

namespace SourceContext

/-- The type of the first definition on a line as a document. -/
def typeDocument : List Definition → Except Fault Document
  | [] => .ok []
  | d :: _ =>
    match d.type with
    | .str t => .ok (.text " " :: Document.element "i" [] [.text t])
    | _ => .error .noMember

/-- The scope that a line lies in as a document. -/
def scopeDocument (v : FileView) (number : Json) : Except Fault Document :=
  match v.scopes with
  | none => .ok []
  | some table => do
    match ← table.scopeAt number with
    | none => return []
    | some s =>
      match s.name with
      | .str name =>
        return .text " " ::
          Document.element "span" [.ofClass "scope"] [.text "in ", .text name, .text "()"]
      | _ => throw .noMember

/-- A line as a document. -/
def blockDocument (c : SourceContext) (v : FileView) (number : Json) (line : Text)
    (found : List Definition) : Except Fault Document := do
  let place ← number.shown
  let shown ← layOut v.tabSize line
  let types ← typeDocument found
  let enclosing ← scopeDocument v number
  return .anchor (v.xrefBase ++ "/" ++ Uri.encodePath v.path) place :: .text " " ::
    (c.lineTerms.lineDocument shown ++ .closing "a" :: (types ++ (enclosing ++ [.single "br"])))

/-- The link to all lines as a document. -/
def moreDocument (c : SourceContext) (v : FileView) : Document :=
  .link (v.moreBase ++ "/" ++ Uri.encodePath v.path ++ "?t=" ++
    Uri.encodeValue (Text.join [' '] c.terms.all)) [] [.text "[all...]"]

/-- The lines to be shown as a document, after `shown` of them. -/
def documentFrom (c : SourceContext) (v : FileView) (shown : Nat) :
    List NumberedLine → Except Fault Document
  | [] => .ok []
  | item :: rest => do
    let (number, line) ← item
    match ← c.select v number line with
    | none => documentFrom c v shown rest
    | some (t, found) =>
      if (shown : Int) = c.limit then return c.moreDocument v
      else
        let start ← c.blockDocument v number t found
        let more ← documentFrom c v (shown + 1) rest
        return start ++ more

theorem typeNote_eq (found : List Definition) :
    typeNote found = (typeDocument found).map Document.write := by
  cases found with
  | nil => rfl
  | cons d found =>
    rw [typeNote, typeDocument]
    cases d.type with
    | str t =>
      refine congrArg Except.ok ?_
      simp [Document.write, Document.element, Token.write, openTag, closeTag]
      rfl
    | _ => rfl

theorem scopeNote_eq (v : FileView) (number : Json) :
    scopeNote v number = (scopeDocument v number).map Document.write := by
  rw [scopeNote, scopeDocument]
  cases v.scopes with
  | none => rfl
  | some table =>
    show (table.scopeAt number >>= _) = (table.scopeAt number >>= _).map _
    cases table.scopeAt number with
    | error f => rfl
    | ok found =>
      cases found with
      | none => rfl
      | some s =>
        simp only [bind, Except.bind]
        cases s.name with
        | str name =>
          refine congrArg Except.ok ?_
          simp [Document.write, Document.element, Token.write, openTag, closeTag, Attribute.write,
            Attribute.quoted, Attribute.ofClass]
          rfl
        | _ => rfl

theorem block_eq (c : SourceContext) (v : FileView) (number : Json) (line : Text)
    (found : List Definition) :
    c.block v number line found = (c.blockDocument v number line found).map Document.write := by
  rw [block, blockDocument, Terms.highlight, typeNote_eq, scopeNote_eq]
  cases number.shown with
  | error f => rfl
  | ok place =>
    cases layOut v.tabSize line with
    | error f => rfl
    | ok shown =>
      cases typeDocument found with
      | error f => rfl
      | ok types =>
        cases scopeDocument v number with
        | error f => rfl
        | ok enclosing =>
          refine congrArg Except.ok ?_
          rw [← Terms.write_lineDocument]
          simp [Document.write, Token.write, Token.target, openTag, closeTag, singleTag,
            Attribute.write, Attribute.quoted, Attribute.ofClass]
          rfl

theorem moreLink_eq (c : SourceContext) (v : FileView) :
    c.moreLink v = (c.moreDocument v).write := by
  have hlabel : escape "[all...]" = "[all...]" := rfl
  unfold moreLink moreDocument
  rw [Document.write_link, Document.write_text, hlabel]
  simp

/-- Lines are shown as the markup of their document. -/
theorem renderFrom_eq (c : SourceContext) (v : FileView) (shown : Nat)
    (lines : List NumberedLine) :
    c.renderFrom v shown lines = (c.documentFrom v shown lines).map Document.write := by
  induction lines generalizing shown with
  | nil => rfl
  | cons item rest ih =>
    rw [renderFrom, documentFrom]
    cases item with
    | error f => rfl
    | ok line =>
      simp only [bind, Except.bind]
      cases c.select v line.1 line.2 with
      | error f => rfl
      | ok selected =>
        cases selected with
        | none => exact ih shown
        | some s =>
          by_cases hlimit : (shown : Int) = c.limit
          -- once enough lines are shown, the next one makes way for the link to all of them
          · simp only [hlimit, if_true, moreLink_eq]
            rfl
          · simp only [hlimit, if_false, block_eq, ih]
            cases c.blockDocument v line.1 s.1 s.2 with
            | error f => rfl
            | ok start =>
              cases c.documentFrom v (shown + 1) rest with
              | error f => rfl
              | ok more =>
                refine congrArg Except.ok ?_
                exact (Document.write_append start more).symm

/-! ## Context lines are safe -/

theorem isSafe_typeDocument {found : List Definition} {d : Document}
    (h : typeDocument found = .ok d) : d.IsSafe := by
  cases found with
  | nil =>
    cases h
    exact nofun
  | cons first found =>
    rw [typeDocument] at h
    cases htype : first.type with
    | str t =>
      rw [htype] at h
      cases h
      refine Document.isSafe_cons.mpr ⟨trivial, ?_⟩
      exact Document.isSafe_element (by decide +kernel) nofun (Document.isSafe_text t)
    | _ =>
      rw [htype] at h
      cases h

theorem isSafe_scopeDocument {v : FileView} {number : Json} {d : Document}
    (h : scopeDocument v number = .ok d) : d.IsSafe := by
  rw [scopeDocument] at h
  cases hscopes : v.scopes with
  | none =>
    rw [hscopes] at h
    cases h
    exact nofun
  | some table =>
    rw [hscopes] at h
    obtain ⟨found, _, h⟩ := exists_of_bind_eq_ok h
    cases found with
    | none =>
      cases h
      exact nofun
    | some s =>
      simp only at h
      cases hname : s.name with
      | str name =>
        rw [hname] at h
        cases h
        have hinner : Document.IsSafe [.text "in ", .text name, .text "()"] := by
          simp [Document.IsSafe, Token.IsSafe]
        refine Document.isSafe_cons.mpr ⟨trivial, ?_⟩
        exact Document.isSafe_styled (by decide +kernel) (by decide) hinner
      | _ =>
        rw [hname] at h
        cases h

end SourceContext

/-- Whether the links that lines lead to are encoded. -/
structure FileView.HasLinks (v : FileView) : Prop where
  xrefBase : IsLink v.xrefBase
  moreBase : IsLink v.moreBase

namespace SourceContext

variable {v : FileView}

/-- An encoded path behind the front of a link makes a link. -/
theorem isLink_child {base : Text} (h : IsLink base) (path : Text) :
    IsLink (base ++ "/" ++ Uri.encodePath path) := by
  have hslash : IsLink "/" := by decide
  rw [isLink_append, isLink_append]
  exact ⟨⟨h, hslash⟩, isLink_encodePath path⟩

theorem isSafe_blockDocument (h : v.HasLinks) {c : SourceContext} {number : Json} {line : Text}
    {found : List Definition} {d : Document} (hd : c.blockDocument v number line found = .ok d) :
    d.IsSafe := by
  obtain ⟨place, _, hd⟩ := exists_of_bind_eq_ok hd
  obtain ⟨shown, _, hd⟩ := exists_of_bind_eq_ok hd
  obtain ⟨types, htypes, hd⟩ := exists_of_bind_eq_ok hd
  obtain ⟨enclosing, henclosing, hd⟩ := exists_of_bind_eq_ok hd
  cases hd
  have hanchor : Token.IsSafe (.anchor (v.xrefBase ++ "/" ++ Uri.encodePath v.path) place) :=
    isLink_child h.xrefBase v.path
  have hclosing : Token.IsSafe (.closing "a") := by
    show '>' ∉ "a".toList
    decide
  have hend : Token.IsSafe (.single "br") := by
    show IsLetters "br"
    decide
  simp only [Document.isSafe_cons, Document.isSafe_append]
  exact ⟨hanchor, trivial, Terms.isSafe_lineDocument _ _, hclosing, isSafe_typeDocument htypes,
    isSafe_scopeDocument henclosing, hend, nofun⟩

theorem isSafe_moreDocument (h : v.HasLinks) (c : SourceContext) : (c.moreDocument v).IsSafe := by
  have hquery : IsLink "?t=" := by decide
  refine Document.isSafe_link ?_ nofun (Document.isSafe_text _)
  rw [isLink_append, isLink_append]
  exact ⟨⟨isLink_child h.moreBase v.path, hquery⟩, isLink_encodeValue _⟩

/-- Context lines are safe. -/
theorem isSafe_documentFrom (h : v.HasLinks) {c : SourceContext} {shown : Nat}
    {lines : List NumberedLine} {d : Document} (hd : c.documentFrom v shown lines = .ok d) :
    d.IsSafe := by
  induction lines generalizing shown d with
  | nil =>
    cases hd
    exact nofun
  | cons item rest ih =>
    rw [documentFrom] at hd
    obtain ⟨⟨number, line⟩, _, hd⟩ := exists_of_bind_eq_ok hd
    obtain ⟨selected, _, hd⟩ := exists_of_bind_eq_ok hd
    cases selected with
    | none => exact ih hd
    | some s =>
      simp only at hd
      split at hd
      case isTrue =>
        cases hd
        exact isSafe_moreDocument h c
      case isFalse =>
        obtain ⟨start, hstart, hd⟩ := exists_of_bind_eq_ok hd
        obtain ⟨more, hmore, hd⟩ := exists_of_bind_eq_ok hd
        cases hd
        exact Document.isSafe_append.mpr ⟨isSafe_blockDocument h hstart, ih hmore⟩

end SourceContext

end HitListing
