import HitListing.Proofs.Numerals
import HitListing.Proofs.PageText
import HitListing.Proofs.StoredLines

/-!
# The anchors of lines

Where the numbers come from that stand in a page as they are: they are those of
the lines that its snippets show.  The lines of a file are counted, and so are
the lines that the positions of a text give.  So as long as all stored positions
are those of some text, a page that comes to its end is read as what it should
be, whatever else is stored (`Page.strip_render`).
-/

namespace HitListing

open Markup

/-! ## Numbers in documents -/

namespace Markup.Document

theorem numbers_flatMap_eq_nil {α : Type} {items : List α} {f : α → Document}
    (h : ∀ item, (f item).numbers = []) : numbers (items.flatMap f) = [] := by
  induction items with
  | nil => rfl
  | cons item items ih => rw [List.flatMap_cons, numbers_append, h, ih, List.append_nil]

end Markup.Document

theorem Terms.numbers_lineDocument (terms : Terms) (line : Text) :
    (terms.lineDocument line).numbers = [] := by
  refine Document.numbers_flatMap_eq_nil fun p => ?_
  rw [pieceDocument]
  split <;> rfl

theorem Summarizer.numbers_document (s : Summarizer) (t : Text) : (s.document t).numbers = [] := by
  have hpiece : ∀ p, (s.pieceDocument p).numbers = [] := by
    intro p
    rw [pieceDocument]
    split
    · split <;> rfl
    · rfl
  rw [document]
  split
  · rfl
  · show Document.numbers (_ ++ _) = []
    rw [Document.numbers_append, Document.numbers_flatMap_eq_nil hpiece]
    rfl

namespace SourceContext

variable {c : SourceContext} {v : FileView}

theorem numbers_typeDocument {found : List Definition} {d : Document}
    (h : typeDocument found = .ok d) : d.numbers = [] := by
  unfold typeDocument at h
  split at h
  case h_1 =>
    cases h
    rfl
  case h_2 =>
    split at h
    case h_1 =>
      cases h
      rfl
    case h_2 => cases h

theorem numbers_scopeDocument {number : Json} {d : Document}
    (h : scopeDocument v number = .ok d) : d.numbers = [] := by
  unfold scopeDocument at h
  split at h
  case h_1 =>
    cases h
    rfl
  case h_2 =>
    obtain ⟨found, _, h⟩ := exists_of_bind_eq_ok h
    cases found with
    | none =>
      cases h
      rfl
    | some s =>
      simp only at h
      split at h
      case h_1 =>
        cases h
        rfl
      case h_2 => cases h

/-- A line holds its own number. -/
theorem numbers_blockDocument {number : Json} {line : Text} {found : List Definition}
    {d : Document} (h : c.blockDocument v number line found = .ok d) :
    d.numbers = [number.plain] := by
  obtain ⟨place, hplace, h⟩ := exists_of_bind_eq_ok h
  obtain ⟨shown, _, h⟩ := exists_of_bind_eq_ok h
  obtain ⟨types, htypes, h⟩ := exists_of_bind_eq_ok h
  obtain ⟨enclosing, henclosing, h⟩ := exists_of_bind_eq_ok h
  cases h
  have hrest : Document.numbers (c.lineTerms.lineDocument shown ++
      .closing "a" :: (types ++ (enclosing ++ [.single "br"]))) = [] := by
    show Document.numbers
      (_ ++ ([Token.closing "a"] ++ (types ++ (enclosing ++ [.single "br"])))) = []
    rw [Document.numbers_append, Document.numbers_append, Document.numbers_append,
      Document.numbers_append, Terms.numbers_lineDocument, numbers_typeDocument htypes,
      numbers_scopeDocument henclosing]
    rfl
  rw [← Json.eq_plain_of_shown hplace]
  exact congrArg (place :: ·) hrest

/-- The numbers in context lines are those of the lines. -/
theorem exists_of_mem_numbers {shown : Nat} {lines : List NumberedLine} {d : Document}
    (h : c.documentFrom v shown lines = .ok d) {n : Text} (hn : n ∈ d.numbers) :
    ∃ number line, .ok (number, line) ∈ lines ∧ n = number.plain := by
  induction lines generalizing shown d with
  | nil =>
    cases h
    cases hn
  | cons item rest ih =>
    have hlater {shown : Nat} {d : Document} (h : c.documentFrom v shown rest = .ok d)
        (hn : n ∈ d.numbers) : ∃ number line, .ok (number, line) ∈ item :: rest ∧
          n = number.plain := by
      obtain ⟨number, line, hin, heq⟩ := ih h hn
      exact ⟨number, line, List.mem_cons_of_mem item hin, heq⟩
    rw [documentFrom] at h
    obtain ⟨⟨number, line⟩, hitem, h⟩ := exists_of_bind_eq_ok h
    obtain ⟨selected, _, h⟩ := exists_of_bind_eq_ok h
    cases selected with
    | none => exact hlater h hn
    | some s =>
      simp only at h
      split at h
      case isTrue =>
        -- the link to all lines holds no number
        cases h
        cases hn
      case isFalse =>
        obtain ⟨start, hstart, h⟩ := exists_of_bind_eq_ok h
        obtain ⟨more, hmore, h⟩ := exists_of_bind_eq_ok h
        cases h
        rw [Document.numbers_append, List.mem_append, numbers_blockDocument hstart] at hn
        rcases hn with hn | hn
        · refine ⟨number, line, ?_, List.mem_singleton.mp hn⟩
          rw [hitem]
          exact List.mem_cons_self
        · exact hlater hmore hn

end SourceContext

/-! ## Lines that are counted -/

/-- Whether the numbers of lines are numbers. -/
def AreCounted (items : List NumberedLine) : Prop :=
  ∀ number line, Except.ok (number, line) ∈ items → ∃ n : Nat, number = .int n

/-- The lines of a text are counted. -/
theorem areCounted_numbered (t : Text) : AreCounted (SourceContext.numbered t) := by
  intro number line hin
  obtain ⟨⟨shown, n⟩, _, heq⟩ := List.mem_map.mp hin
  cases heq
  exact ⟨n, rfl⟩

/-- The lines that a table gives for numbers are counted. -/
theorem StoredContext.areCounted_filterMap_line? (numbers : List Nat)
    (fields : List (Text × Json)) :
    AreCounted ((numbers.map Json.ofNat).filterMap (line? (.obj fields))) := by
  intro number line hin
  obtain ⟨json, hjson, hline⟩ := List.mem_filterMap.mp hin
  obtain ⟨n, _, rfl⟩ := List.mem_map.mp hjson
  obtain ⟨found, _, heq⟩ := Option.map_eq_some_iff.mp hline
  cases heq
  exact ⟨n, rfl⟩

/-- Whether a hit has no stored positions but those of a text. -/
def Hit.HasTextPositions (hit : Hit) : Prop :=
  ∀ bytes, hit.positions = some bytes → ∃ t, bytes = (Positions.ofText t).encode

/-- The lines that the positions of a text give are counted. -/
theorem StoredContext.areCounted_lines {wanted : Terms} {tree : FileTree} {root : Path} {hit : Hit}
    {xrefBase moreBase : Text} {tabSize : Int} {v : FileView} {items : List NumberedLine}
    (hpositions : hit.HasTextPositions)
    (h : lines wanted tree root hit xrefBase moreBase tabSize = .ok (.ok (v, items))) :
    AreCounted items := by
  unfold lines at h
  split at h
  case h_1 => cases h
  case h_2 => cases h
  case h_3 bytes path hbytes _ =>
    obtain ⟨t, rfl⟩ := hpositions bytes hbytes
    obtain ⟨checked, _, h⟩ := exists_of_bind_eq_ok h
    cases checked with
    | some reason => cases h
    | none =>
      rcases tables?_encode t with hnone | htables
      · rw [hnone] at h
        cases h
      · rw [htables] at h
        obtain ⟨found, hfound, h⟩ := exists_of_bind_eq_ok h
        obtain ⟨definitions, _, h⟩ := exists_of_bind_eq_ok h
        obtain ⟨scopes, _, h⟩ := exists_of_bind_eq_ok h
        cases h
        rw [numbers_ofText] at hfound
        cases hfound
        exact areCounted_filterMap_line? _ _

theorem LiveContext.areCounted_lines {tree : FileTree} {root : Path} {hit : Hit}
    {xrefBase moreBase : Text} {tabSize : Int} {v : FileView} {items : List NumberedLine}
    (h : lines tree root hit xrefBase moreBase tabSize = .ok (v, items)) : AreCounted items := by
  obtain ⟨definitions, _, h⟩ := exists_of_bind_eq_ok h
  obtain ⟨scopes, _, h⟩ := exists_of_bind_eq_ok h
  split at h
  case h_1 => cases h
  case h_2 =>
    obtain ⟨t, _, h⟩ := exists_of_bind_eq_ok h
    cases h
    exact areCounted_numbered t

/-! ## Snippets -/

namespace SnippetParts

/-- Whether the lines of a snippet are counted. -/
def IsCounted : SnippetParts → Prop
  | lines _ _ items => AreCounted items
  | _ => True

/-- Counted lines hold nothing but numerals. -/
theorem IsCounted.exists_of_mem_numbers {parts : SnippetParts} (h : parts.IsCounted)
    {d : Document} (hd : parts.document = .ok d) {t : Text} (ht : t ∈ d.numbers) :
    ∃ n, t = Text.ofNat n := by
  cases parts with
  | nothing =>
    cases hd
    cases ht
  | excerpt s shown =>
    cases hd
    rw [s.numbers_document shown] at ht
    cases ht
  | lines c v items =>
    obtain ⟨number, line, hin, rfl⟩ := SourceContext.exists_of_mem_numbers hd ht
    obtain ⟨n, rfl⟩ := h number line hin
    exact ⟨n, rfl⟩

end SnippetParts

namespace SnippetExtractor

variable {x : SnippetExtractor} {hit : Hit} {tabSize : Int} {parts : SnippetParts}

/-- The lines of a snippet are counted if the stored positions are those of a text. -/
theorem isCounted_of_parts (hpositions : hit.HasTextPositions)
    (h : x.parts hit tabSize = .ok parts) : parts.IsCounted := by
  cases parts with
  | nothing => trivial
  | excerpt s t => trivial
  | lines c v items =>
    rcases lines_of_parts h with hlive | hstored
    · exact LiveContext.areCounted_lines hlive
    · exact StoredContext.areCounted_lines hpositions hstored

end SnippetExtractor

/-! ## Pages -/

namespace Page

variable {p : Page}

theorem numbers_descriptionDocument {directory : Text} {d : Document}
    (h : p.descriptionDocument directory = .ok d) : d.numbers = [] := by
  obtain ⟨found, _, h⟩ := exists_of_bind_eq_ok h
  split at h
  case h_1 =>
    cases h
    rfl
  case h_2 =>
    cases h
    rfl
  case h_3 => cases h

theorem numbers_messagesDocument {project : Option Project} {d : Document}
    (h : p.messagesDocument project = .ok d) : d.numbers = [] := by
  unfold messagesDocument at h
  split at h
  case h_1 =>
    cases h
    rfl
  case h_2 =>
    obtain ⟨pending, _, h⟩ := exists_of_bind_eq_ok h
    split at h
    case h_1 =>
      cases h
      rfl
    case h_2 =>
      split at h
      case h_1 =>
        cases h
        rfl
      case h_2 => cases h

theorem numbers_headerDocument {directory : Text} {project : Option Project} {d : Document}
    (h : p.headerDocument directory = .ok (project, d)) : d.numbers = [] := by
  obtain ⟨description, hdescription, h⟩ := exists_of_bind_eq_ok h
  obtain ⟨found, _, h⟩ := exists_of_bind_eq_ok h
  obtain ⟨messages, hmessages, h⟩ := exists_of_bind_eq_ok h
  cases h
  rw [headerAround, Document.numbers_element, Document.numbers_element, Document.numbers_append,
    Document.numbers_append, Document.numbers_link, numbers_descriptionDocument hdescription,
    numbers_messagesDocument hmessages]
  rfl

/-- Whether the stored positions of all documents are those of texts. -/
def HasTextPositions (p : Page) : Prop :=
  ∀ id hit, p.read id = .ok hit → hit.HasTextPositions

/-- Whether all numbers in a document are numerals. -/
def IsCounted (d : Document) : Prop :=
  ∀ t ∈ d.numbers, ∃ n, t = Text.ofNat n

theorem HasTextPositions.isCounted_rowDocument (h : p.HasTextPositions) {tabSize : Int}
    {index : Nat} {id : DocumentId} {d : Document} (hd : p.rowDocument tabSize index id = .ok d) :
    IsCounted d := by
  obtain ⟨hit, hread, hd⟩ := exists_of_bind_eq_ok hd
  split at hd
  case h_1 => cases hd
  case h_2 path _ =>
    obtain ⟨snippet, hsnippet, hd⟩ := exists_of_bind_eq_ok hd
    cases hd
    unfold IsCounted
    rw [numbers_rowAround]
    unfold snippetDocument at hsnippet
    split at hsnippet
    case isTrue =>
      obtain ⟨parts, hparts, hsnippet⟩ := exists_of_bind_eq_ok hsnippet
      have hcounted := SnippetExtractor.isCounted_of_parts (h id hit hread) hparts
      exact fun t => hcounted.exists_of_mem_numbers hsnippet
    case isFalse =>
      cases hsnippet
      exact nofun

theorem HasTextPositions.isCounted_rowsDocument (h : p.HasTextPositions) {tabSize : Int}
    {index : Nat} {ids : List DocumentId} {d : Document}
    (hd : p.rowsDocument tabSize index ids = .ok d) : IsCounted d := by
  induction ids generalizing index d with
  | nil =>
    cases hd
    exact nofun
  | cons id rest ih =>
    obtain ⟨first, hfirst, hd⟩ := exists_of_bind_eq_ok hd
    obtain ⟨more, hmore, hd⟩ := exists_of_bind_eq_ok hd
    cases hd
    unfold IsCounted
    rw [Document.numbers_append, List.forall_mem_append]
    exact ⟨h.isCounted_rowDocument hfirst, ih hmore⟩

theorem HasTextPositions.isCounted_groupsDocument (h : p.HasTextPositions) {index : Nat}
    {found : List DirectoryGroup} {d : Document} (hd : p.groupsDocument index found = .ok d) :
    IsCounted d := by
  induction found generalizing index d with
  | nil =>
    cases hd
    exact nofun
  | cons g rest ih =>
    obtain ⟨⟨project, header⟩, hheader, hd⟩ := exists_of_bind_eq_ok hd
    obtain ⟨rows, hrows, hd⟩ := exists_of_bind_eq_ok hd
    obtain ⟨more, hmore, hd⟩ := exists_of_bind_eq_ok hd
    cases hd
    unfold IsCounted
    rw [Document.numbers_append, Document.numbers_append, numbers_headerDocument hheader,
      List.nil_append, List.forall_mem_append]
    exact ⟨h.isCounted_rowsDocument hrows, ih hmore⟩

/-- Numerals may stand in links. -/
theorem isLink_ofNat (n : Nat) : IsLink (Text.ofNat n) := by
  refine isLink_of_forall fun c hc => Or.inl ?_
  have hdigit : c.isDigit = true := Text.isDigit_of_mem_ofNat hc
  simp [Uri.isUnreserved, Char.isAlphanum, hdigit]

/-- With positions of texts, a page that comes to its end is left with its content when it is
stripped, and the values in its tags are clean. -/
theorem strip_render {start stop : Int} (hhistory : p.history = none) (h : p.HasTextPositions)
    (hdone : Succeeds (p.render start stop).result) :
    ∃ d t, p.document start stop = .ok d ∧ (p.render start stop).text = d.write ∧
      strip (p.render start stop).text = .ok t ∧ p.content start stop = .ok t ∧
      ∀ value ∈ d.values, IsClean value := by
  obtain ⟨d, hd, htext⟩ := exists_document hhistory hdone
  have hsafe := isSafe_document hd
  have hcounted : IsCounted d := by
    obtain ⟨found, _, hd⟩ := exists_of_bind_eq_ok hd
    obtain ⟨groups, hgroups, hd⟩ := exists_of_bind_eq_ok hd
    cases hd
    unfold IsCounted
    rw [Document.numbers_element]
    exact h.isCounted_groupsDocument hgroups
  have hlinks : ∀ number ∈ d.numbers, IsLink number := by
    intro number hnumber
    obtain ⟨n, rfl⟩ := hcounted number hnumber
    exact isLink_ofNat n
  obtain ⟨⟨t, hstrip, hshown⟩, hvalues⟩ := hsafe.reads_iff.mpr fun number hnumber =>
    ⟨(hlinks number hnumber).1, (hlinks number hnumber).not_hasLongReference⟩
  have hcontent := content_eq hd fun number hnumber => (hlinks number hnumber).1
  refine ⟨d, t, hd, htext, ?_, ?_, hvalues⟩
  · rw [htext, hstrip]
  · rw [hcontent, hshown]

end Page

end HitListing
