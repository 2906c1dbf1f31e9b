import HitListing.Proofs.PageSteps
import HitListing.Proofs.SnippetDocument

/-!
# Pages as documents

The document whose markup a page without histories is
(`Page.exists_document`): a table body with a row for each directory and one for
each hit, around the documents of descriptions, messages and snippets.
It is safe (`Page.isSafe_document`): all that comes from the index, the
settings, the projects or the descriptions is escaped or encoded, but for the
numbers of lines in snippets.
-/

namespace HitListing

open Markup
open Markup.Document (element link)

namespace Page

variable {p : Page}

/-! ## Headers -/

/-- The description of a directory as a document. -/
def descriptionDocument (p : Page) (directory : Text) : Except Fault Document := do
  match ← p.describe directory with
  | none => return []
  | some (.str t) => return .text " - " :: element "i" [] [.text t]
  | some _ => throw .noMember

/-- The pending messages of a project. -/
def pendingFor (p : Page) (project : Option Project) : Except Fault (List Json) :=
  match project with
  | none => .ok []
  | some x => x.messagesJson Message.mainTag p.now

/-- The mark for pending messages as a document. -/
def markDocument (p : Page) (name : Text) (messages : List Json) : Document :=
  .text " " :: link (p.xrefBase ++ "/" ++ Uri.encodePath name) []
    (element "span" [.ofClass "important-note important-note-rounded",
      ⟨"data-messages", escape (Json.arr messages).write⟩] [.text "!"])

/-- The mark for the pending messages of a project as a document, if there are any. -/
def messagesDocument (p : Page) (project : Option Project) : Except Fault Document :=
  match project with
  | none => .ok []
  | some x => do
    match ← x.messagesJson Message.mainTag p.now with
    | [] => return []
    | pending =>
      match x.name with
      | .str name => return p.markDocument name pending
      | _ => throw .wrongKind

/-- The header of a directory around its description and its mark. -/
def headerAround (p : Page) (directory : Text) (description messages : Document) : Document :=
  element "tr" [.ofClass "dir"] (element "td" [⟨"colspan", "3"⟩]
    (link (p.directoryLink directory) [] [.text directory, .text "/"] ++
      (description ++ messages)))

/-- The header of a directory as a document, and the project that it belongs to. -/
def headerDocument (p : Page) (directory : Text) :
    Except Fault (Option Project × Document) := do
  let description ← p.descriptionDocument directory
  let project ← p.projectOf directory
  let messages ← p.messagesDocument project
  return (project, p.headerAround directory description messages)

theorem exists_descriptionDocument {directory : Text}
    (h : (p.description directory).result = .ok ()) :
    ∃ d, p.descriptionDocument directory = .ok d ∧ (p.description directory).text = d.write := by
  unfold description at h ⊢
  unfold descriptionDocument
  cases hdescribe : p.describe directory with
  | error f =>
    rw [hdescribe] at h
    cases h
  | ok found =>
    rw [hdescribe] at h
    cases found with
    | none => exact ⟨[], rfl, rfl⟩
    | some value =>
      cases value with
      | str t =>
        refine ⟨_, rfl, ?_⟩
        simp [Document.write, element, Token.write, openTag, closeTag]
        rfl
      | _ => cases h

/-- A mark that is written is the markup of its document. -/
theorem exists_markDocument {project : Project} {messages : List Json}
    (h : (p.mark project messages).result = .ok ()) :
    ∃ name, project.name = .str name ∧
      (p.mark project messages).text = (p.markDocument name messages).write := by
  obtain ⟨name, hname, htext⟩ := exists_of_mark h
  refine ⟨name, hname, htext.trans ?_⟩
  have hmark : Document.write [.text "!"] = "!" := rfl
  unfold markDocument
  show _ = escape " " ++ Document.write (link _ _ _)
  rw [Document.write_link, Document.write_element, hmark]
  simp [openTag, closeTag, Attribute.write, Attribute.quoted, Attribute.ofClass]
  rfl

theorem exists_messagesDocument {project : Option Project}
    (h : (p.messages project).result = .ok ()) :
    ∃ d, p.messagesDocument project = .ok d ∧ (p.messages project).text = d.write := by
  unfold messagesDocument
  cases project with
  | none => exact ⟨[], rfl, rfl⟩
  | some x =>
    simp only
    cases hpending : x.messagesJson Message.mainTag p.now with
    | error f =>
      unfold messages at h
      simp only [hpending] at h
      cases h
    | ok pending =>
      rw [messages_of_ok hpending] at h ⊢
      cases pending with
      | nil => exact ⟨[], rfl, rfl⟩
      | cons first rest =>
        rw [if_neg (List.cons_ne_nil first rest)] at h ⊢
        obtain ⟨name, hname, htext⟩ := exists_markDocument h
        simp only [bind, Except.bind, hname]
        exact ⟨p.markDocument name (first :: rest), rfl, htext⟩

theorem write_headerAround (directory : Text) (description messages : Document) :
    (p.headerAround directory description messages).write =
      ("<tr class=\"dir\"><td colspan=\"3\"><a href=\"" ++ p.directoryLink directory ++ "\">" ++
          escape directory ++ "/</a>") ++
        (description.write ++ (messages.write ++ "</td></tr>")) := by
  have hlabel : Document.write [.text directory, .text "/"] = escape directory ++ "/" := rfl
  rw [headerAround, Document.write_element, Document.write_element, Document.write_append,
    Document.write_append, Document.write_link, hlabel]
  simp [openTag, closeTag, Attribute.write, Attribute.quoted, Attribute.ofClass]

theorem exists_headerDocument {directory : Text} {project : Option Project}
    (h : (p.header directory).result = .ok project) :
    ∃ d, p.headerDocument directory = .ok (project, d) ∧
      (p.header directory).text = d.write := by
  unfold header at h ⊢
  obtain ⟨_, hopening, h, _⟩ := Draft.exists_of_result_bind h
  obtain ⟨_, hdescription, h, _⟩ := Draft.exists_of_result_bind h
  obtain ⟨found, hfound, h, _⟩ := Draft.exists_of_result_bind h
  obtain ⟨_, hmessages, h, _⟩ := Draft.exists_of_result_bind h
  obtain rfl : found = project := Except.ok.inj h
  obtain ⟨description, hdescriptionDocument, hdescriptionText⟩ :=
    exists_descriptionDocument hdescription
  obtain ⟨messages, hmessagesDocument, hmessagesText⟩ := exists_messagesDocument hmessages
  refine ⟨p.headerAround directory description messages, ?_, ?_⟩
  · have hproject : p.projectOf directory = .ok found := hfound
    rw [headerDocument, hdescriptionDocument, hproject]
    simp only [bind, Except.bind, hmessagesDocument]
    rfl
  · rw [Draft.text_bind_of_ok hopening, Draft.text_bind_of_ok hdescription,
      Draft.text_bind_of_ok hfound, Draft.text_bind_of_ok hmessages, hdescriptionText,
      hmessagesText, write_headerAround]
    rfl

/-! ## Rows -/

/-- The attributes by which a row says when its hit was last edited. -/
def editedAttributes (p : Page) (hit : Hit) : List Attribute :=
  if p.settings.lastEditedDisplay then
    match hit.date with
    | none => []
    | some date =>
      match Calendar.parseIndexDate date with
      | .error _ => []
      | .ok moment =>
        [.ofClass "result-annotate", ⟨"title", escape ("Last modified: " ++ moment.short)⟩]
  else []

/-- A link to a view of a file. -/
def fileLink (p : Page) (view path query title label : Text) : Document :=
  link (Uri.encodePath p.settings.contextPath ++ view ++ Uri.encodePath path ++ query)
    [⟨"title", title⟩] [.text label]

/-- The links to the history, the annotation and the download of a file as a document. -/
def fileLinksDocument (p : Page) (path : Text) : Document :=
  element "td" [.ofClass "q"]
    (p.fileLink "/history/" path [] "History" "H" ++
      .text " " :: (p.fileLink "/xref/" path "?a=true" "Annotate" "A" ++
      .text " " :: p.fileLink "/download/" path [] "Download" "D"))

/-- The snippet of a hit as a document; nothing if the page shows none. -/
def snippetDocument (p : Page) (hit : Hit) (tabSize : Int) : Except Fault Document :=
  if p.settings.sourceContext then p.extractor.parts hit tabSize >>= SnippetParts.document
  else .ok []

/-- The row of a hit around its snippet. -/
def rowAround (p : Page) (index : Nat) (hit : Hit) (path : Text) (snippet : Document) :
    Document :=
  element "tr" (if index % 2 = 0 then [.ofClass "search-result-even-row"] else [])
    (p.fileLinksDocument path ++
      (element "td" [.ofClass "f"] (link (p.xrefBase ++ "/" ++ Uri.encodePath path)
        (p.editedAttributes hit) [.text (nameOf path)]) ++
      element "td" [] (element "code" [.ofClass "con"] snippet))) ++ [.text "\n"]

/-- The row of a hit as a document. -/
def rowDocument (p : Page) (tabSize : Int) (index : Nat) (id : DocumentId) :
    Except Fault Document := do
  let hit ← p.read id
  match hit.path with
  | none => throw .wrongKind
  | some path => return p.rowAround index hit path (← p.snippetDocument hit tabSize)

theorem write_fileLinksDocument (path : Text) :
    (p.fileLinksDocument path).write =
      fileLinks p.settings.contextPath (Uri.encodePath path) := by
  have hspace (d : Document) : Document.write (.text " " :: d) = " " ++ d.write := rfl
  have hlabel (t : Text) : Document.write [.text t] = escape t := Document.write_text t
  unfold fileLinksDocument fileLink fileLinks
  rw [Document.write_element, Document.write_append, hspace, Document.write_append, hspace,
    Document.write_link, Document.write_link, Document.write_link, hlabel, hlabel, hlabel]
  simp [openTag, closeTag, Attribute.write, Attribute.quoted, Attribute.ofClass]
  rfl

/-- What a row says about when its hit was last edited. -/
theorem write_editedAttributes (hit : Hit) (path : Text) :
    (p.editedAttributes hit).flatMap (·.write) =
      if p.settings.lastEditedDisplay then (lastEdited hit path).text else [] := by
  unfold editedAttributes lastEdited
  split
  · cases hit.date with
    | none => rfl
    | some date =>
      simp only
      cases Calendar.parseIndexDate date with
      | error f => simp only; split <;> rfl
      | ok moment =>
        have hescape : escape ("Last modified: " ++ moment.short) =
            "Last modified: " ++ escape moment.short := List.flatMap_append
        simp only [List.flatMap_cons, Attribute.write, Attribute.quoted, Attribute.ofClass, hescape]
        simp
  · rfl

theorem write_rowAround (index : Nat) (hit : Hit) (path : Text) (snippet : Document) :
    (p.rowAround index hit path snippet).write =
      rowTag index ++
        ((p.fileCells hit path).text ++ (snippet.write ++ "</code></td></tr>\n")) := by
  have htag : openTag "tr" (if index % 2 = 0 then [.ofClass "search-result-even-row"] else []) =
      rowTag index := by
    unfold rowTag
    split <;> rfl
  have hbreak : Document.write [.text "\n"] = "\n" := rfl
  rw [rowAround, Document.write_append, hbreak, Document.write_element, htag,
    Document.write_append, Document.write_append, write_fileLinksDocument, Document.write_element,
    Document.write_element, Document.write_element, Document.write_link, Document.write_text,
    write_editedAttributes hit path, (fileCells_eq hit path).1]
  simp [openTag, closeTag, Attribute.write, Attribute.quoted, Attribute.ofClass]

theorem snippetText_eq (hit : Hit) (tabSize : Int) :
    p.snippetText hit tabSize = (p.snippetDocument hit tabSize).map Document.write := by
  unfold snippetText snippetDocument
  split
  · rw [SnippetExtractor.map_text_extract]
    cases p.extractor.parts hit tabSize with
    | error f => rfl
    | ok parts => exact parts.text_eq
  · rfl

theorem exists_rowDocument (hhistory : p.history = none) {tabSize : Int} {index : Nat}
    {id : DocumentId} (h : (p.row tabSize index id).result = .ok ()) :
    ∃ d, p.rowDocument tabSize index id = .ok d ∧ (p.row tabSize index id).text = d.write := by
  obtain ⟨hit, hread, hrow, _⟩ := Draft.exists_of_result_bind h
  have hread : p.read id = .ok hit := hread
  cases hpath : hit.path with
  | none =>
    rw [hpath] at hrow
    cases hrow
  | some path =>
    have hnone : (p.historyOf path).text = [] := by
      unfold historyOf
      rw [hhistory]
      cases p.settings.historyContext <;> rfl
    rw [row_of_path hread hpath] at h ⊢
    obtain ⟨_, hopening, hcells, _⟩ := Draft.exists_of_result_bind h
    cases hsnippet : p.snippetDocument hit tabSize with
    | error f =>
      have hfails : p.snippetText hit tabSize = .error f := by
        rw [snippetText_eq, hsnippet]
        rfl
      rw [(cells_of_error hfails path).2] at hcells
      cases hcells
    | ok snippet =>
      have htext : p.snippetText hit tabSize = .ok snippet.write := by
        rw [snippetText_eq, hsnippet]
        rfl
      refine ⟨p.rowAround index hit path snippet, ?_, ?_⟩
      · rw [rowDocument, hread]
        simp only [bind, Except.bind, hpath, hsnippet]
        rfl
      · rw [Draft.text_bind_of_ok hopening, (cells_of_ok htext path).1, hnone, write_rowAround]
        rfl

/-- The rows of hits as a document, counted from `index` on. -/
def rowsDocument (p : Page) (tabSize : Int) (index : Nat) :
    List DocumentId → Except Fault Document
  | [] => .ok []
  | id :: rest => do
    let first ← p.rowDocument tabSize index id
    let more ← p.rowsDocument tabSize (index + 1) rest
    return first ++ more

theorem exists_rowsDocument (hhistory : p.history = none) {tabSize : Int} {index : Nat}
    {ids : List DocumentId} (h : (p.rows tabSize index ids).result = .ok ()) :
    ∃ d, p.rowsDocument tabSize index ids = .ok d ∧
      (p.rows tabSize index ids).text = d.write := by
  induction ids generalizing index with
  | nil => exact ⟨[], rfl, rfl⟩
  | cons id rest ih =>
    rw [rows_cons] at h ⊢
    obtain ⟨_, hfirst, hrest, htext⟩ := Draft.exists_of_result_bind h
    obtain ⟨first, hfirst, hfirstText⟩ := exists_rowDocument hhistory hfirst
    obtain ⟨more, hmore, hmoreText⟩ := ih hrest
    refine ⟨first ++ more, ?_, ?_⟩
    · rw [rowsDocument, hfirst, hmore]
      rfl
    · rw [htext, hfirstText, hmoreText, Document.write_append]

/-! ## Pages -/

/-- Groups as a document; `index` counts the rows of the page before them. -/
def groupsDocument (p : Page) (index : Nat) : List DirectoryGroup → Except Fault Document
  | [] => .ok []
  | g :: rest => do
    let (project, header) ← p.headerDocument g.directory
    let rows ← p.rowsDocument (tabSize p.settings project) index g.ids
    let more ← p.groupsDocument (index + g.ids.length) rest
    return header ++ (rows ++ more)

/-- The hits from `start` up to but not including `stop` as a document. -/
def document (p : Page) (start stop : Int) : Except Fault Document := do
  let found ← (groupByDirectory p.read p.hits start stop).result
  let groups ← p.groupsDocument 0 found
  return element "tbody" [.ofClass "search-result"] groups

theorem exists_groupsDocument (hhistory : p.history = none) {index : Nat}
    {found : List DirectoryGroup} (h : (p.groups index found).result = .ok ()) :
    ∃ d, p.groupsDocument index found = .ok d ∧ (p.groups index found).text = d.write := by
  induction found generalizing index with
  | nil => exact ⟨[], rfl, rfl⟩
  | cons g rest ih =>
    rw [groups_cons] at h ⊢
    obtain ⟨project, hheader, h, htext⟩ := Draft.exists_of_result_bind h
    obtain ⟨_, hrows, hrest, hmoreText⟩ := Draft.exists_of_result_bind h
    obtain ⟨header, hheader, hheaderText⟩ := exists_headerDocument hheader
    obtain ⟨rows, hrows, hrowsText⟩ := exists_rowsDocument hhistory hrows
    obtain ⟨more, hmore, hrestText⟩ := ih hrest
    refine ⟨header ++ (rows ++ more), ?_, ?_⟩
    · rw [groupsDocument, hheader]
      simp only [bind, Except.bind, hrows, hmore]
      rfl
    · rw [htext, hmoreText, hheaderText, hrowsText, hrestText, Document.write_append,
        Document.write_append]

/-- A page that comes to its end is the markup of its document. -/
theorem exists_document (hhistory : p.history = none) {start stop : Int}
    (h : Succeeds (p.render start stop).result) :
    ∃ d, p.document start stop = .ok d ∧ (p.render start stop).text = d.write := by
  cases hfound : (groupByDirectory p.read p.hits start stop).result with
  | error f =>
    rw [(render_of_not_found hfound).2] at h
    exact absurd h (not_succeeds_error f)
  | ok found =>
    obtain ⟨htext, hresult⟩ := render_of_found hfound
    rw [hresult] at h
    obtain ⟨_, h⟩ := h
    obtain ⟨_, hgroups, _, hwritten⟩ := Draft.exists_of_result_bind h
    obtain ⟨groups, hgroups, hgroupsText⟩ := exists_groupsDocument hhistory hgroups
    refine ⟨element "tbody" [.ofClass "search-result"] groups, ?_, ?_⟩
    · rw [document, hfound]
      simp only [bind, Except.bind, hgroups]
      rfl
    · rw [htext, hwritten, hgroupsText, Document.write_element]
      rfl

/-! ## Pages are safe -/

theorem isLink_xrefBase (p : Page) : IsLink p.xrefBase :=
  p.extractor.isLink_xrefBase

theorem isSafe_descriptionDocument {directory : Text} {d : Document}
    (h : p.descriptionDocument directory = .ok d) : d.IsSafe := by
  obtain ⟨found, _, h⟩ := exists_of_bind_eq_ok h
  split at h
  case h_1 =>
    cases h
    exact nofun
  case h_2 =>
    cases h
    refine Document.isSafe_cons.mpr ⟨trivial, ?_⟩
    exact Document.isSafe_element (by decide +kernel) nofun (Document.isSafe_text _)
  case h_3 => cases h

theorem isSafe_markAttributes (messages : List Json) :
    ∀ a ∈ [Attribute.ofClass "important-note important-note-rounded",
      ⟨"data-messages", escape (Json.arr messages).write⟩], a.IsSafe := by
  rw [List.forall_mem_cons, List.forall_mem_singleton]
  exact ⟨Attribute.isSafe_ofClass (by decide), Attribute.isSafe_escape (by decide) _⟩

theorem isSafe_markDocument (name : Text) (messages : List Json) :
    (p.markDocument name messages).IsSafe := by
  refine Document.isSafe_cons.mpr ⟨trivial, ?_⟩
  refine Document.isSafe_link (SourceContext.isLink_child p.isLink_xrefBase name) nofun ?_
  exact Document.isSafe_element (by decide +kernel) (isSafe_markAttributes messages)
    (Document.isSafe_text "!")

theorem isSafe_messagesDocument {project : Option Project} {d : Document}
    (h : p.messagesDocument project = .ok d) : d.IsSafe := by
  unfold messagesDocument at h
  split at h
  case h_1 =>
    cases h
    exact nofun
  case h_2 =>
    obtain ⟨pending, _, h⟩ := exists_of_bind_eq_ok h
    split at h
    case h_1 =>
      cases h
      exact nofun
    case h_2 =>
      split at h
      case h_1 =>
        cases h
        exact isSafe_markDocument _ _
      case h_2 => cases h

theorem isLink_directoryLink (directory : Text) : IsLink (p.directoryLink directory) := by
  have hslash : IsLink "/" := by decide
  unfold directoryLink
  rw [isLink_append, isLink_append]
  refine ⟨⟨p.isLink_xrefBase, hslash⟩, ?_⟩
  split
  · decide
  · exact isLink_append.mpr ⟨isLink_encodePath directory, hslash⟩

theorem isSafe_headerAround {description messages : Document} (directory : Text)
    (hdescription : description.IsSafe) (hmessages : messages.IsSafe) :
    (p.headerAround directory description messages).IsSafe := by
  have hspan : Attribute.IsSafe ⟨"colspan", "3"⟩ :=
    Attribute.isSafe_of_isLink (by decide) (by decide)
  have hlabel : Document.IsSafe [.text directory, .text "/"] := by
    simp [Document.IsSafe, Token.IsSafe]
  refine Document.isSafe_styled (by decide +kernel) (by decide) ?_
  refine Document.isSafe_element (by decide +kernel) (List.forall_mem_singleton.mpr hspan) ?_
  rw [Document.isSafe_append, Document.isSafe_append]
  exact ⟨Document.isSafe_link (isLink_directoryLink directory) (List.forall_mem_nil _) hlabel,
    hdescription, hmessages⟩

theorem isSafe_headerDocument {directory : Text} {project : Option Project} {d : Document}
    (h : p.headerDocument directory = .ok (project, d)) : d.IsSafe := by
  obtain ⟨description, hdescription, h⟩ := exists_of_bind_eq_ok h
  obtain ⟨found, _, h⟩ := exists_of_bind_eq_ok h
  obtain ⟨messages, hmessages, h⟩ := exists_of_bind_eq_ok h
  cases h
  exact isSafe_headerAround directory (isSafe_descriptionDocument hdescription)
    (isSafe_messagesDocument hmessages)

theorem isSafe_editedAttributes (hit : Hit) : ∀ a ∈ p.editedAttributes hit, a.IsSafe := by
  unfold editedAttributes
  split
  · split
    · exact nofun
    · split
      · exact nofun
      · rw [List.forall_mem_cons, List.forall_mem_singleton]
        exact ⟨Attribute.isSafe_ofClass (by decide), Attribute.isSafe_escape (by decide) _⟩
  · exact nofun

section FileLink

variable {view query title : Text}

theorem isLink_fileLink (hview : IsLink view) (hquery : IsLink query) (path : Text) :
    IsLink (Uri.encodePath p.settings.contextPath ++ view ++ Uri.encodePath path ++ query) := by
  rw [isLink_append, isLink_append, isLink_append]
  exact ⟨⟨⟨isLink_encodePath _, hview⟩, isLink_encodePath path⟩, hquery⟩

theorem isSafe_fileLink (hview : IsLink view) (hquery : IsLink query) (htitle : IsLink title)
    (path label : Text) : (p.fileLink view path query title label).IsSafe := by
  refine Document.isSafe_link (isLink_fileLink hview hquery path) ?_ (Document.isSafe_text label)
  exact List.forall_mem_singleton.mpr (Attribute.isSafe_of_isLink (by decide) htitle)

theorem shown_fileLink (hview : IsLink view) (hquery : IsLink query) (htitle : IsLink title)
    (path label : Text) : (p.fileLink view path query title label).shown = .ok label := by
  have hattributes : ∀ a ∈ [Attribute.mk "title" title], a.IsSafe :=
    List.forall_mem_singleton.mpr (Attribute.isSafe_of_isLink (by decide) htitle)
  rw [fileLink, Document.shown_link (isLink_fileLink hview hquery path) hattributes,
    Document.shown_text]

end FileLink

theorem isSafe_fileLinksDocument (path : Text) : (p.fileLinksDocument path).IsSafe := by
  refine Document.isSafe_styled (by decide +kernel) (by decide) ?_
  rw [Document.isSafe_append, Document.isSafe_cons, Document.isSafe_append, Document.isSafe_cons]
  refine ⟨isSafe_fileLink ?_ ?_ ?_ path "H", trivial, isSafe_fileLink ?_ ?_ ?_ path "A", trivial,
    isSafe_fileLink ?_ ?_ ?_ path "D"⟩
  all_goals decide

theorem isSafe_snippetDocument {hit : Hit} {tabSize : Int} {d : Document}
    (h : p.snippetDocument hit tabSize = .ok d) : d.IsSafe := by
  unfold snippetDocument at h
  split at h
  case isTrue =>
    obtain ⟨parts, hparts, h⟩ := exists_of_bind_eq_ok h
    exact (SnippetExtractor.hasLinks_of_parts hparts).isSafe h
  case isFalse =>
    cases h
    exact nofun

theorem isSafe_shading (index : Nat) :
    ∀ a ∈ (if index % 2 = 0 then [Attribute.ofClass "search-result-even-row"] else []),
      a.IsSafe := by
  split
  · exact List.forall_mem_singleton.mpr (Attribute.isSafe_ofClass (by decide))
  · exact nofun

theorem isSafe_rowAround (index : Nat) (hit : Hit) (path : Text) {snippet : Document}
    (h : snippet.IsSafe) : (p.rowAround index hit path snippet).IsSafe := by
  refine Document.isSafe_append.mpr ⟨?_, Document.isSafe_text "\n"⟩
  refine Document.isSafe_element (by decide +kernel) (isSafe_shading index) ?_
  rw [Document.isSafe_append, Document.isSafe_append]
  refine ⟨isSafe_fileLinksDocument path, ?_, ?_⟩
  · refine Document.isSafe_styled (by decide +kernel) (by decide) ?_
    exact Document.isSafe_link (SourceContext.isLink_child p.isLink_xrefBase path)
      (isSafe_editedAttributes hit) (Document.isSafe_text (nameOf path))
  · refine Document.isSafe_element (by decide +kernel) nofun ?_
    exact Document.isSafe_styled (by decide +kernel) (by decide) h

theorem isSafe_rowDocument {tabSize : Int} {index : Nat} {id : DocumentId} {d : Document}
    (h : p.rowDocument tabSize index id = .ok d) : d.IsSafe := by
  obtain ⟨hit, _, h⟩ := exists_of_bind_eq_ok h
  split at h
  case h_1 => cases h
  case h_2 path _ =>
    obtain ⟨snippet, hsnippet, h⟩ := exists_of_bind_eq_ok h
    cases h
    exact isSafe_rowAround index hit path (isSafe_snippetDocument hsnippet)

theorem isSafe_rowsDocument {tabSize : Int} {index : Nat} {ids : List DocumentId} {d : Document}
    (h : p.rowsDocument tabSize index ids = .ok d) : d.IsSafe := by
  induction ids generalizing index d with
  | nil =>
    cases h
    exact nofun
  | cons id rest ih =>
    obtain ⟨first, hfirst, h⟩ := exists_of_bind_eq_ok h
    obtain ⟨more, hmore, h⟩ := exists_of_bind_eq_ok h
    cases h
    exact Document.isSafe_append.mpr ⟨isSafe_rowDocument hfirst, ih hmore⟩

theorem isSafe_groupsDocument {index : Nat} {found : List DirectoryGroup} {d : Document}
    (h : p.groupsDocument index found = .ok d) : d.IsSafe := by
  induction found generalizing index d with
  | nil =>
    cases h
    exact nofun
  | cons g rest ih =>
    obtain ⟨⟨project, header⟩, hheader, h⟩ := exists_of_bind_eq_ok h
    obtain ⟨rows, hrows, h⟩ := exists_of_bind_eq_ok h
    obtain ⟨more, hmore, h⟩ := exists_of_bind_eq_ok h
    cases h
    rw [Document.isSafe_append, Document.isSafe_append]
    exact ⟨isSafe_headerDocument hheader, isSafe_rowsDocument hrows, ih hmore⟩

/-- The document of a page is safe. -/
theorem isSafe_document {start stop : Int} {d : Document} (h : p.document start stop = .ok d) :
    d.IsSafe := by
  obtain ⟨found, _, h⟩ := exists_of_bind_eq_ok h
  obtain ⟨groups, hgroups, h⟩ := exists_of_bind_eq_ok h
  cases h
  exact Document.isSafe_styled (by decide +kernel) (by decide) (isSafe_groupsDocument hgroups)

end Page

end HitListing
