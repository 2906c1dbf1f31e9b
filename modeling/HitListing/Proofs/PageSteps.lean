import HitListing.Page
import HitListing.Proofs.Grouping
import HitListing.Proofs.IndexDates
import HitListing.Proofs.Projects

/-!
# Steps of a page

How a page comes about from its groups, headers and rows: what each of them
writes, and which of them can fail.  If descriptions and the roots of projects
are texts, nothing in a header can fail but the mark for pending messages
(`Page.HasTexts.exists_of_result_header`).  Of a row nothing but its snippet can
fail, and then the row breaks off right before it (`Page.cells_of_error`).
-/

namespace HitListing

/-! ## Snippets write nothing themselves -/

namespace SnippetExtractor

theorem text_readTags (tree : FileTree) (base : Path) (path : Text) (compressed : Bool) :
    (readTags tree base path compressed).text = [] := by
  unfold readTags
  cases readCached tree base path compressed with
  | ok t => rfl
  | error f =>
    show (if isNoted f then _ else _ : Draft Text).text = []
    split
    · rfl
    · rfl

theorem text_excerpt (x : SnippetExtractor) (base : Path) (path : Text) (compressed : Bool)
    (source : SnippetSource) : (x.excerpt base path compressed source).text = [] := by
  unfold excerpt
  cases x.summarizer with
  | none => rfl
  | some s =>
    have htags := text_readTags x.tree base path compressed
    show (readTags x.tree base path compressed >>= _).text = []
    cases hread : (readTags x.tree base path compressed).result with
    | error f => rw [Draft.text_bind_of_error hread, htags]
    | ok t =>
      rw [Draft.text_bind_of_ok hread, htags]
      cases t with
      | nil => rfl
      | cons c t => rfl

theorem text_context (x : SnippetExtractor) (hit : Hit) (path : Text) (tabSize : Int) :
    (x.context hit path tabSize).text = [] := by
  unfold context
  cases hindex : x.fromIndex hit tabSize with
  | error f => rfl
  | ok found =>
    cases found with
    | ok t => rfl
    | error reason =>
      rw [Draft.ofExcept_ok, pure_bind]
      cases x.live with
      | none => rfl
      | some c =>
        show (Draft.note _ >>= fun _ => Draft.ofExcept
          (LiveContext.render c x.tree x.settings.sourceRoot hit x.xrefBase x.moreBase tabSize) >>=
            fun t => (pure ⟨t, .slow⟩ : Draft Snippet)).text = []
        cases LiveContext.render c x.tree x.settings.sourceRoot hit x.xrefBase x.moreBase
          tabSize with
        | error f => rfl
        | ok t => rfl

theorem text_extract (x : SnippetExtractor) (hit : Hit) (tabSize : Int) :
    (x.extract hit tabSize).text = [] := by
  unfold extract
  split
  · rfl
  · rfl
  · exact text_excerpt x _ _ _ _
  · exact text_excerpt x _ _ _ _
  · exact text_context x _ _ _

end SnippetExtractor

namespace Page

/-- What opens a page. -/
def opening : Text := "<tbody class=\"search-result\">"

/-- What closes a page. -/
def closing : Text := "</tbody>"

variable {p : Page}

/-! ## Groups -/

/-- A page whose groups are known. -/
theorem render_of_found {start stop : Int} {found : List DirectoryGroup}
    (h : (groupByDirectory p.read p.hits start stop).result = .ok found) :
    (p.render start stop).text =
        opening ++ (p.groups 0 found >>= fun _ => Draft.write closing).text ∧
      (p.render start stop).result =
        (p.groups 0 found >>= fun _ => Draft.write closing).result := by
  have htext : (groupByDirectory p.read p.hits start stop).text = [] := text_gather _ _
  have hopen : (Draft.write "<tbody class=\"search-result\">").result = .ok () := rfl
  rw [render, Draft.bind_of_ok hopen, Draft.bind_of_ok h, htext]
  exact ⟨rfl, rfl⟩

/-- A page whose groups cannot be had. -/
theorem render_of_not_found {start stop : Int} {f : Fault}
    (h : (groupByDirectory p.read p.hits start stop).result = .error f) :
    (p.render start stop).text = opening ∧ (p.render start stop).result = .error f := by
  have htext : (groupByDirectory p.read p.hits start stop).text = [] := text_gather _ _
  have hopen : (Draft.write "<tbody class=\"search-result\">").result = .ok () := rfl
  rw [render, Draft.bind_of_ok hopen, Draft.bind_of_error h, htext]
  exact ⟨rfl, rfl⟩

theorem groups_cons (index : Nat) (g : DirectoryGroup) (found : List DirectoryGroup) :
    p.groups index (g :: found) =
      (p.header g.directory >>= fun project =>
        p.rows (tabSize p.settings project) index g.ids >>= fun _ =>
          p.groups (index + g.ids.length) found) := rfl

/-- Groups are written one after another. -/
theorem groups_append (first second : List DirectoryGroup) (index : Nat) :
    p.groups index (first ++ second) =
      (p.groups index first >>= fun _ =>
        p.groups (index + (first.flatMap (·.ids)).length) second) := by
  induction first generalizing index with
  | nil => exact (pure_bind _ _).symm
  | cons g first ih =>
    have hcount : index + g.ids.length + (first.flatMap (·.ids)).length =
        index + ((g :: first).flatMap (·.ids)).length := by
      rw [List.flatMap_cons, List.length_append]
      omega
    rw [List.cons_append, groups_cons, groups_cons, bind_assoc]
    simp only [ih, bind_assoc, hcount]

theorem groups_singleton (index : Nat) (g : DirectoryGroup) :
    p.groups index [g] =
      (p.header g.directory >>= fun project =>
        p.rows (tabSize p.settings project) index g.ids) := by
  show (p.header g.directory >>= fun project =>
    p.rows (tabSize p.settings project) index g.ids >>= fun _ => pure ()) = _
  simp only [bind_pure_unit]

/-! ## Rows -/

theorem rows_cons (tabSize : Int) (index : Nat) (id : DocumentId) (ids : List DocumentId) :
    p.rows tabSize index (id :: ids) =
      (p.row tabSize index id >>= fun _ => p.rows tabSize (index + 1) ids) := rfl

/-- Rows are written one after another. -/
theorem rows_append (tabSize : Int) (first second : List DocumentId) (index : Nat) :
    p.rows tabSize index (first ++ second) =
      (p.rows tabSize index first >>= fun _ => p.rows tabSize (index + first.length) second) := by
  induction first generalizing index with
  | nil => exact (pure_bind _ _).symm
  | cons id first ih =>
    have hcount : index + 1 + first.length = index + (id :: first).length := by
      rw [List.length_cons]
      omega
    rw [List.cons_append, rows_cons, rows_cons, bind_assoc]
    simp only [ih, hcount]

theorem rows_singleton (tabSize : Int) (index : Nat) (id : DocumentId) :
    p.rows tabSize index [id] = p.row tabSize index id := by
  show (p.row tabSize index id >>= fun _ => pure ()) = _
  exact bind_pure_unit

/-- The row of a hit with a path. -/
theorem row_of_path {id : DocumentId} {hit : Hit} {path : Text} (hread : p.read id = .ok hit)
    (hpath : hit.path = some path) (tabSize : Int) (index : Nat) :
    p.row tabSize index id =
      (Draft.write (rowTag index) >>= fun _ => p.cells tabSize hit path) := by
  rw [row, hread, Draft.ofExcept_ok, pure_bind, hpath]

/-! ## Headers -/

/-- Whether the description of a directory is a text, or there is none. -/
def IsDescribed (p : Page) (directory : Text) : Prop :=
  p.describe directory = .ok none ∨ ∃ t, p.describe directory = .ok (some (.str t))

/-- A description is written exactly if it is a text. -/
theorem result_description_eq_ok_iff {directory : Text} :
    (p.description directory).result = .ok () ↔ p.IsDescribed directory := by
  unfold description IsDescribed
  cases p.describe directory with
  | error f => exact iff_of_false nofun (by simp)
  | ok found =>
    cases found with
    | none => exact iff_of_true rfl (Or.inl rfl)
    | some value =>
      cases value with
      | str t => exact iff_of_true rfl (Or.inr ⟨t, rfl⟩)
      | _ => exact iff_of_false nofun (by simp)

/-- Whether descriptions and the roots of projects are texts, with projects as they are
loaded and a clock that is set. -/
structure HasTexts (p : Page) : Prop where
  descriptions : ∀ table ∈ p.descriptions, ∃ fields, table = .obj fields ∧
    ∀ field ∈ fields, ∃ t, field.2 = .str t
  loaded : ∀ registry ∈ p.projects, ∃ rows, Registry.load rows = .ok registry
  roots : ∀ registry ∈ p.projects, ∀ project ∈ registry.projects, ∃ t, project.path = .str t
  now : p.now.offset.isSome

theorem HasTexts.isDescribed (h : p.HasTexts) (directory : Text) : p.IsDescribed directory := by
  unfold IsDescribed describe
  cases htable : p.descriptions with
  | none => exact Or.inl rfl
  | some table =>
    obtain ⟨fields, rfl, htexts⟩ := h.descriptions table htable
    cases hfound : Json.lookup directory fields with
    | none =>
      left
      simp [Json.fieldsOf, hfound, bind, Except.bind, pure, Except.pure]
    | some value =>
      right
      obtain ⟨before, after, hfields, _⟩ := List.lookup_eq_some_iff.mp hfound
      have hmem : (directory, value) ∈ fields := by
        rw [hfields]
        exact List.mem_append_right before List.mem_cons_self
      obtain ⟨t, ht⟩ := htexts _ hmem
      obtain rfl : value = .str t := ht
      exact ⟨t, by simp [Json.fieldsOf, hfound, bind, Except.bind, pure, Except.pure]⟩

theorem HasTexts.exists_projectOf (h : p.HasTexts) (directory : Text) :
    ∃ found, p.projectOf directory = .ok found ∧ ∀ project ∈ found, project.IsTimed := by
  unfold Page.projectOf
  cases hregistry : p.projects with
  | none => exact ⟨none, rfl, nofun⟩
  | some registry =>
    obtain ⟨found, hfound, hmem⟩ :=
      Registry.exists_projectFor (h.roots registry hregistry) directory
    obtain ⟨rows, hload⟩ := h.loaded registry hregistry
    exact ⟨found, hfound, fun project hproject =>
      Registry.isTimed_of_load hload project (hmem project hproject)⟩

/-- A mark is written if the project has a text as its name and the messages can be written. -/
theorem result_mark (project : Project) (messages : List Json) :
    (p.mark project messages).result =
      (nameLink project.name >>= fun _ => (Json.arr messages).dump >>= fun _ => .ok ()) := by
  unfold mark
  cases nameLink project.name with
  | error f => rfl
  | ok name =>
    cases (Json.arr messages).dump with
    | error f => rfl
    | ok written => rfl

/-- What is written if there is a mark. -/
theorem exists_of_mark {project : Project} {messages : List Json}
    (h : (p.mark project messages).result = .ok ()) :
    ∃ name, project.name = .str name ∧ (p.mark project messages).text =
      (" <a href=\"" ++ p.xrefBase ++ "/" ++ Uri.encodePath name ++ "\">") ++
        ("<span class=\"important-note important-note-rounded\" data-messages=\"" ++
          (Markup.escape (Json.arr messages).write ++ "\">!</span></a>")) := by
  rw [result_mark] at h
  obtain ⟨encoded, hlink, h⟩ := exists_of_bind_eq_ok h
  obtain ⟨written, hdump, _⟩ := exists_of_bind_eq_ok h
  obtain rfl := Json.eq_write_of_dump hdump
  cases hname : project.name with
  | str name =>
    refine ⟨name, rfl, ?_⟩
    rw [mark, hname, nameLink, hdump]
    rfl
  | _ =>
    rw [hname] at hlink
    cases hlink

/-- Of a mark for a project without a text as its name nothing is written. -/
theorem text_mark_of_name_ne {project : Project} (h : ∀ name, project.name ≠ .str name)
    (messages : List Json) : (p.mark project messages).text = [] := by
  unfold mark
  cases hname : project.name with
  | str name => exact absurd hname (h name)
  | _ => rfl

/-- Why no mark can be written. -/
theorem of_result_mark_error {project : Project} {messages : List Json} {f : Fault}
    (h : (p.mark project messages).result = .error f) :
    (f = .wrongKind ∧ ∀ name, project.name ≠ .str name) ∨
      (f = .badValue ∧ (Json.arr messages).numeralsFit = false) := by
  rw [result_mark] at h
  cases hname : project.name with
  | str name =>
    rw [hname] at h
    change ((Json.arr messages).dump >>= fun _ => .ok ()) = .error f at h
    cases hfits : (Json.arr messages).numeralsFit with
    | false =>
      rw [Json.dump_of_not_fits hfits] at h
      cases h
      exact Or.inr ⟨rfl, rfl⟩
    | true =>
      rw [Json.dump_of_fits hfits] at h
      cases h
  | _ =>
    rw [hname] at h
    cases h
    exact Or.inl ⟨rfl, nofun⟩

/-- What is written for a project whose pending messages are known. -/
theorem messages_of_ok {project : Project} {entries : List Json}
    (h : project.messagesJson Message.mainTag p.now = .ok entries) :
    p.messages (some project) = if entries = [] then pure () else p.mark project entries := by
  unfold messages
  simp only [h, Draft.ofExcept_ok, pure_bind]
  cases entries with
  | nil => rfl
  | cons first rest => rw [if_neg (List.cons_ne_nil first rest)]

/-- A header gives its project. -/
theorem projectOf_of_result_header {directory : Text} {project : Option Project}
    (h : (p.header directory).result = .ok project) : p.projectOf directory = .ok project := by
  unfold header at h
  obtain ⟨_, _, h, _⟩ := Draft.exists_of_result_bind h
  obtain ⟨_, _, h, _⟩ := Draft.exists_of_result_bind h
  obtain ⟨found, hfound, h, _⟩ := Draft.exists_of_result_bind h
  obtain ⟨_, _, h, _⟩ := Draft.exists_of_result_bind h
  cases h
  exact hfound

/-- A header, as far as its mark. -/
theorem HasTexts.header_of_projectOf (h : p.HasTexts) {directory : Text}
    {found : Option Project} (hfound : p.projectOf directory = .ok found) :
    (p.header directory).result = (p.messages found >>= fun _ => pure found).result := by
  unfold header
  rw [hfound, Draft.result_bind_of_ok rfl,
    Draft.result_bind_of_ok (result_description_eq_ok_iff.mpr (h.isDescribed directory)),
    Draft.ofExcept_ok, pure_bind]
  cases hmessages : (p.messages found).result with
  | error f => rw [Draft.result_bind_of_error hmessages, Draft.result_bind_of_error hmessages]
  | ok done =>
    rw [Draft.result_bind_of_ok hmessages, Draft.result_bind_of_ok hmessages]
    rfl

/-- All that can fail in a header is the mark for the pending messages of its project. -/
theorem HasTexts.exists_of_result_header (h : p.HasTexts) {directory : Text} {f : Fault}
    (hfail : (p.header directory).result = .error f) :
    ∃ project messages, p.projectOf directory = .ok (some project) ∧
      project.messagesJson Message.mainTag p.now = .ok messages ∧ messages ≠ [] ∧
      (p.mark project messages).result = .error f := by
  obtain ⟨found, hfound, htimed⟩ := h.exists_projectOf directory
  rw [h.header_of_projectOf hfound] at hfail
  cases found with
  | none => cases hfail
  | some project =>
    obtain ⟨messages, hmessages⟩ :=
      Project.succeeds_messagesJson (htimed project rfl) h.now Message.mainTag
    rw [messages_of_ok hmessages] at hfail
    by_cases hnone : messages = []
    · rw [if_pos hnone] at hfail
      cases hfail
    · rw [if_neg hnone] at hfail
      refine ⟨project, messages, hfound, hmessages, hnone, ?_⟩
      cases hmark : (p.mark project messages).result with
      | error g =>
        rw [Draft.result_bind_of_error hmark] at hfail
        exact congrArg Except.error (Except.error.inj hfail)
      | ok done =>
        rw [Draft.result_bind_of_ok hmark] at hfail
        cases hfail

/-! ## Cells -/

theorem result_lastEdited (hit : Hit) (path : Text) : (lastEdited hit path).result = .ok () := by
  unfold lastEdited
  cases hit.date with
  | none => rfl
  | some date =>
    simp only
    cases hdate : Calendar.parseIndexDate date with
    | error f => simp only [Calendar.failsOnlyWith_parseIndexDate date f hdate]; rfl
    | ok moment => rfl

/-- What the row of a hit shows before its snippet. -/
theorem fileCells_eq (hit : Hit) (path : Text) :
    (p.fileCells hit path).text =
        (fileLinks p.settings.contextPath (Uri.encodePath path) ++ "<td class=\"f\"><a href=\"" ++
          p.xrefBase ++ "/" ++ Uri.encodePath path ++ "\"") ++
        ((if p.settings.lastEditedDisplay then (lastEdited hit path).text else []) ++
          (">" ++ Markup.escape (nameOf path) ++ "</a></td><td><code class=\"con\">")) ∧
      (p.fileCells hit path).result = .ok () := by
  unfold fileCells
  rw [Draft.bind_of_ok rfl]
  split
  · rw [Draft.bind_of_ok (result_lastEdited hit path)]
    exact ⟨rfl, rfl⟩
  · exact ⟨rfl, rfl⟩

/-- What comes before a snippet ends with the tag that holds the snippet. -/
theorem exists_text_fileCells (hit : Hit) (path : Text) :
    ∃ start, (p.fileCells hit path).text = start ++ "<code class=\"con\">".toList := by
  have hend : "</a></td><td><code class=\"con\">".toList =
      "</a></td><td>".toList ++ "<code class=\"con\">".toList := rfl
  rw [(fileCells_eq hit path).1, hend, ← List.append_assoc _ _ "<code class=\"con\">".toList,
    ← List.append_assoc _ _ "<code class=\"con\">".toList,
    ← List.append_assoc _ _ "<code class=\"con\">".toList]
  exact ⟨_, rfl⟩

/-- The snippet of a hit; nothing if the page shows none. -/
def snippetText (p : Page) (hit : Hit) (tabSize : Int) : Except Fault Text :=
  if p.settings.sourceContext then (p.extractor.extract hit tabSize).result.map Snippet.text
  else .ok []

theorem snippet_of_ok {hit : Hit} {tabSize : Int} {t : Text}
    (h : p.snippetText hit tabSize = .ok t) :
    (p.snippet hit tabSize).text = t ∧ (p.snippet hit tabSize).result = .ok () := by
  unfold snippetText at h
  unfold snippet
  split at h
  case isTrue hshown =>
    have htext := p.extractor.text_extract hit tabSize
    rw [if_pos hshown]
    cases hresult : (p.extractor.extract hit tabSize).result with
    | error e =>
      rw [hresult] at h
      cases h
    | ok s =>
      rw [hresult] at h
      cases h
      rw [Draft.bind_of_ok hresult, htext]
      exact ⟨rfl, rfl⟩
  case isFalse hhidden =>
    cases h
    rw [if_neg hhidden]
    exact ⟨rfl, rfl⟩

theorem snippet_of_error {hit : Hit} {tabSize : Int} {f : Fault}
    (h : p.snippetText hit tabSize = .error f) :
    (p.snippet hit tabSize).text = [] ∧ (p.snippet hit tabSize).result = .error f := by
  unfold snippetText at h
  unfold snippet
  split at h
  case isTrue hshown =>
    have htext := p.extractor.text_extract hit tabSize
    rw [if_pos hshown]
    cases hresult : (p.extractor.extract hit tabSize).result with
    | error e =>
      rw [hresult] at h
      cases h
      rw [Draft.bind_of_error hresult, htext]
      exact ⟨rfl, rfl⟩
    | ok s =>
      rw [hresult] at h
      cases h
  case isFalse => cases h

theorem result_historyOf (p : Page) (path : Text) : (p.historyOf path).result = .ok () := by
  unfold historyOf
  split
  · rfl
  · rfl

/-- Cells with a snippet come to their end. -/
theorem cells_of_ok {hit : Hit} {tabSize : Int} {t : Text}
    (h : p.snippetText hit tabSize = .ok t) (path : Text) :
    (p.cells tabSize hit path).text =
        (p.fileCells hit path).text ++ (t ++ ((p.historyOf path).text ++
          "</code></td></tr>\n".toList)) ∧
      (p.cells tabSize hit path).result = .ok () := by
  obtain ⟨htext, hresult⟩ := snippet_of_ok h
  unfold cells
  rw [Draft.bind_of_ok (fileCells_eq hit path).2, Draft.bind_of_ok hresult,
    Draft.bind_of_ok (result_historyOf p path), htext]
  exact ⟨rfl, rfl⟩

/-- Cells whose snippet fails break off before it. -/
theorem cells_of_error {hit : Hit} {tabSize : Int} {f : Fault}
    (h : p.snippetText hit tabSize = .error f) (path : Text) :
    (p.cells tabSize hit path).text = (p.fileCells hit path).text ∧
      (p.cells tabSize hit path).result = .error f := by
  obtain ⟨htext, hresult⟩ := snippet_of_error h
  unfold cells
  rw [Draft.bind_of_ok (fileCells_eq hit path).2, Draft.bind_of_error hresult, htext,
    List.append_nil]
  exact ⟨rfl, rfl⟩

end Page

end HitListing
