import HitListing.Proofs.DocumentReading
import HitListing.Proofs.PageSteps
import Mathlib.Control.Monad.Basic

/-!
# Pages that break off

What a page leaves behind when it fails (`Page.render_error`).  If a hit of the
range cannot be read, nothing but the opening of the page has been written.
Otherwise a snippet has failed: the page breaks off right before it
(`Page.BreaksOff`), and any page that gets further with other files, and shows
the same until there, goes on from this text.  Or it was the mark for pending
messages, whose project has no text as its name, or whose messages hold a number
that is too long: then the page breaks off in the header of the directory
(`Page.BreaksOffAbove`), and does so whatever the files are.

A hit that cannot be read is reported as a fault of the index, unless its id is
a number that the index cannot be asked for, or has no text
(`Store.get_error_iff`).
-/

namespace HitListing

namespace Page

/-! ## Rows and their snippets -/

/-- The rows of groups in turn, each with its directory. -/
def rowsOf (found : List DirectoryGroup) : List (Text × DocumentId) :=
  found.flatMap fun g => g.ids.map fun id => (g.directory, id)

/-- The snippet of a row. -/
def snippetOf (p : Page) (row : Text × DocumentId) : Except Fault Text := do
  let project ← p.projectOf row.1
  let hit ← p.read row.2
  p.snippetText hit (tabSize p.settings project)

/-- The same page with other files. -/
def withTree (p : Page) (tree : FileTree) : Page :=
  { p with tree := tree }

/-- How a page breaks off, with a fault, in the row of a hit behind some rows. -/
structure BreaksOff (p : Page) (start stop : Int) (f : Fault)
    (earlier : List (Text × DocumentId)) (directory : Text) (id : DocumentId) : Prop where
  /-- The row is the one behind these. -/
  row : ∃ found later, (groupByDirectory p.read p.hits start stop).result = .ok found ∧
    rowsOf found = earlier ++ (directory, id) :: later
  /-- Its snippet is what fails. -/
  snippet : p.snippetOf (directory, id) = .error f
  /-- The last that is written is what the row shows before its snippet. -/
  last : ∃ hit path front, p.read id = .ok hit ∧ hit.path = some path ∧
    (p.render start stop).text = front ++ (rowTag earlier.length ++ (p.fileCells hit path).text)
  /-- This ends with the tag that holds the snippet. -/
  open_code : ∃ front, (p.render start stop).text = front ++ "<code class=\"con\">".toList
  /-- With any other files with which the page comes to its end and shows the same in the earlier
  rows, it goes on from there. -/
  goes_on : ∀ tree, Succeeds ((p.withTree tree).render start stop).result →
    (∀ row ∈ earlier, (p.withTree tree).snippetOf row = p.snippetOf row) →
    ∃ rest, rest ≠ [] ∧
      ((p.withTree tree).render start stop).text = (p.render start stop).text ++ rest

/-- How a page breaks off, with a fault, in the header of a directory. -/
structure BreaksOffAbove (p : Page) (start stop : Int) (f : Fault) (directory : Text) : Prop where
  /-- The directory is that of a group, and the groups before it are the last that is written, but
  for its header as far as that goes. -/
  last : ∃ before ids after, (groupByDirectory p.read p.hits start stop).result =
      .ok (before ++ ⟨directory, ids⟩ :: after) ∧
    (p.groups 0 before).result = .ok () ∧
    (p.render start stop).text =
      opening ++ ((p.groups 0 before).text ++ (p.header directory).text)
  /-- What fails is the mark for the pending messages of its project. -/
  mark : ∃ project messages, p.projectOf directory = .ok (some project) ∧
    project.messagesJson Message.mainTag p.now = .ok messages ∧ messages ≠ [] ∧
    ((f = .wrongKind ∧ ∀ name, project.name ≠ .str name) ∨
      (f = .badValue ∧ (Json.arr messages).numeralsFit = false))
  /-- With no other files does the page come to its end. -/
  fails : ∀ tree, ¬Succeeds ((p.withTree tree).render start stop).result

variable {p : Page}

/-! ## Pages with other files -/

@[simp] theorem settings_withTree (tree : FileTree) : (p.withTree tree).settings = p.settings := rfl

@[simp] theorem header_withTree (tree : FileTree) (directory : Text) :
    (p.withTree tree).header directory = p.header directory := rfl

@[simp] theorem fileCells_withTree (tree : FileTree) (hit : Hit) (path : Text) :
    (p.withTree tree).fileCells hit path = p.fileCells hit path := rfl

/-- Cells with the same snippet are the same. -/
theorem cells_agree {tree : FileTree} {hit : Hit} {tabSize : Int}
    (h : (p.withTree tree).snippetText hit tabSize = p.snippetText hit tabSize)
    (path : Text) :
    ((p.withTree tree).cells tabSize hit path).Agrees (p.cells tabSize hit path) := by
  cases hp : p.snippetText hit tabSize with
  | ok t =>
    rw [hp] at h
    obtain ⟨htext, hresult⟩ := cells_of_ok h path
    obtain ⟨htext', hresult'⟩ := cells_of_ok hp path
    exact ⟨by rw [htext, htext']; rfl, by rw [hresult, hresult']⟩
  | error f =>
    rw [hp] at h
    obtain ⟨htext, hresult⟩ := cells_of_error h path
    obtain ⟨htext', hresult'⟩ := cells_of_error hp path
    exact ⟨by rw [htext, htext']; rfl, by rw [hresult, hresult']⟩

theorem snippetOf_eq {directory : Text} {id : DocumentId} {project : Option Project} {hit : Hit}
    (hproject : p.projectOf directory = .ok project) (hread : p.read id = .ok hit) :
    p.snippetOf (directory, id) = p.snippetText hit (tabSize p.settings project) := by
  rw [snippetOf, hproject, hread]
  rfl

/-- Rows with the same snippets are the same. -/
theorem rows_agree {tree : FileTree} {directory : Text} {project : Option Project}
    {ids : List DocumentId} (hproject : p.projectOf directory = .ok project)
    (h : ∀ row ∈ ids.map fun id => (directory, id),
      (p.withTree tree).snippetOf row = p.snippetOf row) (index : Nat) :
    ((p.withTree tree).rows (tabSize p.settings project) index ids).Agrees
      (p.rows (tabSize p.settings project) index ids) := by
  induction ids generalizing index with
  | nil => exact Draft.Agrees.refl _
  | cons id ids ih =>
    obtain ⟨hid, hrest⟩ := List.forall_mem_cons.mp h
    apply Draft.Agrees.bind
    · apply Draft.Agrees.bind (Draft.Agrees.refl (Draft.ofExcept (p.read id)))
      intro hit hread
      cases hpath : hit.path with
      | none => exact Draft.Agrees.refl _
      | some path =>
        apply Draft.Agrees.bind (Draft.Agrees.refl _)
        intro _ _
        have hsame : (p.withTree tree).snippetText hit (tabSize p.settings project) =
            p.snippetText hit (tabSize p.settings project) := by
          have hother := snippetOf_eq (p := p.withTree tree) hproject hread
          rw [← snippetOf_eq hproject hread, ← hid]
          exact hother.symm
        exact cells_agree hsame path
    · intro _ _
      exact ih hrest (index + 1)

/-- Groups with the same snippets are the same. -/
theorem groups_agree {tree : FileTree} {found : List DirectoryGroup}
    (h : ∀ row ∈ rowsOf found, (p.withTree tree).snippetOf row = p.snippetOf row)
    (index : Nat) :
    ((p.withTree tree).groups index found).Agrees (p.groups index found) := by
  induction found generalizing index with
  | nil => exact Draft.Agrees.refl _
  | cons g found ih =>
    have hsplit : rowsOf (g :: found) = g.ids.map (fun id => (g.directory, id)) ++ rowsOf found :=
      List.flatMap_cons
    rw [hsplit, List.forall_mem_append] at h
    obtain ⟨hfirst, hrest⟩ := h
    apply Draft.Agrees.bind (Draft.Agrees.refl (p.header g.directory))
    intro project hproject
    apply Draft.Agrees.bind (rows_agree (projectOf_of_result_header hproject) hfirst index)
    intro _ _
    exact ih hrest _

/-! ## Where a page breaks off -/

/-- Rows of hits with paths break off in the first row whose snippet fails. -/
theorem rows_break {tabSize : Int} {ids : List DocumentId} {index : Nat} {f : Fault}
    (hpaths : ∀ id ∈ ids, (directory? p.read id).isSome)
    (h : (p.rows tabSize index ids).result = .error f) :
    ∃ before id after hit path, ids = before ++ id :: after ∧ p.read id = .ok hit ∧
      hit.path = some path ∧ p.snippetText hit tabSize = .error f ∧
      (p.rows tabSize index before).result = .ok () ∧
      (p.rows tabSize index ids).text = (p.rows tabSize index before).text ++
        (rowTag (index + before.length) ++ (p.fileCells hit path).text) := by
  induction ids generalizing index with
  | nil => cases h
  | cons id ids ih =>
    obtain ⟨hid, hrest⟩ := List.forall_mem_cons.mp hpaths
    obtain ⟨directory, hdir⟩ := Option.isSome_iff_exists.mp hid
    obtain ⟨hit, path, hread, hpath, _⟩ := directory?_eq_some_iff.mp hdir
    have htag : (Draft.write (rowTag index)).result = .ok () := rfl
    have hrow := row_of_path hread hpath tabSize index
    -- it breaks off in this row, or in one of the rest, whose rows count on from here
    cases hsnippet : p.snippetText hit tabSize with
    | error g =>
      obtain ⟨htext, hresult⟩ := cells_of_error hsnippet path
      have hfail : (p.row tabSize index id).result = .error g := by
        rw [hrow, Draft.result_bind_of_ok htag, hresult]
      rw [rows_cons, Draft.result_bind_of_error hfail] at h
      cases h
      refine ⟨[], id, ids, hit, path, rfl, hread, hpath, hsnippet, rfl, ?_⟩
      rw [rows_cons, Draft.text_bind_of_error hfail, hrow, Draft.text_bind_of_ok htag, htext]
      rfl
    | ok t =>
      obtain ⟨_, hresult⟩ := cells_of_ok hsnippet path
      have hdone : (p.row tabSize index id).result = .ok () := by
        rw [hrow, Draft.result_bind_of_ok htag, hresult]
      rw [rows_cons, Draft.result_bind_of_ok hdone] at h
      obtain ⟨before, other, after, hit, path, rfl, hread, hpath, hsnippet, hbefore, htext⟩ :=
        ih hrest h
      have hcount : index + 1 + before.length = index + (id :: before).length := by
        rw [List.length_cons]
        omega
      refine ⟨id :: before, other, after, hit, path, rfl, hread, hpath, hsnippet, ?_, ?_⟩
      · rw [rows_cons, Draft.result_bind_of_ok hdone, hbefore]
      · rw [rows_cons, rows_cons, Draft.text_bind_of_ok hdone, Draft.text_bind_of_ok hdone, htext,
          hcount, List.append_assoc]

/-- Groups break off in the header of one of them, or in its rows. -/
theorem groups_break {found : List DirectoryGroup} {index : Nat} {f : Fault}
    (h : (p.groups index found).result = .error f) :
    ∃ before g after, found = before ++ g :: after ∧ (p.groups index before).result = .ok () ∧
      ((p.header g.directory).result = .error f ∧
        (p.groups index found).text =
          (p.groups index before).text ++ (p.header g.directory).text ∨
      ∃ project, (p.header g.directory).result = .ok project ∧
        (p.rows (tabSize p.settings project) (index + (rowsOf before).length) g.ids).result =
          .error f ∧
        (p.groups index found).text = (p.groups index before).text ++
          ((p.header g.directory).text ++ (p.rows (tabSize p.settings project)
            (index + (rowsOf before).length) g.ids).text)) := by
  induction found generalizing index with
  | nil => cases h
  | cons g found ih =>
    cases hheader : (p.header g.directory).result with
    | error e =>
      rw [groups_cons, Draft.result_bind_of_error hheader] at h
      cases h
      refine ⟨[], g, found, rfl, rfl, Or.inl ⟨hheader, ?_⟩⟩
      rw [groups_cons, Draft.text_bind_of_error hheader]
      rfl
    | ok project =>
      cases hrows : (p.rows (tabSize p.settings project) index g.ids).result with
      | error e =>
        rw [groups_cons, Draft.result_bind_of_ok hheader, Draft.result_bind_of_error hrows] at h
        cases h
        refine ⟨[], g, found, rfl, rfl, Or.inr ⟨project, hheader, hrows, ?_⟩⟩
        rw [groups_cons, Draft.text_bind_of_ok hheader, Draft.text_bind_of_error hrows]
        rfl
      | ok done =>
        rw [groups_cons, Draft.result_bind_of_ok hheader, Draft.result_bind_of_ok hrows] at h
        obtain ⟨before, other, after, rfl, hbefore, hbreak⟩ := ih h
        have hcount : index + g.ids.length + (rowsOf before).length =
            index + (rowsOf (g :: before)).length := by
          have hsplit : rowsOf (g :: before) =
              g.ids.map (fun id => (g.directory, id)) ++ rowsOf before := List.flatMap_cons
          rw [hsplit, List.length_append, List.length_map]
          omega
        have hdone : (p.groups index (g :: before)).result = .ok () := by
          rw [groups_cons, Draft.result_bind_of_ok hheader, Draft.result_bind_of_ok hrows, hbefore]
        -- the rows of the groups before are counted from `index` in both
        rw [hcount] at hbreak
        refine ⟨g :: before, other, after, rfl, hdone, ?_⟩
        rw [groups_cons, groups_cons, Draft.text_bind_of_ok hheader, Draft.text_bind_of_ok hrows,
          Draft.text_bind_of_ok hheader, Draft.text_bind_of_ok hrows]
        refine hbreak.imp (fun hother => ⟨hother.1, ?_⟩) fun hother => ?_
        · rw [hother.2]
          simp only [List.append_assoc]
        · obtain ⟨next, hnext, hfail, htext⟩ := hother
          refine ⟨next, hnext, hfail, ?_⟩
          rw [htext]
          simp only [List.append_assoc]

/-- A row that comes to its end begins with what it shows before its snippet. -/
theorem exists_text_row {id : DocumentId} {hit : Hit} {path : Text} (hread : p.read id = .ok hit)
    (hpath : hit.path = some path) (tabSize : Int) (index : Nat) :
    ∃ rest, (p.row tabSize index id).text =
      rowTag index ++ (p.fileCells hit path).text ++ rest := by
  rw [row_of_path hread hpath]
  apply Draft.exists_text_bind rfl
  cases hsnippet : p.snippetText hit tabSize with
  | error f => exact ⟨[], by rw [(cells_of_error hsnippet path).1, List.append_nil]⟩
  | ok t => exact ⟨_, (cells_of_ok hsnippet path).1⟩

theorem length_rowsOf (found : List DirectoryGroup) :
    (rowsOf found).length = (found.flatMap (·.ids)).length := by
  simp [rowsOf, List.length_flatMap]

/-- Groups that come to their end begin with all that comes before the snippet of any of their
rows. -/
theorem exists_text_groups {before after : List DirectoryGroup} {directory : Text}
    {first second : List DocumentId} {id : DocumentId} {project : Option Project} {hit : Hit}
    {path : Text}
    (h : (p.groups 0 (before ++ ⟨directory, first ++ id :: second⟩ :: after)).result = .ok ())
    (hheader : (p.header directory).result = .ok project) (hread : p.read id = .ok hit)
    (hpath : hit.path = some path) :
    ∃ rest, (p.groups 0 (before ++ ⟨directory, first ++ id :: second⟩ :: after)).text =
      (p.groups 0 before).text ++ ((p.header directory).text ++
        ((p.rows (tabSize p.settings project) (rowsOf before).length first).text ++
          (rowTag ((rowsOf before).length + first.length) ++ (p.fileCells hit path).text))) ++
        rest := by
  rw [groups_append, Nat.zero_add, ← length_rowsOf, groups_cons] at h ⊢
  obtain ⟨_, hbefore, h, _⟩ := Draft.exists_of_result_bind h
  rw [Draft.result_bind_of_ok hheader] at h
  obtain ⟨_, hrows, _, htext⟩ := Draft.exists_of_result_bind h
  apply Draft.exists_text_bind hbefore
  rw [Draft.text_bind_of_ok hheader, htext, rows_append]
  rw [rows_append] at hrows
  obtain ⟨_, hfirst, hrest, hfirstText⟩ := Draft.exists_of_result_bind hrows
  rw [rows_cons] at hrest
  obtain ⟨_, _, _, hrowText⟩ := Draft.exists_of_result_bind hrest
  obtain ⟨rest, hrow⟩ := exists_text_row hread hpath (tabSize p.settings project)
    ((rowsOf before).length + first.length)
  rw [hfirstText, rows_cons, hrowText, hrow]
  exact ⟨_, by simp only [List.append_assoc]; rfl⟩

/-- A page breaks off in the row of a hit if the snippet fails, and is a beginning of the page with
other files. -/
theorem breaksOff {start stop : Int} {f : Fault} {before after : List DirectoryGroup}
    {directory : Text} {first second : List DocumentId} {id : DocumentId}
    {project : Option Project} {hit : Hit} {path : Text}
    (hfound : (groupByDirectory p.read p.hits start stop).result =
      .ok (before ++ ⟨directory, first ++ id :: second⟩ :: after))
    (hheader : (p.header directory).result = .ok project) (hread : p.read id = .ok hit)
    (hpath : hit.path = some path)
    (hsnippet : p.snippetText hit (tabSize p.settings project) = .error f)
    (htext : (p.render start stop).text =
      opening ++ ((p.groups 0 before).text ++ ((p.header directory).text ++
        ((p.rows (tabSize p.settings project) (rowsOf before).length first).text ++
          (rowTag ((rowsOf before).length + first.length) ++ (p.fileCells hit path).text))))) :
    p.BreaksOff start stop f (rowsOf before ++ first.map fun id => (directory, id)) directory
      id := by
  have hproject := projectOf_of_result_header hheader
  have hlength : (rowsOf before).length + first.length =
      (rowsOf before ++ first.map fun id => (directory, id)).length := by
    rw [List.length_append, List.length_map]
  have hlast : (p.render start stop).text =
      (opening ++ ((p.groups 0 before).text ++ ((p.header directory).text ++
        (p.rows (tabSize p.settings project) (rowsOf before).length first).text))) ++
        (rowTag (rowsOf before ++ first.map fun id => (directory, id)).length ++
          (p.fileCells hit path).text) := by
    rw [htext, hlength]
    simp only [List.append_assoc]
  constructor
  case row =>
    refine ⟨_, second.map (fun id => (directory, id)) ++ rowsOf after, hfound, ?_⟩
    simp [rowsOf]
  case snippet =>
    rw [snippetOf, hproject, hread]
    exact hsnippet
  case last => exact ⟨hit, path, _, hread, hpath, hlast⟩
  case open_code =>
    obtain ⟨front, hfront⟩ := exists_text_fileCells (p := p) hit path
    rw [hlast, hfront, ← List.append_assoc, ← List.append_assoc]
    exact ⟨_, rfl⟩
  case goes_on =>
    intro tree hdone hsame
    obtain ⟨htext', hresult'⟩ := render_of_found (p := p.withTree tree) hfound
    obtain ⟨_, hdone⟩ := hdone
    rw [hresult'] at hdone
    obtain ⟨_, hall, _, hwritten⟩ := Draft.exists_of_result_bind hdone
    rw [List.forall_mem_append] at hsame
    obtain ⟨hsameBefore, hsameFirst⟩ := hsame
    have hbeforeText := (groups_agree hsameBefore 0).1
    have hfirstText := (rows_agree hproject hsameFirst (rowsOf before).length).1
    obtain ⟨rest, hrest⟩ :=
      exists_text_groups (p := p.withTree tree) hall hheader hread hpath
    have hend : rest ++ closing ≠ [] := List.append_ne_nil_of_right_ne_nil rest (by decide)
    refine ⟨rest ++ closing, hend, ?_⟩
    rw [htext', hwritten, hrest, hbeforeText, settings_withTree, hfirstText, htext,
      header_withTree, fileCells_withTree, Draft.text_write]
    simp only [List.append_assoc]

/-- A page breaks off in the header of a directory if the mark in it fails, with all files. -/
theorem breaksOffAbove (htexts : p.HasTexts) {start stop : Int} {f : Fault}
    {before after : List DirectoryGroup} {directory : Text} {ids : List DocumentId}
    (hfound : (groupByDirectory p.read p.hits start stop).result =
      .ok (before ++ ⟨directory, ids⟩ :: after))
    (hbefore : (p.groups 0 before).result = .ok ())
    (hheader : (p.header directory).result = .error f)
    (htext : (p.render start stop).text =
      opening ++ ((p.groups 0 before).text ++ (p.header directory).text)) :
    p.BreaksOffAbove start stop f directory := by
  obtain ⟨project, messages, hproject, hmessages, hne, hmark⟩ :=
    htexts.exists_of_result_header hheader
  refine ⟨⟨before, ids, after, hfound, hbefore, htext⟩,
    ⟨project, messages, hproject, hmessages, hne, of_result_mark_error hmark⟩, ?_⟩
  intro tree h
  obtain ⟨_, hdone⟩ := h
  rw [(render_of_found (p := p.withTree tree) hfound).2] at hdone
  obtain ⟨_, hgroups, _, _⟩ := Draft.exists_of_result_bind hdone
  rw [groups_append] at hgroups
  obtain ⟨_, _, hgroups, _⟩ := Draft.exists_of_result_bind hgroups
  obtain ⟨project, hproject, _, _⟩ := Draft.exists_of_result_bind hgroups
  rw [header_withTree, hheader] at hproject
  cases hproject

/-- A page whose hits can all be read breaks off in a row or in a header, if it does. -/
theorem exists_breaksOff (htexts : p.HasTexts) {start stop : Int} {f : Fault}
    (hreads : ∀ id ∈ hitRange p.hits start stop, Succeeds (p.read id))
    (hfail : (p.render start stop).result = .error f) :
    (∃ earlier directory id, p.BreaksOff start stop f earlier directory id) ∨
      ∃ directory, p.BreaksOffAbove start stop f directory := by
  have hfound := result_gather hreads []
  have hunder : ∀ g ∈ (hitRange p.hits start stop).foldl (place p.read) [], ∀ id ∈ g.ids,
      directory? p.read id = some g.directory := directory?_of_mem_place
  obtain ⟨htext, hresult⟩ := render_of_found hfound
  generalize (hitRange p.hits start stop).foldl (place p.read) [] = found at *
  have hgroups : (p.groups 0 found).result = .error f := by
    cases hgroups : (p.groups 0 found).result with
    | ok done =>
      rw [hresult, Draft.result_bind_of_ok hgroups] at hfail
      cases hfail
    | error e =>
      rw [hresult, Draft.result_bind_of_error hgroups] at hfail
      exact hfail
  rw [Draft.text_bind_of_error hgroups] at htext
  obtain ⟨before, ⟨directory, ids⟩, after, rfl, hbefore, hbreak⟩ := groups_break hgroups
  rcases hbreak with ⟨hheader, hgroupsText⟩ | ⟨project, hheader, hrows, hgroupsText⟩
  · exact Or.inr ⟨directory, breaksOffAbove htexts hfound hbefore hheader
      (by rw [htext, hgroupsText])⟩
  · left
    have hpaths : ∀ id ∈ ids, (directory? p.read id).isSome := by
      intro id hid
      rw [hunder ⟨directory, ids⟩ (List.mem_append_right before List.mem_cons_self) id hid]
      rfl
    obtain ⟨first, id, second, hit, path, rfl, hread, hpath, hsnippet, hfirst, hrowsText⟩ :=
      rows_break hpaths hrows
    rw [hrowsText, Nat.zero_add] at hgroupsText
    exact ⟨_, directory, id,
      breaksOff hfound hheader hread hpath hsnippet (htext.trans (congrArg _ hgroupsText))⟩

/-- What a failed page leaves behind. -/
theorem render_error (p : Page) (s : Store) (hread : p.read = s.get) (htexts : p.HasTexts)
    (start stop : Int) :
    (∀ before id after f, hitRange p.hits start stop = before ++ id :: after →
      (∀ other ∈ before, Succeeds (s.get other)) → s.get id = .error f →
      (p.render start stop).result = .error f ∧ (p.render start stop).text = opening ∧
        (f.IsCorruption id ↔
          id.numeralsFit = true ∧ ¬(s ≠ .dropped false ∧ DocumentId.IsTooWide id))) ∧
    ((∀ id ∈ hitRange p.hits start stop, Succeeds (s.get id)) →
      ∀ f, (p.render start stop).result = .error f →
        (∃ earlier directory id, p.BreaksOff start stop f earlier directory id) ∨
          ∃ directory, p.BreaksOffAbove start stop f directory) := by
  constructor
  · intro before id after f hrange hbefore hid
    rw [← hread] at hbefore
    have hfail : (groupByDirectory p.read p.hits start stop).result = .error f := by
      unfold groupByDirectory
      rw [hrange]
      apply result_gather_of_error hbefore
      rw [hread, hid]
    obtain ⟨htext, hresult⟩ := render_of_not_found hfail
    exact ⟨hresult, htext, Store.get_error_iff hid⟩
  · intro hreads f hfail
    rw [← hread] at hreads
    exact exists_breaksOff htexts hreads hfail

/-- Two plain files. -/
def twoFileStore : Store :=
  .ready [⟨1, some "a/x.c".toList, some "p".toList, none, none, none, none⟩,
    ⟨2, some "b/y.c".toList, some "p".toList, none, none, none, none⟩]

/-- A page of these files, of which the second one is gone. -/
def missingFilePage : Page where
  read := twoFileStore.get
  hits := [.int 1, .int 2]
  tree := .ofFiles [⟨["src".toList, "a".toList, "x.c".toList], Utf8.encode "a\n".toList, 0⟩]
  settings := .usual (.ofText "data") (.ofText "src")
  summarizer := none
  sourceContext := some ⟨.ofList ["a".toList], false, 10⟩
  history := none
  projects := some ⟨[⟨.str "a".toList, .str "a".toList, 4, []⟩]⟩
  descriptions := some (.obj [("a".toList, .str "first".toList)])
  now := ⟨⟨2020, 9, 13⟩, 12, 26, 40, 0, some 0⟩

theorem hasTexts_missingFilePage : missingFilePage.HasTexts where
  descriptions := by
    intro table htable
    obtain rfl := Option.some.inj htable
    refine ⟨_, rfl, ?_⟩
    intro field hfield
    obtain rfl := List.mem_singleton.mp hfield
    exact ⟨_, rfl⟩
  loaded := by
    intro registry hregistry
    obtain rfl := Option.some.inj hregistry
    exact ⟨.arr [.obj [("name".toList, .str "a".toList), ("tab_size".toList, .int 4)]], rfl⟩
  roots := by
    intro registry hregistry project hproject
    obtain rfl := Option.some.inj hregistry
    obtain rfl := List.mem_singleton.mp hproject
    exact ⟨_, rfl⟩
  now := rfl

/-- The case of that page: it breaks off in its second row. -/
theorem render_error_missingFilePage :
    missingFilePage.read = twoFileStore.get ∧ missingFilePage.HasTexts ∧
      (missingFilePage.render 0 2).result = .error (.fileMissing "src/b/y.c") ∧
      ∃ earlier directory id,
        missingFilePage.BreaksOff 0 2 (.fileMissing "src/b/y.c") earlier directory id := by
  have hreads : ∀ id ∈ hitRange missingFilePage.hits 0 2, Succeeds (twoFileStore.get id) := by
    intro id hid
    have hids : id ∈ [Json.int 1, Json.int 2] := hid
    rcases List.mem_cons.mp hids with rfl | hid
    · exact ⟨_, rfl⟩
    · obtain rfl := List.mem_singleton.mp hid
      exact ⟨_, rfl⟩
  have hfail : (missingFilePage.render 0 2).result = .error (.fileMissing "src/b/y.c") := by
    decide +kernel
  refine ⟨rfl, hasTexts_missingFilePage, hfail, ?_⟩
  rcases (render_error missingFilePage twoFileStore rfl hasTexts_missingFilePage 0 2).2 hreads _
    hfail with hrow | ⟨directory, habove⟩
  · exact hrow
  · obtain ⟨_, _, _, _, _, ⟨hfault, _⟩ | ⟨hfault, _⟩⟩ := habove.mark
    · cases hfault
    · cases hfault

/-- With an id that is too wide among its hits a page fails, and not with a fault of the index. -/
theorem not_isCorruption_tooWide :
    let id : DocumentId := .int 9223372036854775808
    let p := { missingFilePage with hits := [.int 1, id] }
    hitRange p.hits 0 2 = [.int 1] ++ id :: [] ∧ Succeeds (p.read (.int 1)) ∧
      ¬Succeeds (p.read id) ∧ (p.render 0 2).text = opening ∧
      ¬∃ f, (p.render 0 2).result = .error f ∧ f.IsCorruption id := by
  refine ⟨rfl, ⟨_, rfl⟩, not_succeeds_error .outOfRange, rfl, ?_⟩
  intro h
  obtain ⟨f, hresult, hcorruption⟩ := h
  have hf : Except.error Fault.outOfRange = (Except.error f : Except Fault Unit) := hresult
  cases hf
  rcases hcorruption with hmissing | ⟨problem, hunreadable⟩
  · cases hmissing
  · cases hunreadable

end Page

end HitListing
