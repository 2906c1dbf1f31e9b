import HitListing.Proofs.PageSteps
import HitListing.Store
import Mathlib.Data.List.Perm.Basic

/-!
# Rows of a page

What a page that comes to its end consists of (`Page.exists_layout`): a section
for each directory, and in it a row for each hit.  Every place of the range
whose hit has a path has one row and no other place has any.  Shading goes by
the number of the row within the whole page, and apart from that a row shows
what it shows on the page of its hit alone: nothing of what stands before it
has any bearing on it.
-/

namespace HitListing

/-- A row of a page. -/
structure PageRow where
  id : DocumentId
  /-- The tag that opens the row. -/
  opening : Text
  /-- The cells and the end of the row. -/
  cells : Text

/-- The rows of one directory, below its header. -/
structure PageSection where
  directory : Text
  header : Text
  rows : List PageRow

/-- The markup of a row. -/
def PageRow.text (r : PageRow) : Text :=
  r.opening ++ r.cells

namespace PageSection

/-- The markup of a section. -/
def text (s : PageSection) : Text :=
  s.header ++ s.rows.flatMap (·.text)

/-- The hits of a section. -/
def group (s : PageSection) : DirectoryGroup :=
  ⟨s.directory, s.rows.map (·.id)⟩

end PageSection

namespace Page

/-- The places in the list of hits, from `start` up to but not including `stop`,
whose hits have a path. -/
def pathPositions (p : Page) (start stop : Int) : List Nat :=
  (List.range p.hits.length).filter fun (i : Nat) =>
    (start ≤ i && i < stop) && (p.hits[i]?.bind (directory? p.read)).isSome

/-- Sections that make up a page, and the place in the list of hits of each row
in turn. -/
structure LaysOut (p : Page) (start stop : Int) (sections : List PageSection)
    (order : List Nat) : Prop where
  /-- The sections are the groups. -/
  groups : (groupByDirectory p.read p.hits start stop).result = .ok (sections.map (·.group))
  /-- Nothing else is on the page. -/
  text : (p.render start stop).text = opening ++ sections.flatMap (·.text) ++ closing
  /-- Each row is for the hit at its place. -/
  hits : (sections.flatMap (·.rows)).map (fun row => some row.id) = order.map (p.hits[·]?)
  /-- Each place with a path has one row. -/
  positions : order.Perm (p.pathPositions start stop)
  /-- Of all rows of the page the first, the third and so on are shaded. -/
  shading : ∀ n row, (sections.flatMap (·.rows))[n]? = some row →
    row.opening = if (n + 1) % 2 = 1 then "<tr class=\"search-result-even-row\">".toList
      else "<tr>".toList
  /-- A row and its header are those of the page of the hit alone. -/
  alone : ∀ s ∈ sections, ∀ row ∈ s.rows, ∀ i : Nat, p.hits[i]? = some row.id →
    Succeeds (p.render i (i + 1)).result ∧
      (p.render i (i + 1)).text =
        opening ++ (s.header ++ (rowTag 0 ++ row.cells)) ++ closing

/-! ## Places in the range -/

theorem map_getElem?_pathPositions (p : Page) (start stop : Int) :
    (p.pathPositions start stop).map (p.hits[·]?) =
      ((hitRange p.hits start stop).filter fun id => (directory? p.read id).isSome).map some := by
  have hsplit : p.pathPositions start stop =
      (placesIn p.hits.length start stop).filter
        ((fun id => (id.bind (directory? p.read)).isSome) ∘ (p.hits[·]?)) := by
    rw [placesIn, List.filter_filter]
    apply List.filter_congr
    intro i _
    exact Bool.and_comm _ _
  rw [hsplit, ← List.filter_map, map_getElem?_placesIn, List.filter_map]
  rfl

/-! ## Parts of a page -/

variable {p : Page}

/-- Whether a row has the cells of its hit. -/
def HasCells (p : Page) (tabSize : Int) (row : PageRow) : Prop :=
  ∃ hit path, p.read row.id = .ok hit ∧ hit.path = some path ∧
    (p.cells tabSize hit path).result = .ok () ∧ (p.cells tabSize hit path).text = row.cells

theorem exists_of_row {tabSize : Int} {index : Nat} {id : DocumentId}
    (h : (p.row tabSize index id).result = .ok ()) :
    ∃ row : PageRow, row.id = id ∧ row.opening = rowTag index ∧ p.HasCells tabSize row ∧
      (p.row tabSize index id).text = row.text := by
  obtain ⟨hit, hread, hrest, -⟩ := Draft.exists_of_result_bind h
  cases hpath : hit.path with
  | none =>
    rw [hpath] at hrest
    cases hrest
  | some path =>
    have hread : p.read id = .ok hit := hread
    rw [row_of_path hread hpath] at h ⊢
    obtain ⟨_, _, hcells, htext⟩ := Draft.exists_of_result_bind h
    exact ⟨⟨id, rowTag index, (p.cells tabSize hit path).text⟩, rfl, rfl,
      ⟨hit, path, hread, hpath, hcells, rfl⟩, htext⟩

/-- Rows that are all written. -/
theorem exists_of_rows {tabSize : Int} {index : Nat} {ids : List DocumentId}
    (h : (p.rows tabSize index ids).result = .ok ()) :
    ∃ found : List PageRow, found.map (·.id) = ids ∧
      (p.rows tabSize index ids).text = found.flatMap (·.text) ∧
      (∀ n row, found[n]? = some row → row.opening = rowTag (index + n)) ∧
      ∀ row ∈ found, p.HasCells tabSize row := by
  induction ids generalizing index with
  | nil => exact ⟨[], rfl, rfl, nofun, nofun⟩
  | cons id ids ih =>
    obtain ⟨_, hrow, hrest, htext⟩ := Draft.exists_of_result_bind h
    obtain ⟨row, hid, hopening, hcells, hrowText⟩ := exists_of_row hrow
    obtain ⟨found, hids, hfound, hopenings, hall⟩ := ih hrest
    refine ⟨row :: found, ?_, ?_, ?_, ?_⟩
    · rw [List.map_cons, hid, hids]
    · rw [rows, htext, hrowText, hfound, List.flatMap_cons]
    · intro n other hother
      cases n with
      | zero =>
        obtain rfl : row = other := Option.some.inj hother
        exact hopening
      | succ n =>
        have hnext : index + 1 + n = index + (n + 1) := by omega
        rw [← hnext]
        exact hopenings n other hother
    · rw [List.forall_mem_cons]
      exact ⟨hcells, hall⟩

/-- Whether a section has the header of its directory and the cells of its hits. -/
def HasSection (p : Page) (s : PageSection) : Prop :=
  ∃ project, (p.header s.directory).result = .ok project ∧
    (p.header s.directory).text = s.header ∧
    ∀ row ∈ s.rows, p.HasCells (tabSize p.settings project) row

/-- Groups that are all written. -/
theorem exists_of_groups {index : Nat} {found : List DirectoryGroup}
    (h : (p.groups index found).result = .ok ()) :
    ∃ sections : List PageSection, sections.map (·.group) = found ∧
      (p.groups index found).text = sections.flatMap (·.text) ∧
      (∀ n row, (sections.flatMap (·.rows))[n]? = some row → row.opening = rowTag (index + n)) ∧
      ∀ s ∈ sections, p.HasSection s := by
  induction found generalizing index with
  | nil => exact ⟨[], rfl, rfl, nofun, nofun⟩
  | cons g found ih =>
    obtain ⟨project, hheader, h, htext⟩ := Draft.exists_of_result_bind h
    obtain ⟨_, hrows, hrest, hrowsText⟩ := Draft.exists_of_result_bind h
    obtain ⟨list, hids, hlist, hopenings, hcells⟩ := exists_of_rows hrows
    obtain ⟨sections, hgroups, hsections, hnext, hall⟩ := ih hrest
    have hlength : g.ids.length = list.length := by rw [← hids, List.length_map]
    refine ⟨⟨g.directory, (p.header g.directory).text, list⟩ :: sections, ?_, ?_, ?_, ?_⟩
    · rw [List.map_cons, hgroups, PageSection.group, hids]
    · rw [groups, htext, hrowsText, hlist, hsections, List.flatMap_cons, PageSection.text,
        List.append_assoc]
    · intro n row hrow
      rw [List.flatMap_cons] at hrow
      rcases Nat.lt_or_ge n list.length with hn | hn
      · rw [List.getElem?_append_left hn] at hrow
        exact hopenings n row hrow
      · rw [List.getElem?_append_right hn] at hrow
        have hcount : index + g.ids.length + (n - list.length) = index + n := by omega
        rw [← hcount]
        exact hnext _ row hrow
    · rw [List.forall_mem_cons]
      exact ⟨⟨project, hheader, rfl, hcells⟩, hall⟩

/-! ## The page of one hit -/

/-- The page of one hit with a path. -/
theorem render_alone {i : Nat} {id : DocumentId} {directory : Text}
    (hi : p.hits[i]? = some id) (hdir : directory? p.read id = some directory) :
    (groupByDirectory p.read p.hits i (i + 1)).result = .ok [⟨directory, [id]⟩] := by
  have hrange : hitRange p.hits i (i + 1) = [id] := by
    have hstop : ((i : Int) + 1).toNat = i + 1 := by omega
    rw [hitRange, hstop, Int.toNat_natCast, List.take_add_one, hi, Option.toList_some,
      List.drop_append, List.drop_take_self]
    have hlength : i < p.hits.length := (List.getElem?_eq_some_iff.mp hi).1
    rw [List.length_take, Nat.min_eq_left (Nat.le_of_lt hlength), Nat.sub_self]
    rfl
  have hread : ∀ other ∈ [id], Succeeds (p.read other) := by
    intro other hother
    obtain rfl := List.mem_singleton.mp hother
    obtain ⟨hit, _, hread, _⟩ := directory?_eq_some_iff.mp hdir
    exact ⟨hit, hread⟩
  rw [groupByDirectory, hrange, result_gather hread, List.foldl_cons, List.foldl_nil, place, hdir]
  rfl

/-- A row on the page of its hit alone. -/
theorem text_render_alone {s : PageSection} {row : PageRow} {i : Nat} (hs : p.HasSection s)
    (hrow : row ∈ s.rows) (hdir : directory? p.read row.id = some s.directory)
    (hi : p.hits[i]? = some row.id) :
    Succeeds (p.render i (i + 1)).result ∧
      (p.render i (i + 1)).text =
        opening ++ (s.header ++ (rowTag 0 ++ row.cells)) ++ closing := by
  obtain ⟨htext, hresult⟩ := render_of_found (render_alone hi hdir)
  obtain ⟨project, hheader, hheaderText, hcells⟩ := hs
  obtain ⟨hit, path, hread, hpath, hend, hcellsText⟩ := hcells row hrow
  have htag : (Draft.write (rowTag 0)).result = .ok () := rfl
  have hgroups : p.groups 0 [⟨s.directory, [row.id]⟩] =
      (p.header s.directory >>= fun project => p.row (tabSize p.settings project) 0 row.id) := by
    simp only [groups_singleton, rows_singleton]
  have hdone : (p.groups 0 [⟨s.directory, [row.id]⟩]).result = .ok () := by
    rw [hgroups, Draft.result_bind_of_ok hheader, row_of_path hread hpath,
      Draft.result_bind_of_ok htag, hend]
  have hwritten : (p.groups 0 [⟨s.directory, [row.id]⟩]).text =
      s.header ++ (rowTag 0 ++ row.cells) := by
    rw [hgroups, Draft.text_bind_of_ok hheader, row_of_path hread hpath,
      Draft.text_bind_of_ok htag, hheaderText, hcellsText, Draft.text_write]
  constructor
  · rw [hresult, Draft.result_bind_of_ok hdone]
    exact succeeds_ok ()
  · rw [htext, Draft.text_bind_of_ok hdone, hwritten, Draft.text_write, ← List.append_assoc opening]

/-! ## Pages that come to their end -/

/-- All hits of a page that comes to its end can be read. -/
theorem succeeds_read_of_render {start stop : Int} (h : Succeeds (p.render start stop).result) :
    ∀ id ∈ hitRange p.hits start stop, Succeeds (p.read id) := by
  obtain ⟨_, h⟩ := h
  obtain ⟨_, _, h, _⟩ := Draft.exists_of_result_bind h
  obtain ⟨found, hfound, _, _⟩ := Draft.exists_of_result_bind h
  exact succeeds_gather_iff.mp ⟨found, hfound⟩

/-- The rows of sections are for the hits of their groups, in the same order. -/
theorem map_id_rows (sections : List PageSection) :
    (sections.flatMap (·.rows)).map (·.id) = (sections.map (·.group)).flatMap (·.ids) := by
  rw [List.map_flatMap, List.flatMap_map]
  rfl

/-- Hits in another order than their places come from these places in another order. -/
theorem exists_order {hits ids : List DocumentId} {places : List Nat}
    (h : (ids.map some).Perm (places.map (hits[·]?))) :
    ∃ order : List Nat, ids.map some = order.map (hits[·]?) ∧ order.Perm places := by
  have hcomp := congrFun (congrFun (List.eq_map_comp_perm (hits[·]?)) (ids.map some)) places
  exact hcomp.mpr h

/-- What a page consists of that comes to its end. -/
theorem exists_layout (p : Page) (start stop : Int) (h : Succeeds (p.render start stop).result) :
    ∃ sections order, p.LaysOut start stop sections order := by
  have hfound := result_gather (succeeds_read_of_render h) []
  have hunder : ∀ g ∈ (hitRange p.hits start stop).foldl (place p.read) [], ∀ id ∈ g.ids,
      directory? p.read id = some g.directory := directory?_of_mem_place
  have hplaced : (((hitRange p.hits start stop).foldl (place p.read) []).flatMap (·.ids)).Perm
      ((hitRange p.hits start stop).filter fun id => (directory? p.read id).isSome) :=
    flatMap_ids_place_perm _ []
  obtain ⟨htext, hresult⟩ := render_of_found hfound
  rw [hresult] at h
  obtain ⟨_, h⟩ := h
  obtain ⟨_, hdone, _, hwritten⟩ := Draft.exists_of_result_bind h
  obtain ⟨sections, hgroups, hsections, hopenings, hall⟩ := exists_of_groups hdone
  -- grouping changes the order of the hits, and leaves out those without a path
  have hids : (((sections.flatMap (·.rows)).map (·.id)).map some).Perm
      ((p.pathPositions start stop).map (p.hits[·]?)) := by
    rw [map_id_rows, hgroups, map_getElem?_pathPositions]
    exact hplaced.map some
  obtain ⟨order, hhits, hpositions⟩ := exists_order hids
  refine ⟨sections, order, ?_⟩
  constructor
  case groups =>
    rw [hgroups]
    exact hfound
  case text => rw [htext, hwritten, hsections, Draft.text_write, List.append_assoc]
  case hits =>
    rw [← hhits, List.map_map]
    rfl
  case positions => exact hpositions
  case shading =>
    intro n row hrow
    rw [hopenings n row hrow, Nat.zero_add, rowTag]
    rcases Nat.mod_two_eq_zero_or_one n with heven | hodd
    · rw [if_pos heven, if_pos (by omega)]
    · rw [if_neg (by omega), if_neg (by omega)]
  case alone =>
    intro s hs row hrow i hi
    have hgroup : s.group ∈ sections.map (·.group) := List.mem_map_of_mem hs
    rw [hgroups] at hgroup
    have hdir := hunder s.group hgroup row.id (List.mem_map_of_mem hrow)
    exact text_render_alone (hall s hs) hrow hdir hi

/-- Two files in two directories and a document without a path. -/
def twoDirectoryStore : Store :=
  .ready [⟨1, some "b/x.c".toList, some "p".toList, none, none, none, none⟩,
    ⟨2, none, none, none, none, none, none⟩,
    ⟨3, some "a/y.c".toList, some "x".toList, none, none, none, none⟩]

/-- A page of these documents, with the first one found twice. -/
def twoDirectoryPage : Page where
  read := twoDirectoryStore.get
  hits := [.int 1, .int 2, .int 3, .int 1]
  tree := .ofFiles []
  settings := .usual (.ofText "data") (.ofText "src")
  summarizer := none
  sourceContext := none
  history := none
  projects := none
  descriptions := none
  now := ⟨⟨2020, 9, 13⟩, 12, 26, 40, 0, some 0⟩

/-- The case of that page. -/
theorem exists_layout_twoDirectoryPage :
    Succeeds (twoDirectoryPage.render 0 9).result ∧
      ∃ sections order, twoDirectoryPage.LaysOut 0 9 sections order := by
  have h : Succeeds (twoDirectoryPage.render 0 9).result := ⟨(), rfl⟩
  exact ⟨h, exists_layout twoDirectoryPage 0 9 h⟩

end Page

end HitListing
