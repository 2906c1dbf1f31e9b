import HitListing.Proofs.Grouping

/-!
# Groups page by page

The groups of two ranges of hits that meet make up those of both together: each
group goes on with the later group of its directory, and the groups of new
directories follow (`DirectoryGroup.merge`).  This is seen from what the groups
hold: a stable partition of some hits is the only one
(`IsStablePartition.eq_map`), and partitions of two lists merge into one of both
(`IsStablePartition.merge`).

So the hits of a list may be grouped page by page (`result_pagesOf`).  The pages
fail as the whole list does; otherwise each hit that has a path stands on one of
them, once (`groupByDirectory_pages`).
-/

namespace HitListing

namespace DirectoryGroup

/-- The hits that groups hold under a directory. -/
def idsUnder (directory : Text) : List DirectoryGroup → List DocumentId
  | [] => []
  | g :: rest => if g.directory = directory then g.ids else idsUnder directory rest

/-- Groups with those of later hits: each goes on with the later group of its directory, and the
later groups of other directories follow. -/
def merge (groups later : List DirectoryGroup) : List DirectoryGroup :=
  groups.map (fun g => ⟨g.directory, g.ids ++ idsUnder g.directory later⟩) ++
    later.filter fun g => !(groups.map (·.directory)).contains g.directory

theorem merge_eq (groups later : List DirectoryGroup) :
    merge groups later =
      groups.map (fun g => ⟨g.directory, g.ids ++ idsUnder g.directory later⟩) ++
        later.filter fun g => g.directory ∉ groups.map (·.directory) := by
  rw [merge]
  congr 2
  funext g
  rw [Bool.eq_iff_iff]
  simp

theorem map_directory_merge (groups later : List DirectoryGroup) :
    (merge groups later).map (·.directory) =
      groups.map (·.directory) ++
        (later.map (·.directory)).filter (· ∉ groups.map (·.directory)) := by
  rw [merge_eq, List.map_append, List.map_map, List.filter_map]
  rfl

theorem idsUnder_of_not_mem {directory : Text} {groups : List DirectoryGroup}
    (h : directory ∉ groups.map (·.directory)) : idsUnder directory groups = [] := by
  induction groups with
  | nil => rfl
  | cons g groups ih =>
    rw [List.map_cons, List.mem_cons, not_or] at h
    rw [idsUnder, if_neg fun heq => h.1 heq.symm, ih h.2]

theorem exists_idsUnder_eq {directory : Text} {groups : List DirectoryGroup}
    (h : directory ∈ groups.map (·.directory)) :
    ∃ g ∈ groups, g.directory = directory ∧ idsUnder directory groups = g.ids := by
  induction groups with
  | nil => cases h
  | cons g groups ih =>
    by_cases hg : g.directory = directory
    · exact ⟨g, List.mem_cons_self, hg, if_pos hg⟩
    · rw [List.map_cons, List.mem_cons] at h
      obtain ⟨found, hfound, heq, hids⟩ := ih (h.resolve_left fun heq => hg heq.symm)
      exact ⟨found, List.mem_cons_of_mem g hfound, heq, (if_neg hg).trans hids⟩

/-- Of further groups only one with a new directory counts. -/
theorem idsUnder_filter {directory : Text} {directories : List Text}
    (h : directory ∉ directories) (groups : List DirectoryGroup) :
    idsUnder directory (groups.filter fun g => g.directory ∉ directories) =
      idsUnder directory groups := by
  induction groups with
  | nil => rfl
  | cons g groups ih =>
    by_cases hg : g.directory ∈ directories
    · have hne : g.directory ≠ directory := fun heq => h (heq ▸ hg)
      rw [List.filter_cons_of_neg (by simpa using hg), ih, idsUnder, if_neg hne]
    · rw [List.filter_cons_of_pos (by simpa using hg), idsUnder, idsUnder, ih]

/-- Groups that go on, and others behind them. -/
theorem idsUnder_map_append (directory : Text) (added : Text → List DocumentId)
    (groups rest : List DirectoryGroup) :
    idsUnder directory
        (groups.map (fun g => ⟨g.directory, g.ids ++ added g.directory⟩) ++ rest) =
      if directory ∈ groups.map (·.directory) then idsUnder directory groups ++ added directory
      else idsUnder directory rest := by
  induction groups with
  | nil => rfl
  | cons g groups ih =>
    rw [List.map_cons, List.cons_append, idsUnder, idsUnder, ih, List.map_cons]
    by_cases hg : g.directory = directory
    · rw [if_pos hg, if_pos hg, if_pos (hg ▸ List.mem_cons_self), hg]
    · have hmem : directory ∈ g.directory :: groups.map (·.directory) ↔
          directory ∈ groups.map (·.directory) := by
        rw [List.mem_cons]
        exact or_iff_right fun heq => hg heq.symm
      simp only [hg, if_false, hmem]

/-- A directory goes on with its later hits, or begins with them. -/
theorem idsUnder_merge (directory : Text) (groups later : List DirectoryGroup) :
    idsUnder directory (merge groups later) =
      idsUnder directory groups ++ idsUnder directory later := by
  rw [merge_eq, idsUnder_map_append directory fun directory => idsUnder directory later]
  by_cases h : directory ∈ groups.map (·.directory)
  · rw [if_pos h]
  · rw [if_neg h, idsUnder_filter h, idsUnder_of_not_mem h, List.nil_append]

end DirectoryGroup

open DirectoryGroup (merge idsUnder)

/-- Texts may be left out before or after repetitions are. -/
theorem eraseDups_filter (p : Text → Bool) (texts : List Text) :
    (texts.filter p).eraseDups = texts.eraseDups.filter p := by
  induction texts using List.reverseRecOn with
  | nil => rfl
  | append_singleton texts t ih =>
    rw [List.filter_append]
    by_cases hp : p t = true
    · rw [List.filter_cons_of_pos hp, List.filter_nil]
      by_cases hmem : t ∈ texts
      · rw [eraseDups_append_of_mem (List.mem_filter.mpr ⟨hmem, hp⟩), eraseDups_append_of_mem hmem,
          ih]
      · have hnew : t ∉ texts.filter p := fun h => hmem (List.mem_filter.mp h).1
        rw [eraseDups_append_of_not_mem hnew, eraseDups_append_of_not_mem hmem, ih,
          List.filter_append, List.filter_cons_of_pos hp, List.filter_nil]
    · rw [List.filter_cons_of_neg hp, List.filter_nil, List.append_nil, ih]
      by_cases hmem : t ∈ texts
      · rw [eraseDups_append_of_mem hmem]
      · rw [eraseDups_append_of_not_mem hmem, List.filter_append, List.filter_cons_of_neg hp,
          List.filter_nil, List.append_nil]

theorem eraseDups_append_filter (front back : List Text) :
    (front ++ back).eraseDups = front.eraseDups ++ back.eraseDups.filter (· ∉ front) := by
  rw [List.eraseDups_append, ← eraseDups_filter]
  congr 2
  rw [List.removeAll]
  exact List.filter_congr fun t _ => by simp

variable {read : Reader}

namespace IsStablePartition

variable {ids more : List DocumentId} {groups later : List DirectoryGroup}

/-- The stable partition of a list of hits. -/
theorem eq_map (h : IsStablePartition read ids groups) :
    groups = (ids.filterMap (directory? read)).eraseDups.map fun directory =>
      ⟨directory, ids.filter fun id => directory? read id = some directory⟩ := by
  rw [← h.directories, List.map_map]
  have hgroups : groups.map id = groups.map ((fun directory => (⟨directory,
      ids.filter fun id => directory? read id = some directory⟩ : DirectoryGroup)) ∘
        (·.directory)) := by
    refine List.map_congr_left fun g hg => ?_
    rw [Function.comp_apply, ← h.ids g hg]
    rfl
  rw [← hgroups, List.map_id]

/-- Under a directory the hits of that directory are found, also if there are none. -/
theorem idsUnder_eq (h : IsStablePartition read ids groups) (directory : Text) :
    idsUnder directory groups = ids.filter fun id => directory? read id = some directory := by
  by_cases hmem : directory ∈ groups.map (·.directory)
  · obtain ⟨g, hg, rfl, hids⟩ := DirectoryGroup.exists_idsUnder_eq hmem
    rw [hids, h.ids g hg]
  · rw [DirectoryGroup.idsUnder_of_not_mem hmem]
    refine (List.filter_eq_nil_iff.mpr fun id hid hdirectory => hmem ?_).symm
    rw [h.mem_directories_iff]
    exact List.mem_filterMap.mpr ⟨id, hid, of_decide_eq_true hdirectory⟩

/-- Partitions of two lists merge into one of both. -/
theorem merge (h : IsStablePartition read ids groups) (hmore : IsStablePartition read more later) :
    IsStablePartition read (ids ++ more) (merge groups later) := by
  have hdirectories : (DirectoryGroup.merge groups later).map (·.directory) =
      ((ids ++ more).filterMap (directory? read)).eraseDups := by
    rw [DirectoryGroup.map_directory_merge, List.filterMap_append, eraseDups_append_filter,
      h.directories, hmore.directories]
    congr 1
    exact List.filter_congr fun directory _ => by simp only [List.mem_eraseDups]
  refine ⟨?_, hdirectories, fun g hg => ?_⟩
  · rw [DirectoryGroup.map_directory_merge]
    refine List.Nodup.append h.distinct (hmore.distinct.filter _) fun directory hold hnew => ?_
    exact of_decide_eq_true (List.mem_filter.mp hnew).2 hold
  · rw [List.filter_append]
    rw [DirectoryGroup.merge_eq] at hg
    rcases List.mem_append.mp hg with hg | hg
    · obtain ⟨old, hold, rfl⟩ := List.mem_map.mp hg
      rw [h.ids old hold, hmore.idsUnder_eq]
    · obtain ⟨hg, hnew⟩ := List.mem_filter.mp hg
      have hnone : ids.filter (fun id => directory? read id = some g.directory) = [] := by
        rw [← h.idsUnder_eq, DirectoryGroup.idsUnder_of_not_mem (of_decide_eq_true hnew)]
      rw [hnone, List.nil_append, hmore.ids g hg]

end IsStablePartition

/-- The groups of a stable partition hold each hit that has a directory. -/
theorem IsStablePartition.flatMap_ids_perm {ids : List DocumentId}
    {groups : List DirectoryGroup} (h : IsStablePartition read ids groups) :
    (groups.flatMap (·.ids)).Perm (ids.filter fun id => (directory? read id).isSome) := by
  rw [h.eq_map, ← (isStablePartition_foldl_place ids).eq_map]
  exact flatMap_ids_place_perm ids []

/-! ## Two ranges -/

/-- Hits that are gathered after others are merged with them. -/
theorem foldl_place_append (ids more : List DocumentId) :
    (ids ++ more).foldl (place read) [] =
      merge (ids.foldl (place read) []) (more.foldl (place read) []) := by
  have hboth : IsStablePartition read (ids ++ more) _ :=
    (isStablePartition_foldl_place ids).merge (isStablePartition_foldl_place more)
  rw [(isStablePartition_foldl_place (ids ++ more)).eq_map, ← hboth.eq_map]

/-- Gathering hits and then others fails as the first of both does that fails, and otherwise
gives the groups of both. -/
theorem result_gather_append (ids more : List DocumentId) :
    (gather read [] (ids ++ more)).result = do
      let groups ← (gather read [] ids).result
      let later ← (gather read [] more).result
      return merge groups later := by
  by_cases hids : ∀ id ∈ ids, Succeeds (read id)
  · rw [result_gather hids []]
    by_cases hmore : ∀ id ∈ more, Succeeds (read id)
    · have hboth : ∀ id ∈ ids ++ more, Succeeds (read id) := by
        rw [List.forall_mem_append]
        exact ⟨hids, hmore⟩
      rw [result_gather hboth [], result_gather hmore [], foldl_place_append]
      rfl
    · obtain ⟨before, id, after, f, rfl, hbefore, hid⟩ := exists_first_unreadable hmore
      have hboth : ∀ other ∈ ids ++ before, Succeeds (read other) := by
        rw [List.forall_mem_append]
        exact ⟨hids, hbefore⟩
      rw [← List.append_assoc, result_gather_of_error hboth hid [],
        result_gather_of_error hbefore hid []]
      rfl
  · obtain ⟨before, id, after, f, rfl, hbefore, hid⟩ := exists_first_unreadable hids
    rw [List.append_assoc, List.cons_append, result_gather_of_error hbefore hid [],
      result_gather_of_error hbefore hid []]
    rfl

/-- Two ranges that meet make up a range. -/
theorem hitRange_append (hits : List DocumentId) {a b c : Int} (hab : a ≤ b) (hbc : b ≤ c) :
    hitRange hits a c = hitRange hits a b ++ hitRange hits b c := by
  have hfront : (hits.take c.toNat).take b.toNat = hits.take b.toNat := by
    rw [List.take_take, Nat.min_eq_left (by omega)]
  have hsplit : hits.take c.toNat = hits.take b.toNat ++ hitRange hits b c := by
    rw [hitRange, ← hfront, List.take_append_drop]
  have hlater : (hitRange hits b c).drop (a.toNat - (hits.take b.toNat).length) =
      hitRange hits b c := by
    by_cases hlength : b.toNat ≤ hits.length
    · rw [List.length_take, Nat.min_eq_left hlength, Nat.sub_eq_zero_of_le (by omega),
        List.drop_zero]
    · have hnone : hitRange hits b c = [] := by
        rw [hitRange, List.drop_eq_nil_iff, List.length_take]
        omega
      rw [hnone, List.drop_nil]
  calc hitRange hits a c
    _ = (hits.take b.toNat ++ hitRange hits b c).drop a.toNat := by rw [hitRange, hsplit]
    _ = hitRange hits a b ++ hitRange hits b c := by
      rw [List.drop_append, hlater]
      rfl

/-- The groups of two ranges that meet, merged, are those of both together. -/
theorem result_groupByDirectory_append (hits : List DocumentId) {a b c : Int} (hab : a ≤ b)
    (hbc : b ≤ c) :
    (groupByDirectory read hits a c).result = do
      let groups ← (groupByDirectory read hits a b).result
      let later ← (groupByDirectory read hits b c).result
      return merge groups later := by
  rw [groupByDirectory, hitRange_append hits hab hbc]
  exact result_gather_append _ _

/-- What grouping a range of hits gives is a stable partition of them. -/
theorem isStablePartition_of_result {hits : List DocumentId} {start stop : Int}
    {groups : List DirectoryGroup}
    (h : (groupByDirectory read hits start stop).result = .ok groups) :
    IsStablePartition read (hitRange hits start stop) groups := by
  rw [groupByDirectory] at h
  have hread : ∀ id ∈ hitRange hits start stop, Succeeds (read id) :=
    succeeds_gather_iff.mp ⟨groups, h⟩
  rw [result_gather hread] at h
  rw [← Except.ok.inj h]
  exact isStablePartition_foldl_place _

/-! ## All pages -/

/-- The number of pages that so many hits take. -/
def pageCount (size count : Nat) : Nat :=
  (count + size - 1) / size

/-- Where the pages of a list begin: at 0 and then every `size` hits, as long as there are hits. -/
def pageStarts (size count : Nat) : List Nat :=
  (List.range (pageCount size count)).map (· * size)

/-- The groups of the page that begins at a place: of `size` hits, or as many as there are. -/
def pageGroups (read : Reader) (hits : List DocumentId) (size start : Nat) :
    Except Fault (List DirectoryGroup) :=
  (groupByDirectory read hits start (min (start + size) hits.length : Nat)).result

/-- The groups of all pages of a list, one page after another. -/
def pagesOf (read : Reader) (hits : List DocumentId) (size : Nat) :
    Except Fault (List (List DirectoryGroup)) :=
  (pageStarts size hits.length).mapM (pageGroups read hits size)

theorem le_pageCount_mul {size : Nat} (hsize : 1 ≤ size) (count : Nat) :
    count ≤ pageCount size count * size := by
  have hdivision := Nat.div_add_mod (count + size - 1) size
  have hrest : (count + size - 1) % size < size := Nat.mod_lt _ hsize
  rw [Nat.mul_comm] at hdivision
  rw [pageCount]
  omega

/-- A range does not go beyond the end of the list. -/
theorem hitRange_min (hits : List DocumentId) (start : Int) (stop : Nat) :
    hitRange hits start (min stop hits.length : Nat) = hitRange hits start stop := by
  rw [hitRange, hitRange, Int.toNat_natCast, Int.toNat_natCast, ← List.take_take,
    List.take_length]

theorem pageGroups_eq (hits : List DocumentId) (size start : Nat) :
    pageGroups read hits size start =
      (groupByDirectory read hits start (start + size : Nat)).result := by
  rw [pageGroups, groupByDirectory, hitRange_min, groupByDirectory]

/-- The last page of a list begins where those before it end. -/
theorem mapM_range_succ (hits : List DocumentId) (size pages : Nat) :
    ((List.range (pages + 1)).map (· * size)).mapM (pageGroups read hits size) = do
      let front ← ((List.range pages).map (· * size)).mapM (pageGroups read hits size)
      let page ← (groupByDirectory read hits (pages * size : Nat) ((pages + 1) * size : Nat)).result
      return front ++ [page] := by
  rw [List.range_succ, List.map_append, List.mapM_append, List.map_singleton, List.mapM_cons,
    List.mapM_nil, pageGroups_eq, ← Nat.succ_mul]
  simp only [bind_assoc, pure_bind]

/-- The groups of pages, merged in order, are those of the hits on these pages. -/
theorem foldl_merge_pages (hits : List DocumentId) (size pages : Nat) :
    (((List.range pages).map (· * size)).mapM (pageGroups read hits size)).map
        (List.foldl merge []) =
      (groupByDirectory read hits 0 (pages * size : Nat)).result := by
  induction pages with
  | zero =>
    rw [Nat.zero_mul]
    rfl
  | succ pages ih =>
    have hstart : (0 : Int) ≤ (pages * size : Nat) := Int.natCast_nonneg _
    have hstop : ((pages * size : Nat) : Int) ≤ ((pages + 1) * size : Nat) := by
      rw [Nat.succ_mul]
      omega
    rw [mapM_range_succ, result_groupByDirectory_append hits hstart hstop, ← ih]
    cases ((List.range pages).map (· * size)).mapM (pageGroups read hits size) with
    | error f => rfl
    | ok front =>
      cases (groupByDirectory read hits (pages * size : Nat) ((pages + 1) * size : Nat)).result with
      | error f => rfl
      | ok page =>
        show Except.ok ((front ++ [page]).foldl merge []) = .ok (merge (front.foldl merge []) page)
        rw [List.foldl_append]
        rfl

/-- Pages hold each hit on them that has a path, as often as it is given. -/
theorem flatMap_ids_pages_perm (hits : List DocumentId) (size : Nat) {count : Nat}
    {pages : List (List DirectoryGroup)}
    (h : ((List.range count).map (· * size)).mapM (pageGroups read hits size) = .ok pages) :
    (pages.flatMap fun page => page.flatMap (·.ids)).Perm
      ((hitRange hits 0 (count * size : Nat)).filter fun id => (directory? read id).isSome) := by
  induction count generalizing pages with
  | zero =>
    cases h
    rw [Nat.zero_mul]
    exact List.Perm.refl _
  | succ count ih =>
    rw [mapM_range_succ] at h
    obtain ⟨front, hfront, h⟩ := exists_of_bind_eq_ok h
    obtain ⟨page, hpage, h⟩ := exists_of_bind_eq_ok h
    cases h
    have hstart : (0 : Int) ≤ (count * size : Nat) := Int.natCast_nonneg _
    have hstop : ((count * size : Nat) : Int) ≤ ((count + 1) * size : Nat) := by
      rw [Nat.succ_mul]
      omega
    rw [List.flatMap_append, List.flatMap_singleton, hitRange_append hits hstart hstop,
      List.filter_append]
    exact (ih hfront).append (isStablePartition_of_result hpage).flatMap_ids_perm

theorem hitRange_all (hits : List DocumentId) {stop : Nat} (h : hits.length ≤ stop) :
    hitRange hits 0 stop = hits := by
  rw [hitRange, Int.toNat_natCast, List.take_of_length_le h]
  rfl

/-- The hits that merged pages hold under a directory are those of the pages in order. -/
theorem idsUnder_foldl_merge (directory : Text) (pages : List (List DirectoryGroup))
    (groups : List DirectoryGroup) :
    idsUnder directory (pages.foldl merge groups) =
      idsUnder directory groups ++ pages.flatMap (idsUnder directory) := by
  induction pages generalizing groups with
  | nil => rw [List.foldl_nil, List.flatMap_nil, List.append_nil]
  | cons page pages ih =>
    rw [List.foldl_cons, ih, DirectoryGroup.idsUnder_merge, List.flatMap_cons, List.append_assoc]

/-- The groups of ranges that meet are those of both together, merged, with the first failure of
either.  So the pages of a list, of any size, fail as the whole list does, and their groups merge to
those of the list.  On the pages together each hit that has a path stands as often as it is given,
the hits of a directory in their order. -/
theorem groupByDirectory_pages (read : Reader) (hits : List DocumentId) :
    (∀ a b c : Int, a ≤ b → b ≤ c →
      (groupByDirectory read hits a c).result = do
        let groups ← (groupByDirectory read hits a b).result
        let later ← (groupByDirectory read hits b c).result
        return merge groups later) ∧
    ∀ size : Nat, 1 ≤ size →
      (pagesOf read hits size).map (List.foldl merge []) =
        (groupByDirectory read hits 0 hits.length).result ∧
      (Succeeds (pagesOf read hits size) ↔ ∀ id ∈ hits, Succeeds (read id)) ∧
      ∀ pages, pagesOf read hits size = .ok pages →
        (pages.flatMap fun page => page.flatMap (·.ids)).Perm
          (hits.filter fun id => (directory? read id).isSome) ∧
        ∀ directory, pages.flatMap (idsUnder directory) =
          hits.filter fun id => directory? read id = some directory := by
  refine ⟨fun a b c hab hbc => result_groupByDirectory_append hits hab hbc, fun size hsize => ?_⟩
  have hall := hitRange_all hits (le_pageCount_mul hsize hits.length)
  have hself := hitRange_all hits (Nat.le_refl hits.length)
  have hmerged : (pagesOf read hits size).map (List.foldl merge []) =
      (groupByDirectory read hits 0 hits.length).result := by
    rw [pagesOf, pageStarts, foldl_merge_pages, groupByDirectory, hall, groupByDirectory, hself]
  refine ⟨hmerged, ?_, fun pages hpages => ⟨?_, fun directory => ?_⟩⟩
  · rw [← succeeds_map_iff (f := List.foldl merge []), hmerged, groupByDirectory, hself]
    exact succeeds_gather_iff
  · have hperm := flatMap_ids_pages_perm hits size hpages
    rw [hall] at hperm
    exact hperm
  · rw [hpages] at hmerged
    have hgroups := isStablePartition_of_result hmerged.symm
    rw [hself] at hgroups
    rw [← hgroups.idsUnder_eq, idsUnder_foldl_merge]
    rfl

/-- An index of five documents, the third of them without a path. -/
def mixedReader : Reader := fun id =>
  let paths := [(Json.int 1, some "a/x".toList), (.int 2, some "b/y".toList), (.int 3, none),
    (.int 4, some "a/z".toList), (.int 5, some "c".toList)]
  match paths.lookup id with
  | some path => .ok ⟨1, path, .plain, none, none, none, none⟩
  | none => .error (.documentMissing id.plain)

/-- All of them as hits, the fourth one twice. -/
def mixedHits : List DocumentId :=
  [.int 1, .int 2, .int 3, .int 4, .int 5, .int 4]

/-- The case of these hits on pages of two. -/
theorem groupByDirectory_pages_mixedHits :
    (0 : Int) ≤ 2 ∧ (2 : Int) ≤ 4 ∧
      (groupByDirectory mixedReader mixedHits 0 4).result = (do
        let groups ← (groupByDirectory mixedReader mixedHits 0 2).result
        let later ← (groupByDirectory mixedReader mixedHits 2 4).result
        return merge groups later) ∧
      1 ≤ 2 ∧ ∃ pages, pagesOf mixedReader mixedHits 2 = .ok pages ∧
        (pages.flatMap fun page => page.flatMap (·.ids)).Perm
          [.int 1, .int 2, .int 4, .int 5, .int 4] ∧
        pages.flatMap (idsUnder "a") = [.int 1, .int 4, .int 4] := by
  obtain ⟨happend, hpages⟩ := groupByDirectory_pages mixedReader mixedHits
  obtain ⟨_, _, hhold⟩ := hpages 2 (by decide)
  have hresult : pagesOf mixedReader mixedHits 2 = .ok
      [[⟨"a", [.int 1]⟩, ⟨"b", [.int 2]⟩], [⟨"a", [.int 4]⟩],
        [⟨[], [.int 5]⟩, ⟨"a", [.int 4]⟩]] := rfl
  obtain ⟨hperm, hunder⟩ := hhold _ hresult
  exact ⟨by decide, by decide, happend 0 2 4 (by decide) (by decide), by decide, _, hresult, hperm,
    hunder "a"⟩

end HitListing
