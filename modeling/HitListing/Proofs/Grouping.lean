import HitListing.Group
import HitListing.Proofs.Drafts
import HitListing.Proofs.Outcomes
import Mathlib.Data.List.Induction
import Mathlib.Data.List.Nodup

/-!
# Hits by directory

Gathering hits writes nothing (`text_gather`) and gives groups exactly if all
the hits can be read (`result_gather`); otherwise it fails as the first one does
that cannot (`result_gather_of_error`).  Either way it notes each hit without a
path that it came to (`log_gather`).

The groups are a stable partition of the hits that have a path: the directories
in the order in which they first appear, and under each of them its hits in the
order in which they were given (`isStablePartition_foldl_place`).  So each hit is
there as often as it was given (`flatMap_ids_place_perm`).  What grouping makes of
a range of hits puts all of this together (`groupByDirectory_outcome`).
-/

namespace HitListing

/-- The directory of a hit that can be read and has a path. -/
def directory? (read : Reader) (id : DocumentId) : Option Text :=
  match read id with
  | .ok hit => hit.path.map parentOf
  | .error _ => none

/-- Groups with one hit more, if it has a directory. -/
def place (read : Reader) (groups : List DirectoryGroup) (id : DocumentId) :
    List DirectoryGroup :=
  match directory? read id with
  | some directory => DirectoryGroup.insert directory id groups
  | none => groups

variable {read : Reader}

theorem directory?_eq_some_iff {id : DocumentId} {directory : Text} :
    directory? read id = some directory ↔
      ∃ hit path, read id = .ok hit ∧ hit.path = some path ∧ parentOf path = directory := by
  unfold directory?
  cases hread : read id with
  | error e => simp
  | ok hit => simp

/-! ## How gathering ends -/

theorem place_of_ok {id : DocumentId} {hit : Hit} (h : read id = .ok hit)
    (groups : List DirectoryGroup) :
    place read groups id =
      match hit.path with
      | none => groups
      | some path => DirectoryGroup.insert (parentOf path) id groups := by
  simp only [place, directory?, h]
  cases hit.path with
  | none => rfl
  | some path => rfl

/-- After a hit that can be read, the next ones are gathered with it in place. -/
theorem gather_cons_of_ok {id : DocumentId} {hit : Hit} (h : read id = .ok hit)
    (groups : List DirectoryGroup) (ids : List DocumentId) :
    (gather read groups (id :: ids)).text = (gather read (place read groups id) ids).text ∧
      (gather read groups (id :: ids)).result =
        (gather read (place read groups id) ids).result := by
  have hread : (Draft.ofExcept (read id)).result = .ok hit := h
  rw [gather, Draft.bind_of_ok hread, place_of_ok h]
  cases hit.path with
  | none => exact ⟨rfl, rfl⟩
  | some path => exact ⟨rfl, rfl⟩

theorem text_gather (groups : List DirectoryGroup) (ids : List DocumentId) :
    (gather read groups ids).text = [] := by
  induction ids generalizing groups with
  | nil => rfl
  | cons id ids ih =>
    cases hread : read id with
    | error e =>
      have hfail : (Draft.ofExcept (read id)).result = .error e := hread
      rw [gather, Draft.text_bind_of_error hfail, Draft.text_ofExcept]
    | ok hit => rw [(gather_cons_of_ok hread groups ids).1, ih]

/-- Hits that can all be read are placed one after another. -/
theorem result_gather {ids : List DocumentId} (h : ∀ id ∈ ids, Succeeds (read id))
    (groups : List DirectoryGroup) :
    (gather read groups ids).result = .ok (ids.foldl (place read) groups) := by
  induction ids generalizing groups with
  | nil => rfl
  | cons id ids ih =>
    obtain ⟨hit, hread⟩ := h id List.mem_cons_self
    have hrest : ∀ other ∈ ids, Succeeds (read other) := fun other hother =>
      h other (List.mem_cons_of_mem id hother)
    rw [(gather_cons_of_ok hread groups ids).2, ih hrest, List.foldl_cons]

/-- Gathering fails as the first hit does that cannot be read. -/
theorem result_gather_of_error {before after : List DocumentId} {id : DocumentId} {f : Fault}
    (h : ∀ other ∈ before, Succeeds (read other)) (hid : read id = .error f)
    (groups : List DirectoryGroup) :
    (gather read groups (before ++ id :: after)).result = .error f := by
  induction before generalizing groups with
  | nil =>
    have hfail : (Draft.ofExcept (read id)).result = .error f := hid
    rw [List.nil_append, gather, Draft.result_bind_of_error hfail]
  | cons other before ih =>
    obtain ⟨hit, hread⟩ := h other List.mem_cons_self
    have hrest : ∀ next ∈ before, Succeeds (read next) := fun next hnext =>
      h next (List.mem_cons_of_mem other hnext)
    rw [List.cons_append, (gather_cons_of_ok hread groups _).2, ih hrest]

/-- The notice of a hit that is left out because it has no path. -/
def leftOut? (read : Reader) (id : DocumentId) : Option Notice :=
  match read id with
  | .ok hit =>
    match hit.path with
    | none => some (.noPath id.plain)
    | some _ => none
  | .error _ => none

theorem log_gather_cons_of_ok {id : DocumentId} {hit : Hit} (h : read id = .ok hit)
    (groups : List DirectoryGroup) (ids : List DocumentId) :
    (gather read groups (id :: ids)).log =
      (leftOut? read id).toList ++ (gather read (place read groups id) ids).log := by
  have hread : (Draft.ofExcept (read id)).result = .ok hit := h
  rw [gather, Draft.bind_of_ok hread, place_of_ok h]
  simp only [leftOut?, h]
  cases hit.path with
  | none => rfl
  | some path => rfl

/-- Hits that can all be read are noted if they have no path, before what follows is. -/
theorem log_gather_append {ids : List DocumentId} (h : ∀ id ∈ ids, Succeeds (read id))
    (groups : List DirectoryGroup) (rest : List DocumentId) :
    (gather read groups (ids ++ rest)).log =
      ids.filterMap (leftOut? read) ++ (gather read (ids.foldl (place read) groups) rest).log := by
  induction ids generalizing groups with
  | nil => rfl
  | cons id ids ih =>
    obtain ⟨hit, hread⟩ := h id List.mem_cons_self
    have hrest : ∀ other ∈ ids, Succeeds (read other) := fun other hother =>
      h other (List.mem_cons_of_mem id hother)
    have hfirst : (id :: ids).filterMap (leftOut? read) =
        (leftOut? read id).toList ++ ids.filterMap (leftOut? read) := by
      rw [List.filterMap_cons]
      cases leftOut? read id with
      | none => rfl
      | some notice => rfl
    rw [List.cons_append, log_gather_cons_of_ok hread, ih hrest, hfirst, List.append_assoc,
      List.foldl_cons]

theorem log_gather {ids : List DocumentId} (h : ∀ id ∈ ids, Succeeds (read id))
    (groups : List DirectoryGroup) :
    (gather read groups ids).log = ids.filterMap (leftOut? read) := by
  have hall := log_gather_append h groups []
  rw [List.append_nil] at hall
  rw [hall]
  exact List.append_nil _

/-- Nothing is noted from the first hit on that cannot be read. -/
theorem log_gather_of_error {before after : List DocumentId} {id : DocumentId} {f : Fault}
    (h : ∀ other ∈ before, Succeeds (read other)) (hid : read id = .error f)
    (groups : List DirectoryGroup) :
    (gather read groups (before ++ id :: after)).log = before.filterMap (leftOut? read) := by
  have hfail : (Draft.ofExcept (read id)).result = .error f := hid
  rw [log_gather_append h, gather, Draft.bind_of_error hfail]
  exact List.append_nil _

/-- Among hits that cannot all be read there is a first one. -/
theorem exists_first_unreadable {ids : List DocumentId} (h : ¬∀ id ∈ ids, Succeeds (read id)) :
    ∃ before id after f, ids = before ++ id :: after ∧
      (∀ other ∈ before, Succeeds (read other)) ∧ read id = .error f := by
  induction ids with
  | nil => exact absurd nofun h
  | cons id ids ih =>
    cases hread : read id with
    | error f => exact ⟨[], id, ids, f, rfl, nofun, hread⟩
    | ok hit =>
      have hrest : ¬∀ other ∈ ids, Succeeds (read other) := by
        intro hall
        apply h
        rw [List.forall_mem_cons]
        exact ⟨⟨hit, hread⟩, hall⟩
      obtain ⟨before, other, after, f, hids, hbefore, hother⟩ := ih hrest
      refine ⟨id :: before, other, after, f, by rw [hids, List.cons_append], ?_, hother⟩
      rw [List.forall_mem_cons]
      exact ⟨⟨hit, hread⟩, hbefore⟩

theorem succeeds_gather_iff {ids : List DocumentId} {groups : List DirectoryGroup} :
    Succeeds (gather read groups ids).result ↔ ∀ id ∈ ids, Succeeds (read id) := by
  constructor
  · intro h
    apply Classical.byContradiction
    intro hnot
    obtain ⟨before, id, after, f, hids, hbefore, hid⟩ := exists_first_unreadable hnot
    rw [hids, result_gather_of_error hbefore hid groups] at h
    exact not_succeeds_error f h
  · intro h
    exact ⟨_, result_gather h groups⟩

/-! ## What the groups hold -/

namespace DirectoryGroup

theorem flatMap_ids_insert_perm (directory : Text) (id : DocumentId)
    (groups : List DirectoryGroup) :
    ((insert directory id groups).flatMap (·.ids)).Perm (groups.flatMap (·.ids) ++ [id]) := by
  induction groups with
  | nil => exact List.Perm.refl _
  | cons g groups ih =>
    rw [insert]
    split
    · rw [List.flatMap_cons, List.flatMap_cons, List.append_assoc, List.append_assoc]
      exact (List.perm_append_comm).append_left g.ids
    · rw [List.flatMap_cons, List.flatMap_cons, List.append_assoc]
      exact ih.append_left g.ids

/-- A hit joins the group of its directory; the other groups stay as they are. -/
theorem insert_of_mem {before after : List DirectoryGroup} {old : DirectoryGroup}
    (h : old.directory ∉ before.map (·.directory)) (id : DocumentId) :
    insert old.directory id (before ++ old :: after) =
      before ++ ⟨old.directory, old.ids ++ [id]⟩ :: after := by
  induction before with
  | nil => exact if_pos rfl
  | cons g before ih =>
    rw [List.map_cons, List.mem_cons, not_or] at h
    obtain ⟨hfirst, hrest⟩ := h
    rw [List.cons_append, insert, if_neg fun heq => hfirst heq.symm, ih hrest, List.cons_append]

/-- The first hit of a directory begins a group at the end. -/
theorem insert_of_not_mem {directory : Text} {groups : List DirectoryGroup}
    (h : directory ∉ groups.map (·.directory)) (id : DocumentId) :
    insert directory id groups = groups ++ [⟨directory, [id]⟩] := by
  induction groups with
  | nil => rfl
  | cons g groups ih =>
    rw [List.map_cons, List.mem_cons, not_or] at h
    obtain ⟨hfirst, hrest⟩ := h
    rw [insert, if_neg fun heq => hfirst heq.symm, ih hrest, List.cons_append]

end DirectoryGroup

/-- Groups hold what they held, and each hit placed that has a directory. -/
theorem flatMap_ids_place_perm (ids : List DocumentId) (groups : List DirectoryGroup) :
    ((ids.foldl (place read) groups).flatMap (·.ids)).Perm
      (groups.flatMap (·.ids) ++ ids.filter fun id => (directory? read id).isSome) := by
  induction ids generalizing groups with
  | nil => rw [List.foldl_nil, List.filter_nil, List.append_nil]
  | cons id ids ih =>
    rw [List.foldl_cons]
    refine (ih (place read groups id)).trans ?_
    unfold place
    cases hdir : directory? read id with
    | none =>
      rw [List.filter_cons_of_neg (by simp [hdir])]
    | some directory =>
      rw [List.filter_cons_of_pos (by simp [hdir]), List.append_cons]
      exact (DirectoryGroup.flatMap_ids_insert_perm directory id groups).append_right _

/-! ## A stable partition -/

/-- Whether groups hold the hits of a list by directory: the directories in the order in which they
first appear, each once, and under each of them its hits in the order of the list. -/
structure IsStablePartition (read : Reader) (ids : List DocumentId)
    (groups : List DirectoryGroup) : Prop where
  distinct : (groups.map (·.directory)).Nodup
  directories : groups.map (·.directory) = (ids.filterMap (directory? read)).eraseDups
  ids : ∀ g ∈ groups, g.ids = ids.filter fun id => directory? read id = some g.directory

theorem eraseDups_append_of_mem {texts : List Text} {t : Text} (h : t ∈ texts) :
    (texts ++ [t]).eraseDups = texts.eraseDups := by
  rw [List.eraseDups_append]
  simp [List.removeAll, h]

theorem eraseDups_append_of_not_mem {texts : List Text} {t : Text} (h : t ∉ texts) :
    (texts ++ [t]).eraseDups = texts.eraseDups ++ [t] := by
  rw [List.eraseDups_append]
  simp [List.removeAll, h, List.eraseDups_cons]

namespace IsStablePartition

theorem nil : IsStablePartition read [] [] :=
  ⟨List.nodup_nil, rfl, nofun⟩

variable {ids : List DocumentId} {groups : List DirectoryGroup}

theorem mem_directories_iff (h : IsStablePartition read ids groups) {directory : Text} :
    directory ∈ groups.map (·.directory) ↔ directory ∈ ids.filterMap (directory? read) := by
  rw [h.directories, List.mem_eraseDups]

/-- Every hit of a group has its directory. -/
theorem directory?_of_mem_ids (h : IsStablePartition read ids groups) {g : DirectoryGroup}
    (hg : g ∈ groups) {id : DocumentId} (hid : id ∈ g.ids) :
    directory? read id = some g.directory := by
  rw [h.ids g hg] at hid
  exact of_decide_eq_true (List.mem_filter.mp hid).2

/-- No group is empty. -/
theorem ids_ne_nil (h : IsStablePartition read ids groups) {g : DirectoryGroup}
    (hg : g ∈ groups) : g.ids ≠ [] := by
  have hin := h.mem_directories_iff.mp (List.mem_map_of_mem hg)
  obtain ⟨id, hid, hdir⟩ := List.mem_filterMap.mp hin
  rw [h.ids g hg]
  exact List.ne_nil_of_mem (List.mem_filter.mpr ⟨hid, decide_eq_true hdir⟩)

/-- A hit of another directory adds nothing to a group. -/
theorem ids_append_of_ne {g : DirectoryGroup} {id : DocumentId}
    (h : g.ids = ids.filter fun id => directory? read id = some g.directory)
    (hid : directory? read id ≠ some g.directory) :
    g.ids = (ids ++ [id]).filter fun id => directory? read id = some g.directory := by
  rw [List.filter_append, List.filter_cons_of_neg (by simpa using hid), List.filter_nil,
    List.append_nil, h]

/-- A hit without a directory is left out. -/
theorem append_of_none (h : IsStablePartition read ids groups) {id : DocumentId}
    (hid : directory? read id = none) : IsStablePartition read (ids ++ [id]) groups := by
  refine ⟨h.distinct, ?_, fun g hg => ids_append_of_ne (h.ids g hg) ?_⟩
  · rw [h.directories, List.filterMap_append, List.filterMap_cons_none hid, List.filterMap_nil,
      List.append_nil]
  · rw [hid]
    nofun

/-- A hit of a directory that there is already joins its group. -/
theorem append_of_mem {before after : List DirectoryGroup} {old : DirectoryGroup}
    (h : IsStablePartition read ids (before ++ old :: after)) {id : DocumentId}
    (hid : directory? read id = some old.directory) :
    IsStablePartition read (ids ++ [id])
      (before ++ ⟨old.directory, old.ids ++ [id]⟩ :: after) := by
  have hsame : (before ++ ⟨old.directory, old.ids ++ [id]⟩ :: after).map (·.directory) =
      (before ++ old :: after).map (·.directory) := by
    rw [List.map_append, List.map_append, List.map_cons, List.map_cons]
  have hold : old ∈ before ++ old :: after := List.mem_append_right _ List.mem_cons_self
  have hin : old.directory ∈ ids.filterMap (directory? read) :=
    h.mem_directories_iff.mp (List.mem_map_of_mem hold)
  refine ⟨hsame ▸ h.distinct, ?_, fun g hg => ?_⟩
  · rw [hsame, h.directories, List.filterMap_append, List.filterMap_cons_some hid,
      List.filterMap_nil, eraseDups_append_of_mem hin]
  · have hdistinct := h.distinct
    rw [List.map_append, List.map_cons, List.nodup_middle, List.nodup_cons, ← List.map_append,
      List.mem_map] at hdistinct
    have hother : ∀ other ∈ before ++ after, directory? read id ≠ some other.directory := by
      intro other hother heq
      exact hdistinct.1 ⟨other, hother, Option.some.inj (heq.symm.trans hid)⟩
    rcases List.mem_append.mp hg with hg | hg
    · exact ids_append_of_ne (h.ids g (List.mem_append_left _ hg))
        (hother g (List.mem_append_left _ hg))
    · rcases List.mem_cons.mp hg with rfl | hg
      · rw [List.filter_append, List.filter_cons_of_pos (by simpa using hid), List.filter_nil,
          ← h.ids old hold]
      · exact ids_append_of_ne
          (h.ids g (List.mem_append_right _ (List.mem_cons_of_mem old hg)))
          (hother g (List.mem_append_right _ hg))

/-- The first hit of a directory begins a group. -/
theorem append_of_not_mem (h : IsStablePartition read ids groups) {directory : Text}
    (hnew : directory ∉ groups.map (·.directory)) {id : DocumentId}
    (hid : directory? read id = some directory) :
    IsStablePartition read (ids ++ [id]) (groups ++ [⟨directory, [id]⟩]) := by
  have hnot : directory ∉ ids.filterMap (directory? read) := fun hin =>
    hnew (h.mem_directories_iff.mpr hin)
  refine ⟨?_, ?_, fun g hg => ?_⟩
  · rw [List.map_append, List.map_singleton, ← List.concat_eq_append]
    exact List.Nodup.concat hnew h.distinct
  · rw [List.map_append, List.map_singleton, h.directories, List.filterMap_append,
      List.filterMap_cons_some hid, List.filterMap_nil, eraseDups_append_of_not_mem hnot]
  · rcases List.mem_append.mp hg with hg | hg
    · refine ids_append_of_ne (h.ids g hg) fun heq => hnew ?_
      rw [Option.some.inj (hid.symm.trans heq)]
      exact List.mem_map_of_mem hg
    · obtain rfl := List.mem_singleton.mp hg
      have hnone : ids.filter (fun other => directory? read other = some directory) = [] := by
        rw [List.filter_eq_nil_iff]
        intro other hother hin
        exact hnot (List.mem_filterMap.mpr ⟨other, hother, of_decide_eq_true hin⟩)
      rw [List.filter_append, hnone, List.filter_cons_of_pos (by simpa using hid),
        List.filter_nil, List.nil_append]

/-- One more hit at the end of the list is placed. -/
theorem place (h : IsStablePartition read ids groups) (id : DocumentId) :
    IsStablePartition read (ids ++ [id]) (place read groups id) := by
  unfold HitListing.place
  cases hid : directory? read id with
  | none => exact h.append_of_none hid
  | some directory =>
    simp only
    by_cases hin : directory ∈ groups.map (·.directory)
    · obtain ⟨old, hold, rfl⟩ := List.mem_map.mp hin
      obtain ⟨before, after, rfl⟩ := List.append_of_mem hold
      have hfirst : old.directory ∉ before.map (·.directory) := by
        have hdistinct := h.distinct
        rw [List.map_append, List.map_cons, List.nodup_middle, List.nodup_cons] at hdistinct
        exact fun hmem => hdistinct.1 (List.mem_append_left _ hmem)
      rw [DirectoryGroup.insert_of_mem hfirst]
      exact h.append_of_mem hid
    · rw [DirectoryGroup.insert_of_not_mem hin]
      exact h.append_of_not_mem hin hid

end IsStablePartition

/-- Hits that are placed one after another are a stable partition. -/
theorem isStablePartition_foldl_place (ids : List DocumentId) :
    IsStablePartition read ids (ids.foldl (place read) []) := by
  induction ids using List.reverseRecOn with
  | nil => exact .nil
  | append_singleton ids id ih =>
    rw [List.foldl_concat]
    exact ih.place id

/-- Every hit stands under its own directory. -/
theorem directory?_of_mem_place {ids : List DocumentId} :
    ∀ g ∈ ids.foldl (place read) [], ∀ id ∈ g.ids, directory? read id = some g.directory := by
  intro g hg id hid
  exact (isStablePartition_foldl_place ids).directory?_of_mem_ids hg hid

/-! ## A range of hits -/

/-- The places in a list of so many hits, from `start` up to but not including `stop`. -/
def placesIn (count : Nat) (start stop : Int) : List Nat :=
  (List.range count).filter fun (i : Nat) => start ≤ i && i < stop

theorem filter_range_eq_range' (a b n : Nat) :
    (List.range n).filter (fun i => a ≤ i && i < b) = List.range' a (min b n - a) := by
  induction n with
  | zero => simp
  | succ n ih =>
    rw [List.range_succ, List.filter_append, ih]
    by_cases h : a ≤ n ∧ n < b
    · have hsize : min b (n + 1) - a = min b n - a + 1 := by omega
      have hlast : a + (min b n - a) = n := by omega
      rw [hsize, List.range'_concat, Nat.one_mul, hlast, List.filter_cons_of_pos (by simp [h])]
      rfl
    · have hsize : min b (n + 1) - a = min b n - a := by omega
      rw [hsize, List.filter_cons_of_neg (by simpa using h), List.filter_nil, List.append_nil]

/-- The hits at the places of a range are the hits of the range. -/
theorem map_getElem?_placesIn (hits : List DocumentId) (start stop : Int) :
    (placesIn hits.length start stop).map (hits[·]?) = (hitRange hits start stop).map some := by
  have hbounds : (fun (i : Nat) => decide (start ≤ i) && decide ((i : Int) < stop)) =
      fun i => decide (start.toNat ≤ i) && decide (i < stop.toNat) := by
    funext i
    rw [Bool.eq_iff_iff]
    simp only [Bool.and_eq_true, decide_eq_true_eq]
    omega
  rw [placesIn, hbounds, filter_range_eq_range', hitRange]
  apply List.ext_getElem?
  intro n
  rw [List.getElem?_map, List.getElem?_map, List.getElem?_drop, List.getElem?_take]
  by_cases h : n < min stop.toNat hits.length - start.toNat
  · have hin : start.toNat + n < hits.length := by omega
    rw [List.getElem?_range' h, if_pos (by omega), Nat.one_mul, Option.map_some,
      List.getElem?_eq_getElem hin, Option.map_some]
  · rw [List.getElem?_eq_none (by rw [List.length_range']; omega)]
    split
    · rw [List.getElem?_eq_none (by omega)]
      rfl
    · rfl

/-- The hits at the places of a range, in order. -/
def hitsIn (hits : List DocumentId) (start stop : Int) : List DocumentId :=
  (placesIn hits.length start stop).filterMap (hits[·]?)

theorem hitRange_eq_hitsIn (hits : List DocumentId) (start stop : Int) :
    hitRange hits start stop = hitsIn hits start stop := by
  have hplaces : hitsIn hits start stop =
      ((placesIn hits.length start stop).map (hits[·]?)).filterMap id := by
    rw [hitsIn, List.filterMap_map]
    rfl
  rw [hplaces, map_getElem?_placesIn, List.filterMap_map]
  exact (List.filterMap_some).symm

/-- What grouping makes of a range of hits.  If one of them cannot be read, it fails as the first
such hit does, and has noted those before it that have no path.  Otherwise the groups are a stable
partition of the hits, none of them is empty, a hit without a path is in none, and is noted. -/
theorem groupByDirectory_outcome (read : Reader) (hits : List DocumentId) (start stop : Int) :
    (∃ before id after f, hitsIn hits start stop = before ++ id :: after ∧
      (∀ other ∈ before, Succeeds (read other)) ∧ read id = .error f ∧
      (groupByDirectory read hits start stop).result = .error f ∧
      (groupByDirectory read hits start stop).log = before.filterMap (leftOut? read)) ∨
    (∃ groups, (∀ id ∈ hitsIn hits start stop, Succeeds (read id)) ∧
      (groupByDirectory read hits start stop).result = .ok groups ∧
      IsStablePartition read (hitsIn hits start stop) groups ∧
      (∀ g ∈ groups, g.ids ≠ []) ∧
      (∀ id, directory? read id = none → ∀ g ∈ groups, id ∉ g.ids) ∧
      (groupByDirectory read hits start stop).log =
        (hitsIn hits start stop).filterMap (leftOut? read)) := by
  rw [groupByDirectory, hitRange_eq_hitsIn]
  by_cases hall : ∀ id ∈ hitsIn hits start stop, Succeeds (read id)
  · have hpartition : IsStablePartition read (hitsIn hits start stop) _ :=
      isStablePartition_foldl_place (hitsIn hits start stop)
    refine Or.inr ⟨_, hall, result_gather hall [], hpartition, ?_, ?_, log_gather hall []⟩
    · intro g hg
      exact hpartition.ids_ne_nil hg
    · intro id hid g hg hin
      rw [hpartition.directory?_of_mem_ids hg hin] at hid
      cases hid
  · obtain ⟨before, id, after, f, hids, hbefore, hid⟩ := exists_first_unreadable hall
    rw [hids]
    exact Or.inl ⟨before, id, after, f, rfl, hbefore, hid, result_gather_of_error hbefore hid [],
      log_gather_of_error hbefore hid []⟩

end HitListing
