import HitListing.Proofs.Projects
import Mathlib.Data.List.Nodup

/-!
# The project of a path

A path has segments, and the root of a project contains a path if the segments
of the root come first among those of the path (`Project.contains_iff`).  Of two
roots that contain the same path the longer text has more segments
(`Project.length_lt_iff`).  So a lookup, which compares lengths of texts, finds
the first project with a deepest root (`Registry.exists_deepest`), and where all
roots are different it does not matter in which order the projects are listed.
-/

namespace HitListing

/-! ## Segments -/

namespace Text

variable {c d : Char} {a b t : Text}

theorem splitAtChar_ne_nil (c : Char) (t : Text) : splitAtChar c t ≠ [] := by
  cases t with
  | nil => exact List.cons_ne_nil _ _
  | cons d t =>
    rw [splitAtChar]
    split
    · exact List.cons_ne_nil _ _
    · split
      · exact List.cons_ne_nil _ _
      · exact List.cons_ne_nil _ _

theorem splitAtChar_nil (c : Char) : splitAtChar c [] = [[]] := rfl

theorem splitAtChar_cons_self (c : Char) (t : Text) :
    splitAtChar c (c :: t) = [] :: splitAtChar c t := by
  rw [splitAtChar]
  split
  · rename_i h
    exact absurd h (splitAtChar_ne_nil c t)
  · rename_i piece rest h
    rw [if_pos rfl, h]

theorem exists_splitAtChar_cons (h : d ≠ c) (t : Text) :
    ∃ piece rest, splitAtChar c t = piece :: rest ∧
      splitAtChar c (d :: t) = (d :: piece) :: rest := by
  rw [splitAtChar]
  split
  · rename_i hnil
    exact absurd hnil (splitAtChar_ne_nil c t)
  · rename_i piece rest hsplit
    exact ⟨piece, rest, hsplit, if_neg h⟩

/-- The pieces of one text come first among those of another if it is the other one or ends right
before a separator of it. -/
theorem splitAtChar_prefix_iff :
    splitAtChar c a <+: splitAtChar c b ↔ a = b ∨ (a ++ [c]) <+: b := by
  induction a generalizing b with
  | nil =>
    cases b with
    | nil => simp
    | cons e b =>
      by_cases he : e = c
      · subst he
        simp [splitAtChar_cons_self, splitAtChar_nil]
      · obtain ⟨piece, rest, -, hb⟩ := exists_splitAtChar_cons he b
        simp [hb, splitAtChar_nil, Ne.symm he]
  | cons d a ih =>
    cases b with
    | nil =>
      by_cases hd : d = c
      · subst hd
        simp [splitAtChar_cons_self, splitAtChar_nil, splitAtChar_ne_nil]
      · obtain ⟨piece, rest, -, ha⟩ := exists_splitAtChar_cons hd a
        simp [ha, splitAtChar_nil]
    | cons e b =>
      have hcons : (d :: a = e :: b ∨ (d :: a ++ [c]) <+: e :: b) ↔
          d = e ∧ (a = b ∨ (a ++ [c]) <+: b) := by
        rw [List.cons_append, List.cons_prefix_cons, List.cons.injEq, and_or_left]
      rw [hcons, ← ih]
      by_cases hd : d = c
      · subst hd
        rw [splitAtChar_cons_self]
        by_cases he : e = d
        · subst he
          simp [splitAtChar_cons_self]
        · obtain ⟨piece, rest, -, hb⟩ := exists_splitAtChar_cons he b
          simp [hb, Ne.symm he]
      · obtain ⟨piece, rest, ha, hda⟩ := exists_splitAtChar_cons hd a
        rw [hda, ha]
        by_cases he : e = c
        · subst he
          simp [splitAtChar_cons_self, hd]
        · obtain ⟨piece', rest', hb, heb⟩ := exists_splitAtChar_cons he b
          rw [heb, hb, List.cons_prefix_cons, List.cons_prefix_cons, List.cons.injEq, and_assoc]

end Text

namespace Project

/-- The segments of a path: what stands between its slashes, without those at its ends. -/
def segmentsOf (path : Text) : List Text :=
  Text.splitAtChar '/' (trimSlashes path)

/-- The root of a project whose path is a text. -/
def rootText (p : Project) : Text :=
  trimSlashes (p.path.text?.getD [])

/-- The segments of the root of a project. -/
def segments (p : Project) : List Text :=
  segmentsOf (p.path.text?.getD [])

theorem root_eq {p : Project} (h : ∃ t, p.path = .str t) : p.root = .ok p.rootText := by
  obtain ⟨t, ht⟩ := h
  rw [root, rootText, ht]
  rfl

theorem contains_iff {root path : Text} :
    contains root path = true ↔ Text.splitAtChar '/' root <+: Text.splitAtChar '/' path := by
  rw [Text.splitAtChar_prefix_iff, contains, Bool.or_eq_true, decide_eq_true_iff,
    List.isPrefixOf_iff_prefix, eq_comm]

section SameTrunk

variable {a b path : Text}

/-- A root that contains another one is not longer, and of the same length only if it is the
same. -/
theorem length_lt_or_eq_of_contains (h : Text.splitAtChar '/' a <+: Text.splitAtChar '/' b) :
    a = b ∨ a.length < b.length := by
  refine (Text.splitAtChar_prefix_iff.mp h).imp_right fun hbelow => ?_
  have hlength := hbelow.length_le
  rw [List.length_append, List.length_singleton] at hlength
  omega

/-- Of two roots that contain the same path the longer one has more segments. -/
theorem length_lt_iff (ha : Text.splitAtChar '/' a <+: Text.splitAtChar '/' path)
    (hb : Text.splitAtChar '/' b <+: Text.splitAtChar '/' path) :
    a.length < b.length ↔
      (Text.splitAtChar '/' a).length < (Text.splitAtChar '/' b).length := by
  rcases List.prefix_or_prefix_of_prefix ha hb with hab | hba
  · rcases length_lt_or_eq_of_contains hab with rfl | hlength
    · exact iff_of_false (Nat.lt_irrefl _) (Nat.lt_irrefl _)
    · refine iff_of_true hlength (Nat.lt_of_le_of_ne hab.length_le fun hsame => ?_)
      -- the same segments would make the roots contain each other
      have hba : Text.splitAtChar '/' b <+: Text.splitAtChar '/' a :=
        (hab.eq_of_length hsame).symm ▸ List.prefix_rfl
      rcases length_lt_or_eq_of_contains hba with rfl | hlength' <;> omega
  · have hlength := hba.length_le
    rcases length_lt_or_eq_of_contains hba with rfl | hlength' <;> omega

/-- Of the roots that contain a path only one has a given number of segments. -/
theorem eq_of_length_eq (ha : Text.splitAtChar '/' a <+: Text.splitAtChar '/' path)
    (hb : Text.splitAtChar '/' b <+: Text.splitAtChar '/' path)
    (h : (Text.splitAtChar '/' a).length = (Text.splitAtChar '/' b).length) : a = b := by
  have hle := mt (length_lt_iff ha hb).mp (by omega)
  have hge := mt (length_lt_iff hb ha).mp (by omega)
  rcases List.prefix_or_prefix_of_prefix ha hb with hab | hba
  · rcases length_lt_or_eq_of_contains hab with rfl | hlength
    · rfl
    · omega
  · rcases length_lt_or_eq_of_contains hba with rfl | hlength
    · rfl
    · omega

end SameTrunk

/-- Whether a project is the first of a list with a deepest root among those that contain a
path. -/
structure IsDeepest (p : Project) (path : Text) (projects : List Project) : Prop where
  contains : p.segments <+: segmentsOf path
  first : ∃ before after, projects = before ++ p :: after ∧
    (∀ q ∈ before, q.segments <+: segmentsOf path → q.segments.length < p.segments.length) ∧
    ∀ q ∈ after, q.segments <+: segmentsOf path → q.segments.length ≤ p.segments.length

namespace IsDeepest

variable {p q : Project} {path : Text} {projects others : List Project}

theorem mem (h : p.IsDeepest path projects) : p ∈ projects := by
  obtain ⟨before, after, rfl, -, -⟩ := h.first
  exact List.mem_append_right before List.mem_cons_self

theorem length_le (h : p.IsDeepest path projects) (hq : q ∈ projects)
    (hcontains : q.segments <+: segmentsOf path) : q.segments.length ≤ p.segments.length := by
  obtain ⟨before, after, rfl, hbefore, hafter⟩ := h.first
  rcases List.mem_append.mp hq with hq | hq
  · exact Nat.le_of_lt (hbefore q hq hcontains)
  · rcases List.mem_cons.mp hq with rfl | hq
    · exact Nat.le_refl _
    · exact hafter q hq hcontains

/-- A further project that is no deeper changes nothing. -/
theorem append_of_le (h : p.IsDeepest path projects)
    (hq : q.segments <+: segmentsOf path → q.segments.length ≤ p.segments.length) :
    p.IsDeepest path (projects ++ [q]) := by
  obtain ⟨before, after, rfl, hbefore, hafter⟩ := h.first
  refine ⟨h.contains, before, after ++ [q], by simp, hbefore, ?_⟩
  intro r hr hcontains
  rcases List.mem_append.mp hr with hr | hr
  · exact hafter r hr hcontains
  · obtain rfl := List.mem_singleton.mp hr
    exact hq hcontains

/-- A further project is the first deepest one if it is deeper than all before it. -/
theorem of_append (hcontains : q.segments <+: segmentsOf path)
    (h : ∀ r ∈ projects, r.segments <+: segmentsOf path →
      r.segments.length < q.segments.length) : q.IsDeepest path (projects ++ [q]) :=
  ⟨hcontains, projects, [], rfl, h, nofun⟩

/-- The first deepest project of a list is one project. -/
theorem eq (hp : p.IsDeepest path projects) (hq : q.IsDeepest path projects) : p = q := by
  have hle := hq.length_le hp.mem hp.contains
  have hge := hp.length_le hq.mem hq.contains
  obtain ⟨before, after, rfl, hbefore, -⟩ := hp.first
  obtain ⟨before', after', heq, hbefore', -⟩ := hq.first
  rcases List.append_eq_append_iff.mp heq with ⟨gap, rfl, htail⟩ | ⟨gap, rfl, htail⟩
  · cases gap with
    | nil => exact (List.cons.inj htail).1
    | cons r gap =>
      obtain rfl := (List.cons.inj htail).1
      have := hbefore' p (by simp) hp.contains
      omega
  · cases gap with
    | nil => exact (List.cons.inj htail).1.symm
    | cons r gap =>
      obtain rfl := (List.cons.inj htail).1
      have := hbefore q (by simp) hq.contains
      omega

/-- If all roots are different, the order of the projects makes no difference. -/
theorem eq_of_perm (hp : p.IsDeepest path projects) (hq : q.IsDeepest path others)
    (hperm : others.Perm projects) (hnodup : (projects.map rootText).Nodup) : p = q := by
  have hmem := hperm.mem_iff.mp hq.mem
  have hle := hp.length_le hmem hq.contains
  have hge := hq.length_le (hperm.mem_iff.mpr hp.mem) hp.contains
  have hroot : p.rootText = q.rootText :=
    eq_of_length_eq hp.contains hq.contains (Nat.le_antisymm hge hle)
  exact List.inj_on_of_nodup_map hnodup hp.mem hmem hroot

end IsDeepest

end Project

/-! ## Looking up -/

namespace Registry

variable {path : Text} {projects : List Project}

/-- What a lookup among projects has to give. -/
def Finds (path : Text) (projects : List Project) : Option Project → Prop
  | none => ∀ p ∈ projects, ¬p.segments <+: Project.segmentsOf path
  | some p => p.IsDeepest path projects

theorem Finds.eq_of_perm {others : List Project} {found other : Option Project}
    (h : Finds path projects found) (hother : Finds path others other)
    (hperm : others.Perm projects) (hnodup : (projects.map Project.rootText).Nodup) :
    found = other := by
  cases found with
  | none =>
    cases other with
    | none => rfl
    | some q => exact absurd hother.contains (h q (hperm.mem_iff.mp hother.mem))
  | some p =>
    cases other with
    | none => exact absurd h.contains (hother p (hperm.mem_iff.mpr h.mem))
    | some q => rw [Project.IsDeepest.eq_of_perm h hother hperm hnodup]

/-- The state of a search that has found a project. -/
def best (found : Option Project) : Option (Project × Nat) :=
  found.map fun p => (p, p.rootText.length)

/-- One more project is compared with the best one so far. -/
theorem exists_search_cons {found : Option Project} (h : Finds path projects found)
    {q : Project} (hq : ∃ t, q.path = .str t) (rest : List Project) :
    ∃ next, Finds path (projects ++ [q]) next ∧
      search (Project.trimSlashes path) (best found) (q :: rest) =
        search (Project.trimSlashes path) (best next) rest := by
  have hcontains : Project.contains q.rootText (Project.trimSlashes path) = true ↔
      q.segments <+: Project.segmentsOf path := Project.contains_iff
  cases found with
  | none =>
    have hstep : search (Project.trimSlashes path) (best none) (q :: rest) =
        if Project.contains q.rootText (Project.trimSlashes path) then
          search (Project.trimSlashes path) (best (some q)) rest
        else search (Project.trimSlashes path) (best none) rest := by
      rw [search, Project.root_eq hq]
      simp [best, bind, Except.bind]
    by_cases hin : q.segments <+: Project.segmentsOf path
    · refine ⟨some q, .of_append hin fun r hr hcontains => absurd hcontains (h r hr), ?_⟩
      rw [hstep, if_pos (hcontains.mpr hin)]
    · refine ⟨none, ?_, by rw [hstep, if_neg (mt hcontains.mp hin)]⟩
      intro r hr
      rcases List.mem_append.mp hr with hr | hr
      · exact h r hr
      · rwa [List.mem_singleton.mp hr]
  | some p =>
    have hstep : search (Project.trimSlashes path) (best (some p)) (q :: rest) =
        if Project.contains q.rootText (Project.trimSlashes path) ∧
            p.rootText.length < q.rootText.length then
          search (Project.trimSlashes path) (best (some q)) rest
        else search (Project.trimSlashes path) (best (some p)) rest := by
      rw [search, Project.root_eq hq]
      simp [best, bind, Except.bind]
    by_cases hin : q.segments <+: Project.segmentsOf path
    · have hlength := Project.length_lt_iff h.contains hin
      by_cases hlonger : p.rootText.length < q.rootText.length
      · refine ⟨some q, .of_append hin fun r hr hcontains => ?_, ?_⟩
        · exact Nat.lt_of_le_of_lt (h.length_le hr hcontains) (hlength.mp hlonger)
        · rw [hstep, if_pos ⟨hcontains.mpr hin, hlonger⟩]
      · refine ⟨some p, h.append_of_le fun _ => ?_, by rw [hstep, if_neg (by tauto)]⟩
        exact Nat.le_of_not_lt (mt hlength.mpr hlonger)
    · refine ⟨some p, h.append_of_le fun hq => absurd hq hin, ?_⟩
      rw [hstep, if_neg (by tauto)]

/-- A search goes on from what it has found to what there is in all. -/
theorem exists_search_finds {found : Option Project} (h : Finds path projects found)
    {rest : List Project} (htexts : ∀ p ∈ rest, ∃ t, p.path = .str t) :
    ∃ last, search (Project.trimSlashes path) (best found) rest = .ok last ∧
      Finds path (projects ++ rest) last := by
  induction rest generalizing projects found with
  | nil =>
    refine ⟨found, ?_, by rwa [List.append_nil]⟩
    cases found with
    | none => rfl
    | some p => rfl
  | cons q rest ih =>
    obtain ⟨hq, hrest⟩ := List.forall_mem_cons.mp htexts
    obtain ⟨next, hnext, hstep⟩ := exists_search_cons h hq rest
    obtain ⟨last, hlast, hfinds⟩ := ih hnext hrest
    exact ⟨last, hstep.trans hlast, by rwa [List.append_assoc] at hfinds⟩

theorem projects_foldl_add (r : Registry) (projects : List Project) :
    (projects.foldl add r).projects = r.projects ++ projects := by
  induction projects generalizing r with
  | nil => exact (List.append_nil _).symm
  | cons p projects ih =>
    rw [List.foldl_cons, ih]
    exact List.append_assoc _ _ _

/-- The lookup among projects that were added one after another. -/
theorem exists_projectFor_finds (htexts : ∀ p ∈ projects, ∃ t, p.path = .str t) (path : Text) :
    ∃ found, (projects.foldl add empty).projectFor path = .ok found ∧
      Finds path projects found := by
  have hnone : Finds path [] none := nofun
  rw [projectFor, projects_foldl_add]
  exact exists_search_finds hnone htexts

/-- A lookup finds the first project with a deepest root, and for different roots the same one
whatever the order of the projects is. -/
theorem exists_deepest (projects : List Project) (htexts : ∀ p ∈ projects, ∃ t, p.path = .str t)
    (path : Text) :
    ∃ found, (projects.foldl add empty).projectFor path = .ok found ∧
      (found = none ↔ ∀ p ∈ projects, ¬p.segments <+: Project.segmentsOf path) ∧
      (∀ p, found = some p ↔ p.IsDeepest path projects) ∧
      (∀ p c rest, c ≠ '/' → Project.trimSlashes path = p.rootText ++ c :: rest →
        found ≠ some p) ∧
      ∀ others : List Project, others.Perm projects → (projects.map Project.rootText).Nodup →
        (others.foldl add empty).projectFor path = .ok found := by
  obtain ⟨found, hfound, hfinds⟩ := exists_projectFor_finds htexts path
  have hsome (p : Project) : found = some p ↔ p.IsDeepest path projects := by
    constructor
    · rintro rfl
      exact hfinds
    · intro hp
      cases found with
      | none => exact absurd hp.contains (hfinds p hp.mem)
      | some q => rw [Project.IsDeepest.eq hfinds hp]
  refine ⟨found, hfound, ?_, hsome, ?_, ?_⟩
  · constructor
    · rintro rfl
      exact hfinds
    · intro h
      cases found with
      | none => rfl
      | some p => exact absurd hfinds.contains (h p hfinds.mem)
  · intro p c rest hc hpath hp
    have hcontains := ((hsome p).mp hp).contains
    rw [Project.segments, Project.segmentsOf, Project.segmentsOf, Text.splitAtChar_prefix_iff,
      hpath] at hcontains
    rcases hcontains with hsame | hbelow
    · simp [Project.rootText] at hsame
    · exact hc (by simpa [Project.rootText, eq_comm] using hbelow)
  · intro others hperm hnodup
    obtain ⟨other, hother, hfinds'⟩ :=
      exists_projectFor_finds (fun p hp => htexts p (hperm.mem_iff.mp hp)) path
    rw [hother, hfinds.eq_of_perm hfinds' hperm hnodup]

/-- A project with nothing but a name and a path. -/
def plainProject (name path : Text) : Project :=
  ⟨.str name, .str path, 0, []⟩

/-- Projects one of which lies in another, and one whose name begins like theirs. -/
def kernelProjects : List Project :=
  [plainProject "kernel" "/kernel/", plainProject "drivers" "kernel/drivers",
    plainProject "kernel2" "kernel2"]

/-- The case of a path in the inner project, and of one that only begins like a root. -/
theorem exists_deepest_kernelProjects :
    (∀ p ∈ kernelProjects, ∃ t, p.path = .str t) ∧
      (kernelProjects.reverse.foldl add empty).projectFor "kernel/drivers/net" =
        .ok (some (plainProject "drivers" "kernel/drivers")) ∧
      ∃ found, (kernelProjects.foldl add empty).projectFor "kernel2/net" = .ok found ∧
        found ≠ some (plainProject "kernel" "/kernel/") := by
  have htexts : ∀ p ∈ kernelProjects, ∃ t, p.path = .str t := by
    intro p hp
    simp only [kernelProjects, List.mem_cons, List.not_mem_nil, or_false] at hp
    rcases hp with rfl | rfl | rfl <;> exact ⟨_, rfl⟩
  obtain ⟨inner, -, -, hdeepest, -, hperm⟩ :=
    exists_deepest kernelProjects htexts "kernel/drivers/net"
  obtain ⟨beside, hbeside, -, -, hbelow, -⟩ := exists_deepest kernelProjects htexts "kernel2/net"
  refine ⟨htexts, ?_, beside, hbeside, ?_⟩
  · have hinner : inner = some (plainProject "drivers" "kernel/drivers") :=
      (hdeepest _).mpr ⟨by decide, [plainProject "kernel" "/kernel/"],
        [plainProject "kernel2" "kernel2"], rfl, by decide, by decide⟩
    rw [hperm _ (List.reverse_perm _) (by decide), hinner]
  · exact hbelow (plainProject "kernel" "/kernel/") '2' "/net".toList (by decide) (by decide)

end Registry

end HitListing
