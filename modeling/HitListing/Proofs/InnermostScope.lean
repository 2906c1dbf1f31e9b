import HitListing.Proofs.TableRows
import Mathlib.Data.List.Induction
import Mathlib.Data.List.Pairwise
import Mathlib.Data.Set.Basic

/-!
# The innermost scope

A table whose scopes have whole numbers for their lines answers for every line:
with the first of the shortest scopes that contain it, or with none if no scope
does (`Scopes.scopeAt_innermost`).  A scope may end before it begins; such a
scope contains no line and is never the answer.

That the shortest scope is the innermost one is a matter of how the scopes lie.
If any two of them are nested or apart, two shortest scopes of a line are the
same range, which lies inside all other scopes of the line
(`Scope.IsInnermost.lines_subset`).  Then the order of the table decides at most
which of several scopes with that range is given.
-/

namespace HitListing

namespace Scope

/-- The first line of a scope, if it is a whole number. -/
def first (s : Scope) : Int :=
  s.lineFrom.integer?.getD 0

/-- The last line of a scope, if it is a whole number. -/
def last (s : Scope) : Int :=
  s.lineTo.integer?.getD 0

/-- Whether the first and the last line of a scope are whole numbers. -/
structure HasWholeLines (s : Scope) : Prop where
  lineFrom : s.lineFrom = .int s.first
  lineTo : s.lineTo = .int s.last

/-- The lines from the first to the last of a scope. -/
def lines (s : Scope) : Set Int :=
  {n | s.first ≤ n ∧ n ≤ s.last}

/-- How far the last line of a scope lies behind the first. -/
def length (s : Scope) : Int :=
  s.last - s.first

instance (s : Scope) : DecidablePred (· ∈ s.lines) := fun n =>
  inferInstanceAs (Decidable (s.first ≤ n ∧ n ≤ s.last))

variable {r s : Scope} {n : Int}

theorem mem_lines_iff : n ∈ s.lines ↔ s.first ≤ n ∧ n ≤ s.last :=
  Iff.rfl

theorem lines_subset_of_le (hfirst : r.first ≤ s.first) (hlast : s.last ≤ r.last) :
    s.lines ⊆ r.lines :=
  fun _ hn => ⟨le_trans hfirst hn.1, le_trans hn.2 hlast⟩

/-- A scope that has lines lies in another one exactly if its first and its last line do. -/
theorem lines_subset_iff (h : s.first ≤ s.last) :
    s.lines ⊆ r.lines ↔ r.first ≤ s.first ∧ s.last ≤ r.last := by
  constructor
  · intro hsub
    exact ⟨(hsub ⟨le_refl _, h⟩).1, (hsub ⟨h, le_refl _⟩).2⟩
  · intro hends
    exact lines_subset_of_le hends.1 hends.2

theorem contains_eq (hs : s.HasWholeLines) (n : Int) :
    s.contains (.int n) = .ok (decide (n ∈ s.lines)) := by
  rw [contains, hs.lineFrom, hs.lineTo, Json.le_int, Json.le_int]
  by_cases hfirst : s.first ≤ n
  · simp [mem_lines_iff, hfirst, bind, Except.bind]
  · simp [mem_lines_iff, hfirst, bind, Except.bind, pure, Except.pure]

theorem extent_eq (hs : s.HasWholeLines) : s.extent = .ok (.int s.length) := by
  rw [extent, hs.lineFrom, hs.lineTo]
  rfl

/-! ## One scope after another -/

/-- The better answer for a line: a scope that contains it, if it is shorter than the best one
so far. -/
def closer (n : Int) (best : Option Scope) (s : Scope) : Option Scope :=
  if n ∈ s.lines then
    match best with
    | none => some s
    | some b => if s.length < b.length then some s else some b
  else best

theorem closer_of_not_mem (h : n ∉ s.lines) (best : Option Scope) : closer n best s = best :=
  if_neg h

theorem closer_none (h : n ∈ s.lines) : closer n none s = some s :=
  if_pos h

theorem closer_some (h : n ∈ s.lines) (b : Scope) :
    closer n (some b) s = if s.length < b.length then some s else some b :=
  if_pos h

/-- Whether a scope is the first of the shortest of a list that contain a line. -/
structure IsInnermost (s : Scope) (n : Int) (scopes : List Scope) : Prop where
  mem_lines : n ∈ s.lines
  first : ∃ before after, scopes = before ++ s :: after ∧
    (∀ r ∈ before, n ∈ r.lines → s.length < r.length) ∧
    ∀ r ∈ after, n ∈ r.lines → s.length ≤ r.length

namespace IsInnermost

variable {scopes : List Scope}

theorem mem (h : s.IsInnermost n scopes) : s ∈ scopes := by
  obtain ⟨before, after, rfl, -, -⟩ := h.first
  exact List.mem_append_right before List.mem_cons_self

theorem length_le (h : s.IsInnermost n scopes) (hr : r ∈ scopes) (hn : n ∈ r.lines) :
    s.length ≤ r.length := by
  obtain ⟨before, after, rfl, hbefore, hafter⟩ := h.first
  rcases List.mem_append.mp hr with hr | hr
  · exact Int.le_of_lt (hbefore r hr hn)
  · rcases List.mem_cons.mp hr with rfl | hr
    · exact Int.le_refl _
    · exact hafter r hr hn

/-- A further scope that is no shorter changes nothing. -/
theorem append_of_le (h : s.IsInnermost n scopes) (hr : n ∈ r.lines → s.length ≤ r.length) :
    s.IsInnermost n (scopes ++ [r]) := by
  obtain ⟨before, after, rfl, hbefore, hafter⟩ := h.first
  refine ⟨h.mem_lines, before, after ++ [r], by simp, hbefore, fun q hq => ?_⟩
  rcases List.mem_append.mp hq with hq | hq
  · exact hafter q hq
  · rw [List.mem_singleton.mp hq]
    exact hr

/-- A scope that is shorter than all before it is innermost. -/
theorem of_append (hn : n ∈ s.lines) (h : ∀ r ∈ scopes, n ∈ r.lines → s.length < r.length) :
    s.IsInnermost n (scopes ++ [s]) :=
  ⟨hn, scopes, [], rfl, h, nofun⟩

end IsInnermost

/-- Whether an answer is right for a line: the innermost scope, or none if no scope contains
the line. -/
def Answers (n : Int) (scopes : List Scope) : Option Scope → Prop
  | none => ∀ s ∈ scopes, n ∉ s.lines
  | some s => s.IsInnermost n scopes

/-- A right answer stays right when one more scope is looked at. -/
theorem Answers.closer {scopes : List Scope} {best : Option Scope} (h : Answers n scopes best)
    (s : Scope) : Answers n (scopes ++ [s]) (closer n best s) := by
  by_cases hn : n ∈ s.lines
  · cases best with
    | none =>
      rw [closer_none hn]
      exact .of_append hn fun r hr hmem => absurd hmem (h r hr)
    | some b =>
      rw [closer_some hn]
      by_cases hshorter : s.length < b.length
      · rw [if_pos hshorter]
        refine .of_append hn fun r hr hmem => ?_
        have hbest : b.length ≤ r.length := IsInnermost.length_le h hr hmem
        omega
      · rw [if_neg hshorter]
        exact IsInnermost.append_of_le h fun _ => Int.not_lt.mp hshorter
  · rw [closer_of_not_mem hn]
    cases best with
    | none =>
      intro r hr
      rcases List.mem_append.mp hr with hr | hr
      · exact h r hr
      · rw [List.mem_singleton.mp hr]
        exact hn
    | some b => exact IsInnermost.append_of_le h fun hmem => absurd hmem hn

/-- Looking at all scopes gives the right answer. -/
theorem answers_foldl_closer (n : Int) (scopes : List Scope) :
    Answers n scopes (scopes.foldl (Scope.closer n) none) := by
  induction scopes using List.reverseRecOn with
  | nil => exact nofun
  | append_singleton scopes s ih =>
    rw [List.foldl_concat]
    exact ih.closer s

theorem Answers.eq_none_iff {scopes : List Scope} {found : Option Scope}
    (h : Answers n scopes found) : found = none ↔ ∀ s ∈ scopes, n ∉ s.lines := by
  cases found with
  | none => exact iff_of_true rfl h
  | some s => exact iff_of_false nofun fun hnone => hnone s h.mem h.mem_lines

/-! ## Scopes that are nested or apart -/

/-- Whether one of two scopes lies inside the other, or they have no line in common. -/
def AreNestedOrApart (r s : Scope) : Prop :=
  r.lines ⊆ s.lines ∨ s.lines ⊆ r.lines ∨ ∀ n ∈ r.lines, n ∉ s.lines

theorem AreNestedOrApart.refl (s : Scope) : s.AreNestedOrApart s :=
  Or.inl (Set.Subset.refl _)

instance : Std.Symm AreNestedOrApart where
  symm r s h := by
    rcases h with h | h | h
    · exact Or.inr (Or.inl h)
    · exact Or.inl h
    · exact Or.inr (Or.inr fun n hs hr => h n hr hs)

theorem AreNestedOrApart.of_pairwise {scopes : List Scope}
    (h : scopes.Pairwise AreNestedOrApart) (hr : r ∈ scopes) (hs : s ∈ scopes) :
    r.AreNestedOrApart s :=
  h.forall_of_forall (fun q _ => AreNestedOrApart.refl q) hr hs

/-- Of two scopes of a line that are nested the one that is no longer lies inside the other. -/
theorem lines_subset_of_length_le (h : r.AreNestedOrApart s) (hr : n ∈ r.lines)
    (hs : n ∈ s.lines) (hle : s.length ≤ r.length) : s.lines ⊆ r.lines := by
  rcases h with h | h | h
  · -- the longer one lies inside the shorter one, so that both are the same range
    obtain ⟨hfirst, hlast⟩ := (lines_subset_iff (le_trans hr.1 hr.2)).mp h
    rw [length, length] at hle
    exact lines_subset_of_le (by omega) (by omega)
  · exact h
  · exact absurd hs (h n hr)

section Nested

variable {scopes : List Scope} (hnested : scopes.Pairwise AreNestedOrApart)
include hnested

/-- The innermost scope of a line lies inside all others that contain the line. -/
theorem IsInnermost.lines_subset (h : s.IsInnermost n scopes) (hr : r ∈ scopes)
    (hn : n ∈ r.lines) : s.lines ⊆ r.lines :=
  lines_subset_of_length_le (.of_pairwise hnested hr h.mem) hn h.mem_lines (h.length_le hr hn)

/-- The innermost scopes of a line have one range, in whatever order the scopes are. -/
theorem IsInnermost.range_eq {others : List Scope} (hperm : others.Perm scopes)
    (hs : s.IsInnermost n scopes) (hr : r.IsInnermost n others) :
    r.first = s.first ∧ r.last = s.last := by
  have hr' : r ∈ scopes := hperm.mem_iff.mp hr.mem
  have hshort : r.length ≤ s.length := hr.length_le (hperm.mem_iff.mpr hs.mem) hs.mem_lines
  have hsr : s.lines ⊆ r.lines := hs.lines_subset hnested hr' hr.mem_lines
  have hrs : r.lines ⊆ s.lines := lines_subset_of_length_le
    (.of_pairwise hnested hs.mem hr') hs.mem_lines hr.mem_lines hshort
  obtain ⟨hfirst, hlast⟩ := (lines_subset_iff (le_trans hr.mem_lines.1 hr.mem_lines.2)).mp hrs
  obtain ⟨hfirst', hlast'⟩ := (lines_subset_iff (le_trans hs.mem_lines.1 hs.mem_lines.2)).mp hsr
  exact ⟨le_antisymm hfirst' hfirst, le_antisymm hlast hlast'⟩

/-- Right answers for tables with the same scopes give the same lines. -/
theorem Answers.map_lines_eq {others : List Scope} (hperm : others.Perm scopes)
    (hwhole : ∀ s ∈ scopes, s.HasWholeLines) {found other : Option Scope}
    (hfound : Answers n scopes found) (hother : Answers n others other) :
    other.map (fun s => (s.lineFrom, s.lineTo)) = found.map fun s => (s.lineFrom, s.lineTo) := by
  cases found with
  | none =>
    have hnone : other = none :=
      hother.eq_none_iff.mpr fun s hs => hfound s (hperm.mem_iff.mp hs)
    rw [hnone]
  | some s =>
    cases other with
    | none => exact absurd hfound.mem_lines (hother s (hperm.mem_iff.mpr hfound.mem))
    | some r =>
      obtain ⟨hfirst, hlast⟩ := IsInnermost.range_eq hnested hperm hfound hother
      have hs := hwhole s hfound.mem
      have hr := hwhole r (hperm.mem_iff.mp hother.mem)
      rw [Option.map_some, Option.map_some, hs.lineFrom, hs.lineTo, hr.lineFrom, hr.lineTo,
        hfirst, hlast]

end Nested

end Scope

namespace Scopes

/-! ## The answer of a table -/

/-- Going through scopes with whole lines never fails. -/
theorem innermost_eq {rows : List Scope} (hrows : ∀ s ∈ rows, s.HasWholeLines) (n : Int)
    {best : Option Scope} (hbest : ∀ s ∈ best, s.HasWholeLines) :
    innermost (.int n) best rows = .ok (rows.foldl (Scope.closer n) best) := by
  induction rows generalizing best with
  | nil => rfl
  | cons s rows ih =>
    obtain ⟨hs, hrest⟩ := List.forall_mem_cons.mp hrows
    have hsome : ∀ r ∈ some s, r.HasWholeLines := by
      intro r hr
      cases hr
      exact hs
    rw [innermost_cons, Scope.contains_eq hs, List.foldl_cons]
    simp only [bind, Except.bind, decide_eq_true_eq]
    by_cases hn : n ∈ s.lines
    · rw [if_pos hn]
      cases best with
      | none => rw [Scope.closer_none hn, ih hrest hsome]
      | some b =>
        have hlength := Scope.extent_eq (hbest b rfl)
        simp only [Scope.extent_eq hs, hlength, Json.lt_int, decide_eq_true_eq]
        rw [Scope.closer_some hn, ih hrest hsome, ih hrest hbest]
        split <;> rfl
    · rw [if_neg hn, Scope.closer_of_not_mem hn, ih hrest hbest]

/-- A table of scopes with whole lines has the right answer for every line. -/
theorem exists_answers {rows : List Scope} (hrows : ∀ s ∈ rows, s.HasWholeLines) (n : Int) :
    ∃ found, scopeAt ⟨rows⟩ (.int n) = .ok found ∧ Scope.Answers n rows found :=
  ⟨_, innermost_eq hrows n nofun, Scope.answers_foldl_closer n rows⟩

/-- For every line a table of scopes with whole lines gives the first of the shortest scopes that
contain the line, and none exactly if there is no such scope.  If the scopes are nested or apart,
the scope that is given lies inside all those that contain the line, and a table with the same
scopes in another order gives one with the same lines. -/
theorem scopeAt_innermost {table : Scopes} (hrows : ∀ s ∈ table.rows, s.HasWholeLines) (n : Int) :
    ∃ found, table.scopeAt (.int n) = .ok found ∧
      (found = none ↔ ∀ s ∈ table.rows, n ∉ s.lines) ∧
      (∀ s, found = some s → s.IsInnermost n table.rows) ∧
      (table.rows.Pairwise Scope.AreNestedOrApart →
        (∀ s, found = some s → ∀ r ∈ table.rows, n ∈ r.lines → s.lines ⊆ r.lines) ∧
        ∀ rows, rows.Perm table.rows →
          ∃ other, scopeAt ⟨rows⟩ (.int n) = .ok other ∧
            other.map (fun s => (s.lineFrom, s.lineTo)) =
              found.map fun s => (s.lineFrom, s.lineTo)) := by
  obtain ⟨found, hfound, hright⟩ := exists_answers hrows n
  have hinnermost : ∀ s, found = some s → s.IsInnermost n table.rows := by
    rintro s rfl
    exact hright
  refine ⟨found, hfound, hright.eq_none_iff, hinnermost, fun hnested => ⟨?_, ?_⟩⟩
  · intro s hs r hr hn
    exact (hinnermost s hs).lines_subset hnested hr hn
  · intro rows hperm
    obtain ⟨other, hother, hright'⟩ := exists_answers (fun s hs => hrows s (hperm.mem_iff.mp hs)) n
    exact ⟨other, hother, hright.map_lines_eq hnested hperm hrows hright'⟩

/-- A class with a function that is there twice, another one behind it, and a scope that ends before
it begins. -/
def nestedScopes : Scopes :=
  ⟨[⟨.int 1, .int 20, .str "C".toList, .str [], .str []⟩,
    ⟨.int 3, .int 9, .str "f".toList, .str [], .str []⟩,
    ⟨.int 3, .int 9, .str "g".toList, .str [], .str []⟩,
    ⟨.int 11, .int 14, .str "h".toList, .str [], .str []⟩,
    ⟨.int 7, .int 5, .str "k".toList, .str [], .str []⟩]⟩

theorem areNestedOrApart_nestedScopes : nestedScopes.rows.Pairwise Scope.AreNestedOrApart := by
  have hrelated {r s : Scope} (h : (s.first ≤ r.first ∧ r.last ≤ s.last) ∨
      (r.first ≤ s.first ∧ s.last ≤ r.last) ∨ r.last < s.first ∨ s.last < r.first) :
      r.AreNestedOrApart s := by
    rcases h with h | h | h
    · exact Or.inl (Scope.lines_subset_of_le h.1 h.2)
    · exact Or.inr (Or.inl (Scope.lines_subset_of_le h.1 h.2))
    · refine Or.inr (Or.inr fun n hr hs => ?_)
      rw [Scope.mem_lines_iff] at hr hs
      omega
  exact List.Pairwise.imp hrelated (by decide)

/-- The case of line 6 of that table. -/
theorem scopeAt_innermost_nestedScopes :
    (∀ s ∈ nestedScopes.rows, s.HasWholeLines) ∧
      nestedScopes.rows.Pairwise Scope.AreNestedOrApart ∧
      ∃ found, nestedScopes.scopeAt (.int 6) = .ok found ∧
        (∀ s, found = some s → s.IsInnermost 6 nestedScopes.rows) ∧
        (∀ s, found = some s → ∀ r ∈ nestedScopes.rows, 6 ∈ r.lines → s.lines ⊆ r.lines) ∧
        ∀ rows, rows.Perm nestedScopes.rows →
          ∃ other, scopeAt ⟨rows⟩ (.int 6) = .ok other ∧
            other.map (fun s => (s.lineFrom, s.lineTo)) =
              found.map fun s => (s.lineFrom, s.lineTo) := by
  have hwhole : ∀ s ∈ nestedScopes.rows, s.HasWholeLines := by
    simp only [nestedScopes, List.forall_mem_cons]
    exact ⟨⟨rfl, rfl⟩, ⟨rfl, rfl⟩, ⟨rfl, rfl⟩, ⟨rfl, rfl⟩, ⟨rfl, rfl⟩, nofun⟩
  obtain ⟨found, hfound, _, hinnermost, hnested⟩ := scopeAt_innermost hwhole 6
  exact ⟨hwhole, areNestedOrApart_nestedScopes, found, hfound, hinnermost,
    hnested areNestedOrApart_nestedScopes⟩

end Scopes

end HitListing
