import HitListing.Proofs.SortedSet
import HitListing.Store
import Mathlib.Data.List.Induction

/-!
# Filled stores and their order

A store to which documents have been added one after another holds them under
the ids 1, 2 and so on (`Store.addAll_empty`): the next id is above all there
are, and just above one of them.

All documents are listed by their paths, those without a path first, and with
the same path by their ids (`Store.rowLe_iff`).  This is a linear order on
documents of different ids, so a list of all documents is determined by it.
-/

namespace HitListing

namespace Store

/-! ## Ids -/

theorem foldl_max_id (rows : List Row) (n : Int) :
    n ≤ rows.foldl (fun n s => max n s.id) n ∧
      (∀ r ∈ rows, r.id ≤ rows.foldl (fun n s => max n s.id) n) ∧
      (rows.foldl (fun n s => max n s.id) n = n ∨
        ∃ r ∈ rows, rows.foldl (fun n s => max n s.id) n = r.id) := by
  induction rows generalizing n with
  | nil => exact ⟨Int.le_refl n, nofun, Or.inl rfl⟩
  | cons r rows ih =>
    obtain ⟨hstart, hall, hlast⟩ := ih (max n r.id)
    rw [List.foldl_cons]
    refine ⟨by omega, ?_, ?_⟩
    · rw [List.forall_mem_cons]
      exact ⟨by omega, hall⟩
    · rcases hlast with hstay | ⟨s, hs, hgrow⟩
      · by_cases hmax : r.id ≤ n
        · left
          omega
        · right
          exact ⟨r, List.mem_cons_self, by omega⟩
      · exact Or.inr ⟨s, List.mem_cons_of_mem r hs, hgrow⟩

theorem nextId_cons (first : Row) (rest : List Row) :
    nextId (first :: rest) = rest.foldl (fun n s => max n s.id) first.id + 1 := rfl

/-- The next id is above all there are. -/
theorem lt_nextId {rows : List Row} {r : Row} (h : r ∈ rows) : r.id < nextId rows := by
  cases rows with
  | nil => cases h
  | cons first rest =>
    obtain ⟨hstart, hall, _⟩ := foldl_max_id rest first.id
    rw [nextId_cons]
    rcases List.mem_cons.mp h with rfl | h
    · omega
    · have := hall r h
      omega

/-- The next id is one more than some id there is. -/
theorem exists_nextId_eq {rows : List Row} (h : rows ≠ []) :
    ∃ r ∈ rows, nextId rows = r.id + 1 := by
  cases rows with
  | nil => exact absurd rfl h
  | cons first rest =>
    obtain ⟨_, _, hlast⟩ := foldl_max_id rest first.id
    rw [nextId_cons]
    rcases hlast with hstay | ⟨r, hr, hgrow⟩
    · exact ⟨first, List.mem_cons_self, by rw [hstay]⟩
    · exact ⟨r, List.mem_cons_of_mem first hr, by rw [hgrow]⟩

/-! ## Adding documents -/

/-- The rows of documents that have been added one after another. -/
def filledRows (documents : List NewDocument) : List Row :=
  (documents.zipIdx 1).map fun (d, n) => d.toRow (n : Nat)

theorem mem_filledRows {documents : List NewDocument} {r : Row} :
    r ∈ filledRows documents ↔
      ∃ (n : Nat) (d : NewDocument), documents[n]? = some d ∧ r = d.toRow (n + 1) := by
  unfold filledRows
  rw [List.mem_map]
  constructor
  · intro h
    obtain ⟨⟨d, n⟩, hmem, rfl⟩ := h
    obtain ⟨hn, hd⟩ := List.mk_mem_zipIdx_iff_le_and_getElem?_sub.mp hmem
    refine ⟨n - 1, d, hd, ?_⟩
    have hnumber : ((n - 1 : Nat) : Int) + 1 = n := by omega
    rw [hnumber]
  · intro h
    obtain ⟨n, d, hd, rfl⟩ := h
    refine ⟨(d, n + 1), List.mk_mem_zipIdx_iff_le_and_getElem?_sub.mpr ⟨by omega, hd⟩, ?_⟩
    show d.toRow ((n + 1 : Nat) : Int) = d.toRow (n + 1)
    have hnumber : ((n + 1 : Nat) : Int) = n + 1 := by omega
    rw [hnumber]

theorem filledRows_append_singleton (documents : List NewDocument) (d : NewDocument) :
    filledRows (documents ++ [d]) = filledRows documents ++ [d.toRow (documents.length + 1)] := by
  unfold filledRows
  have hcount : ((1 + documents.length : Nat) : Int) = documents.length + 1 := by omega
  rw [List.zipIdx_append, List.map_append, List.zipIdx_singleton, List.map_singleton, ← hcount]

/-- The ids of a filled store increase. -/
theorem filledRows_pairwise (documents : List NewDocument) :
    (filledRows documents).Pairwise fun a b => a.id < b.id := by
  have hnumbers : ((documents.zipIdx 1).map Prod.snd).Pairwise (· < ·) := by
    rw [List.zipIdx_map_snd]
    exact List.pairwise_lt_range'
  rw [filledRows, List.pairwise_map]
  exact (List.pairwise_map.mp hnumbers).imp fun hab => Int.ofNat_lt.mpr hab

/-- After documents that have been added one after another comes the next number. -/
theorem nextId_filledRows (documents : List NewDocument) :
    nextId (filledRows documents) = documents.length + 1 := by
  cases hlast : documents.getLast? with
  | none =>
    rw [List.getLast?_eq_none_iff] at hlast
    rw [hlast]
    rfl
  | some d =>
    have hget : documents[documents.length - 1]? = some d := by
      rw [← List.getLast?_eq_getElem?, hlast]
    have hpos : 0 < documents.length := by
      have := (List.getElem?_eq_some_iff.mp hget).1
      omega
    have hrow : d.toRow ((documents.length - 1 : Nat) + 1) ∈ filledRows documents :=
      mem_filledRows.mpr ⟨documents.length - 1, d, hget, rfl⟩
    have habove : ((documents.length - 1 : Nat) : Int) + 1 < nextId (filledRows documents) :=
      lt_nextId hrow
    obtain ⟨r, hr, hnext⟩ := exists_nextId_eq (List.ne_nil_of_mem hrow)
    obtain ⟨n, other, hn, rfl⟩ := mem_filledRows.mp hr
    have hbound := (List.getElem?_eq_some_iff.mp hn).1
    have hid : (other.toRow (n + 1)).id = n + 1 := rfl
    omega

theorem addAll_append (s : Store) (first second : List NewDocument) :
    s.addAll (first ++ second) = s.addAll first >>= fun s => s.addAll second := by
  induction first generalizing s with
  | nil => rfl
  | cons d first ih =>
    rw [List.cons_append, addAll, addAll, bind_assoc]
    congr 1
    funext added
    exact ih added.2

/-- A document that is added to a filled store comes under the next number. -/
theorem add_filledRows (documents : List NewDocument) (d : NewDocument) :
    (Store.ready (filledRows documents)).add d =
      .ok (documents.length + 1, .ready (filledRows (documents ++ [d]))) := by
  rw [filledRows_append_singleton, ← nextId_filledRows]
  rfl

/-- Documents that are added to an empty store get the ids 1, 2 and so on. -/
theorem addAll_empty (documents : List NewDocument) :
    Store.empty.addAll documents = .ok (.ready (filledRows documents)) := by
  induction documents using List.reverseRecOn with
  | nil => rfl
  | append_singleton documents d ih =>
    rw [addAll_append, ih]
    show ((Store.ready (filledRows documents)).add d >>= fun added => added.2.addAll []) = _
    rw [add_filledRows]
    rfl

/-! ## The order of documents -/

/-- Whether a path comes before another or is the same: none comes first, then paths go by code
point. -/
def pathLe : Option Text → Option Text → Bool
  | none, _ => true
  | some _, none => false
  | some p, some q => Text.le p q

theorem pathLe_trans {p q r : Option Text} (hpq : pathLe p q = true) (hqr : pathLe q r = true) :
    pathLe p r = true := by
  cases p with
  | none => rfl
  | some p =>
    cases q with
    | none => cases hpq
    | some q =>
      cases r with
      | none => cases hqr
      | some r => exact Text.le_trans hpq hqr

theorem pathLe_total (p q : Option Text) : pathLe p q = true ∨ pathLe q p = true := by
  cases p with
  | none => exact Or.inl rfl
  | some p =>
    cases q with
    | none => exact Or.inr rfl
    | some q => exact Text.le_total p q

theorem pathLe_antisymm {p q : Option Text} (hpq : pathLe p q = true) (hqp : pathLe q p = true) :
    p = q := by
  cases p with
  | none =>
    cases q with
    | none => rfl
    | some q => cases hqp
  | some p =>
    cases q with
    | none => cases hpq
    | some q => rw [Text.le_antisymm hpq hqp]

/-- Documents go by their paths, and with the same path by their ids. -/
theorem rowLe_iff (a b : Row) :
    rowLe a b = true ↔ pathLe a.path b.path = true ∧ (a.path = b.path → a.id ≤ b.id) := by
  unfold rowLe pathLe
  cases a.path with
  | none =>
    cases b.path with
    | none => simp
    | some q => simp
  | some p =>
    cases b.path with
    | none => simp
    | some q =>
      by_cases h : p = q
      · simp [h, Text.le_refl]
      · simp [h]

theorem rowLe_trans {a b c : Row} (hab : rowLe a b = true) (hbc : rowLe b c = true) :
    rowLe a c = true := by
  rw [rowLe_iff] at hab hbc ⊢
  obtain ⟨hpath, hid⟩ := hab
  obtain ⟨hpath', hid'⟩ := hbc
  refine ⟨pathLe_trans hpath hpath', ?_⟩
  intro hsame
  rw [← hsame] at hpath' hid'
  have hab : a.path = b.path := pathLe_antisymm hpath hpath'
  have := hid hab
  have := hid' hab.symm
  omega

theorem rowLe_total (a b : Row) : (rowLe a b || rowLe b a) = true := by
  rw [Bool.or_eq_true, rowLe_iff, rowLe_iff]
  by_cases hpath : a.path = b.path
  · have hrefl : pathLe b.path b.path = true := (pathLe_total b.path b.path).elim id id
    rw [hpath]
    rcases Int.le_total a.id b.id with hid | hid
    · exact Or.inl ⟨hrefl, fun _ => hid⟩
    · exact Or.inr ⟨hrefl, fun _ => hid⟩
  · rcases pathLe_total a.path b.path with hle | hle
    · exact Or.inl ⟨hle, fun heq => absurd heq hpath⟩
    · exact Or.inr ⟨hle, fun heq => absurd heq.symm hpath⟩

/-- All documents in order. -/
theorem pairwise_mergeSort_rowLe (rows : List Row) :
    (rows.mergeSort rowLe).Pairwise fun a b => rowLe a b = true := by
  apply List.pairwise_mergeSort
  · intro a b c
    exact rowLe_trans
  · intro a b
    exact rowLe_total a b

end Store

end HitListing
