import HitListing.Context.Stored
import HitListing.Proofs.Calendar

/-!
# When stored positions are looked at

The tables of a hit are looked at if there are positions, if the file still has
the date of the hit, and if the bytes hold both tables (`StoredContext.Applies`).
In all other cases the answer is a reason, and nothing else about the hit counts
(`StoredContext.render_of_not_applies`).
-/

namespace HitListing

variable {tree : FileTree} {root : Path} {path : Text} {f : File} {hit : Hit}

/-! ## The file of a hit -/

theorem FileTree.readBytes_eq {p : Path} (h : tree.lookup p = .ok (.file f)) :
    tree.readBytes p = .ok f.content := by
  rw [readBytes, h]
  rfl

theorem TextFile.modifiedDate_eq {date : Text} (h : tree.lookup (root.child path) = .ok (.file f))
    (hdate : Calendar.modifiedIndexDate f.modified = .ok date) :
    TextFile.modifiedDate tree root path = .ok (some date) := by
  have hmodified : tree.modified? (root.child path) = .ok (some f.modified) := by
    rw [FileTree.modified?, h]
    rfl
  rw [TextFile.modifiedDate, hmodified]
  show (Calendar.modifiedIndexDate f.modified >>= fun d => .ok (some d)) = _
  rw [hdate]
  rfl

namespace StoredContext

/-- Only the date of a hit decides whether its positions are looked at. -/
theorem checkDate_eq (hit : Hit) {date : Text}
    (h : tree.lookup (root.child path) = .ok (.file f))
    (hdate : Calendar.modifiedIndexDate f.modified = .ok date) :
    checkDate tree root path hit =
      .ok (if hit.date = some date then none else some .changed) := by
  rw [checkDate, TextFile.modifiedDate_eq h hdate]

/-! ## Positions that are looked at -/

/-- Whether the stored positions of a hit hold two tables and the file still has the date of
the hit, so that the tables are looked at. -/
def Applies (tree : FileTree) (root : Path) (path : Text) (hit : Hit) (terms lines : Json) :
    Prop :=
  ∃ bytes, hit.positions = some bytes ∧ TextFile.modifiedDate tree root path = .ok hit.date ∧
    tables? bytes = some (terms, lines)

section Render

variable {c : SourceContext} {xrefBase moreBase : Text} {tabSize : Int}

/-- The tables of a hit that has the date of its file give numbers, and these give the lines that
are shown. -/
theorem render_of_date {date : Text} {bytes : Bytes} {terms lines : Json}
    (hpath : hit.path = some path) (hpositions : hit.positions = some bytes)
    (hhit : hit.date = some date) (hfile : TextFile.modifiedDate tree root path = .ok (some date))
    (htables : tables? bytes = some (terms, lines)) :
    render c tree root hit xrefBase moreBase tabSize = do
      let found ← numbers terms c.terms
      let definitions ← Definitions.ofField hit.tags
      let scopes ← Scopes.ofField hit.scopes
      let fragment ← c.renderLines
        ⟨path, xrefBase, moreBase, some definitions, some scopes, tabSize⟩
        (found.filterMap (line? lines))
      return .fragment fragment := by
  have hcheck : checkDate tree root path hit = .ok none := by
    rw [checkDate, hfile]
    simp only [if_pos hhit]
  rw [render, hpositions, hpath]
  simp only [hcheck, htables, bind, Except.bind]

/-- Tables that are looked at give numbers, and these give the lines that are shown. -/
theorem render_of_applies (hpath : hit.path = some path)
    (hfile : tree.lookup (root.child path) = .ok (.file f))
    (hmodified : Calendar.HoldsInstant
      (Calendar.epoch + Calendar.modifiedMicroseconds f.modified))
    {terms lines : Json} (happlies : Applies tree root path hit terms lines) :
    render c tree root hit xrefBase moreBase tabSize = do
      let found ← numbers terms c.terms
      let definitions ← Definitions.ofField hit.tags
      let scopes ← Scopes.ofField hit.scopes
      let fragment ← c.renderLines
        ⟨path, xrefBase, moreBase, some definitions, some scopes, tabSize⟩
        (found.filterMap (line? lines))
      return .fragment fragment := by
  obtain ⟨bytes, hpositions, hsame, htables⟩ := happlies
  obtain ⟨date, hdate⟩ := Calendar.exists_modifiedIndexDate hmodified
  have hdated := TextFile.modifiedDate_eq hfile hdate
  have hhit : hit.date = some date := Except.ok.inj (hsame.symm.trans hdated)
  exact render_of_date hpath hpositions hhit hdated htables

/-- If there are no tables to look at, the answer is a reason. -/
theorem render_of_not_applies (hpath : hit.path = some path)
    (hfile : tree.lookup (root.child path) = .ok (.file f))
    (hmodified : Calendar.HoldsInstant
      (Calendar.epoch + Calendar.modifiedMicroseconds f.modified))
    (hnone : ∀ terms lines, ¬Applies tree root path hit terms lines) :
    ∃ reason, render c tree root hit xrefBase moreBase tabSize = .ok (.needsFallback reason) := by
  obtain ⟨date, hdate⟩ := Calendar.exists_modifiedIndexDate hmodified
  have hcheck := checkDate_eq hit hfile hdate
  have hsame := TextFile.modifiedDate_eq hfile hdate
  rw [render, hpath]
  cases hpositions : hit.positions with
  | none => exact ⟨.noPositions, rfl⟩
  | some bytes =>
    by_cases hhit : hit.date = some date
    · rw [if_pos hhit] at hcheck
      cases htables : tables? bytes with
      | some tables =>
        rw [← hhit] at hsame
        exact absurd ⟨bytes, hpositions, hsame, htables⟩ (hnone tables.1 tables.2)
      | none =>
        simp only [hcheck, htables, bind, Except.bind]
        exact ⟨.unreadable, rfl⟩
    · rw [if_neg hhit] at hcheck
      simp only [hcheck, bind, Except.bind]
      exact ⟨.changed, rfl⟩

end Render

end StoredContext

end HitListing
