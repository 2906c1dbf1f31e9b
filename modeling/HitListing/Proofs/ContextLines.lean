import Mathlib.Data.List.DropRight
import HitListing.Context
import HitListing.Proofs.Lines
import HitListing.Proofs.LowerCase

/-!
# Which lines are shown

A line is looked at only for its words, and shown without its end.  So lines in
which no word matches may be left out, and the others may be given without
their ends: the context comes out the same (`renderFrom_filter`).
-/

namespace HitListing

/-! ## Lines without their ends -/

theorem dropNewline_dropNewline (line : Text) :
    dropNewline (dropNewline line) = dropNewline line := by
  simp only [dropNewline, Text.dropEndWhile, List.reverse_reverse, List.dropWhile_idempotent]

namespace Terms

theorem matched_dropNewline (terms : Terms) (line : Text) :
    terms.matched (dropNewline line) = terms.matched line := by
  rw [matched, matched, words_dropNewline]

theorem highlight_dropNewline (terms : Terms) (tabSize : Int) (line : Text) :
    terms.highlight tabSize (dropNewline line) = terms.highlight tabSize line := by
  simp only [highlight, layOut, dropNewline_dropNewline]

theorem mem_matched {terms : Terms} {line term : Text} :
    term ∈ terms.matched line ↔ term ∈ (words line).map lower ∧ term ∈ terms.all := by
  rw [matched, Text.mem_sortedSet, List.mem_filter, List.contains_iff_mem]

/-- Words match if one of them is a term in lower case. -/
theorem matched_ne_nil_iff {terms : Terms} {line : Text} :
    terms.matched line ≠ [] ↔ ∃ term ∈ terms.all, term ∈ (words line).map lower := by
  constructor
  · intro h
    obtain ⟨term, hterm⟩ := List.exists_mem_of_ne_nil _ h
    exact ⟨term, (mem_matched.mp hterm).2, (mem_matched.mp hterm).1⟩
  · intro h
    obtain ⟨term, hterm, hword⟩ := h
    exact List.ne_nil_of_mem (mem_matched.mpr ⟨hword, hterm⟩)

/-- What matches is in lower case. -/
theorem map_lower_matched (terms : Terms) (line : Text) :
    (terms.matched line).map lower = terms.matched line := by
  refine (List.map_congr_left fun term hterm => ?_).trans (List.map_id _)
  obtain ⟨word, _, rfl⟩ := List.mem_map.mp (mem_matched.mp hterm).1
  exact lower_lower word

end Terms

namespace SourceContext

/-- The terms of a query are the same when they are put in lower case once more. -/
theorem lineTerms_ofList (terms : List Text) (defSearch : Bool) (limit : Int) :
    lineTerms ⟨.ofList terms, defSearch, limit⟩ = .ofList terms :=
  Terms.ofList_all terms

variable {c : SourceContext} {v : FileView}

/-! ## One line -/

/-- The definitions that a line is shown with; none if it is not to be shown. -/
def shownWith (c : SourceContext) (v : FileView) (number : Json) (line : Text) :
    Except Fault (Option (List Definition)) :=
  match c.lineTerms.matched line with
  | [] => .ok none
  | matched => do
    let found ← definitionsOn v number matched
    if c.defSearch && found.isEmpty then return none else return some found

theorem select_str (number : Json) (line : Text) :
    c.select v number (.str line) =
      (c.shownWith v number line).map fun shown => shown.map fun found => (line, found) := by
  simp only [select, shownWith]
  cases c.lineTerms.matched line with
  | nil => rfl
  | cons term terms =>
    simp only
    cases definitionsOn v number (term :: terms) with
    | error f => rfl
    | ok found =>
      show (if c.defSearch && found.isEmpty then Except.ok none
        else Except.ok (some (line, found))) =
          (if c.defSearch && found.isEmpty then Except.ok none else Except.ok (some found)).map _
      split <;> rfl

/-- A line in which no word matches is not shown. -/
theorem shownWith_of_matched_eq_nil {number : Json} {line : Text}
    (h : c.lineTerms.matched line = []) : c.shownWith v number line = .ok none := by
  simp only [shownWith, h]

/-- A line is shown with the definitions that its matches name, and in a definition search only if
there are some. -/
theorem shownWith_eq_some_iff {number : Json} {line : Text} {found : List Definition} :
    c.shownWith v number line = .ok (some found) ↔
      c.lineTerms.matched line ≠ [] ∧
        definitionsOn v number (c.lineTerms.matched line) = .ok found ∧
        (c.defSearch = true → found ≠ []) := by
  rw [shownWith]
  cases c.lineTerms.matched line with
  | nil => simp
  | cons term terms =>
    simp only
    cases definitionsOn v number (term :: terms) with
    | error f => simp [bind, Except.bind]
    | ok definitions =>
      show (if c.defSearch && definitions.isEmpty then Except.ok none
        else Except.ok (some definitions)) = _ ↔ _
      split
      · rename_i hhidden
        simp only [Bool.and_eq_true, List.isEmpty_iff] at hhidden
        refine iff_of_false nofun ?_
        rintro ⟨_, hfound, hne⟩
        exact hne hhidden.1 (hhidden.2 ▸ (Except.ok.inj hfound).symm)
      · rename_i hshown
        simp only [Except.ok.injEq, Option.some.injEq, ne_eq, reduceCtorEq, not_false_eq_true,
          true_and]
        refine ⟨?_, And.left⟩
        rintro rfl
        exact ⟨rfl, by simpa using hshown⟩

theorem shownWith_dropNewline (number : Json) (line : Text) :
    c.shownWith v number (dropNewline line) = c.shownWith v number line := by
  simp only [shownWith, Terms.matched_dropNewline]

/-- A line is shown without its end. -/
theorem block_dropNewline (number : Json) (line : Text) (found : List Definition) :
    c.block v number (dropNewline line) found = c.block v number line found := by
  simp only [block, Terms.highlight_dropNewline]

/-! ## All lines -/

/-- What follows from a line, given what it is shown with. -/
def renderWith (c : SourceContext) (v : FileView) (shown : Nat) (number : Json) (line : Text)
    (rest : List NumberedLine) : Option (List Definition) → Except Fault Text
  | none => c.renderFrom v shown rest
  | some found =>
    if (shown : Int) = c.limit then .ok (c.moreLink v)
    else do
      let start ← c.block v number line found
      let more ← c.renderFrom v (shown + 1) rest
      return start ++ more

theorem renderFrom_cons_str (shown : Nat) (number : Json) (line : Text)
    (rest : List NumberedLine) :
    c.renderFrom v shown (.ok (number, .str line) :: rest) =
      c.shownWith v number line >>= c.renderWith v shown number line rest := by
  rw [renderFrom]
  simp only [bind, Except.bind, select_str]
  cases c.shownWith v number line with
  | error f => rfl
  | ok shownWith =>
    cases shownWith with
    | none => rfl
    | some found => rfl

/-- A line of a text as it is looked at. -/
def numberedLine (p : Text × Nat) : NumberedLine :=
  .ok (.int p.2, .str p.1)

/-- The lines in which no word matches may be left out, and the ends of the others too. -/
theorem renderFrom_filter (shown : Nat) (lines : List (Text × Nat)) :
    c.renderFrom v shown ((lines.filter fun p => c.lineTerms.matched p.1 ≠ []).map fun p =>
        numberedLine (dropNewline p.1, p.2)) =
      c.renderFrom v shown (lines.map numberedLine) := by
  induction lines generalizing shown with
  | nil => rfl
  | cons p lines ih =>
    rw [List.map_cons, numberedLine, renderFrom_cons_str]
    by_cases h : c.lineTerms.matched p.1 = []
    · rw [List.filter_cons_of_neg (by simp [h]), shownWith_of_matched_eq_nil h, ih]
      rfl
    · rw [List.filter_cons_of_pos (by simp [h]), List.map_cons, numberedLine, renderFrom_cons_str,
        shownWith_dropNewline]
      congr 1
      funext found
      cases found with
      | none => exact ih shown
      | some found => simp only [renderWith, block_dropNewline, ih]

end SourceContext

end HitListing
