import HitListing.Proofs.BoldWords
import HitListing.Proofs.ContextLines
import HitListing.Proofs.TableRows

/-!
# When context lines cannot be shown

With regular tables a line can always be chosen or passed over.  If the numbers
of the lines can be written, what can go wrong is that there is no line to look
at, or no text, that a line is to be shown under what is no number although there
are scopes, or that the tab width is refused.  Only lines that are looked at
count: those up to the one behind the last that is shown
(`succeeds_renderFrom_iff`).  The lines of a text have no fault but the tab width
(`linesFit_numbered_iff`).
-/

namespace HitListing

/-- Whether the tables that lines are shown with have regular rows. -/
structure FileView.IsRegular (v : FileView) : Prop where
  definitions : ∀ table ∈ v.definitions,
    table.IsIndexed ∧ ∀ row ∈ table.rows, row.IsRegular
  scopes : ∀ table ∈ v.scopes, ∀ row ∈ table.rows, row.IsRegular

/-- Whether a number can be shown with the scope it lies in. -/
def FileView.HasScopeOf (v : FileView) (number : Json) : Prop :=
  ∀ table ∈ v.scopes, table.rows ≠ [] → number.magnitude?.isSome = true

namespace SourceContext

variable {c : SourceContext} {v : FileView}

/-! ## Choosing a line -/

/-- With regular tables there is an answer which definitions a line names. -/
theorem exists_definitionsOn (hv : v.IsRegular) {number : Json} (hnumber : number.isScalar = true)
    (matched : List Text) :
    ∃ found, definitionsOn v number matched = .ok found ∧ ∀ row ∈ found, row.IsRegular := by
  unfold definitionsOn
  cases htable : v.definitions with
  | none => exact ⟨[], rfl, nofun⟩
  | some table =>
    obtain ⟨hindex, hrows⟩ := hv.definitions table htable
    simp only [Definitions.definitionsOf_map_str, Definitions.ofLowered_eq hindex hrows hnumber]
    refine ⟨_, rfl, fun row hrow => hrows row ?_⟩
    exact Definitions.mem_rows_of_mem_onLine hindex (List.mem_filter.mp hrow).1

theorem exists_shownWith (hv : v.IsRegular) {number : Json} (hnumber : number.isScalar = true)
    (line : Text) :
    ∃ shown, c.shownWith v number line = .ok shown ∧
      ∀ found ∈ shown, ∀ row ∈ found, row.IsRegular := by
  unfold shownWith
  cases c.lineTerms.matched line with
  | nil => exact ⟨none, rfl, fun found h => by cases h⟩
  | cons term terms =>
    obtain ⟨found, hfound, hregular⟩ := exists_definitionsOn hv hnumber (term :: terms)
    simp only [hfound, bind, Except.bind]
    split
    · exact ⟨none, rfl, fun found h => by cases h⟩
    · refine ⟨some found, rfl, fun rows hrows => ?_⟩
      cases hrows
      exact hregular

/-! ## Showing a line -/

theorem succeeds_highlight_iff (terms : Terms) (tabSize : Int) (line : Text) :
    Succeeds (terms.highlight tabSize line) ↔ tabSize < tabSizeBound := by
  rw [Terms.highlight, succeeds_map_iff, succeeds_layOut_iff]

theorem succeeds_typeNote {found : List Definition} (h : ∀ row ∈ found, row.IsRegular) :
    Succeeds (typeNote found) := by
  cases found with
  | nil => exact succeeds_ok _
  | cons row rows =>
    obtain ⟨_, _, ⟨t, ht⟩, _⟩ := h row List.mem_cons_self
    rw [typeNote, ht]
    exact succeeds_ok _

theorem succeeds_scopeNote_iff (hv : v.IsRegular) (number : Json) :
    Succeeds (scopeNote v number) ↔ v.HasScopeOf number := by
  rw [scopeNote, FileView.HasScopeOf]
  cases htable : v.scopes with
  | none => exact iff_of_true (succeeds_ok _) nofun
  | some table =>
    have hrows := hv.scopes table htable
    have hscope : (∀ t ∈ some table, t.rows ≠ [] → number.magnitude?.isSome = true) ↔
        (table.rows ≠ [] → number.magnitude?.isSome = true) := by simp
    rw [hscope]
    by_cases h : table.rows ≠ [] → number.magnitude?.isSome = true
    · obtain ⟨found, hfound, hregular⟩ := Scopes.exists_scopeAt hrows h
      refine iff_of_true ?_ h
      simp only [hfound, bind, Except.bind]
      cases found with
      | none => exact succeeds_ok _
      | some s =>
        obtain ⟨_, _, ⟨t, ht⟩, _⟩ := hregular s rfl
        simp only [ht]
        exact succeeds_ok _
    · refine iff_of_false ?_ h
      simp only [Classical.not_imp, Bool.not_eq_true] at h
      rw [succeeds_bind_iff]
      intro h
      obtain ⟨found, hfound, _⟩ := h
      exact Scopes.not_succeeds_scopeAt hrows h.1 h.2 ⟨found, hfound⟩

/-- A line whose number can be written can be shown if the tab width is accepted and its number has
a scope, or there are no scopes. -/
theorem succeeds_block_iff (hv : v.IsRegular) {number : Json} (hnumber : number.numeralsFit = true)
    (line : Text) {found : List Definition} (hfound : ∀ row ∈ found, row.IsRegular) :
    Succeeds (c.block v number line found) ↔ v.tabSize < tabSizeBound ∧ v.HasScopeOf number := by
  rw [← succeeds_highlight_iff c.lineTerms v.tabSize line, ← succeeds_scopeNote_iff hv, block,
    Json.shown_of_fits hnumber]
  change Succeeds (c.lineTerms.highlight v.tabSize line >>= _) ↔ _
  refine succeeds_bind_iff_of_forall fun shown _ => ?_
  refine (succeeds_bind_iff_of_forall fun types _ => succeeds_bind_ok_iff).trans ?_
  exact and_iff_right (succeeds_typeNote hfound)

/-! ## All lines -/

/-- Whether a line is to be shown, if there is room. -/
def isHit (c : SourceContext) (v : FileView) : NumberedLine → Bool
  | .ok (number, .str line) =>
    match c.shownWith v number line with
    | .ok (some _) => true
    | _ => false
  | _ => false

/-- Whether a line that is looked at, after `shown` others have been shown, is no fault: it is
there and is a text, and it can be shown if it is to be. -/
def LineFits (c : SourceContext) (v : FileView) (shown : Nat) (item : NumberedLine) : Prop :=
  ∃ number line, item = .ok (number, .str line) ∧
    (c.isHit v item = true → (shown : Int) ≠ c.limit →
      v.tabSize < tabSizeBound ∧ v.HasScopeOf number)

/-- Whether all lines that are looked at, after `shown` others have been shown, are no
faults. -/
def LinesFit (c : SourceContext) (v : FileView) (shown : Nat) (lines : List NumberedLine) : Prop :=
  ∀ before item after, lines = before ++ item :: after →
    (c.limit < shown ∨ (shown + before.countP (c.isHit v) : Nat) ≤ c.limit) →
    c.LineFits v (shown + before.countP (c.isHit v)) item

theorem linesFit_nil (shown : Nat) : c.LinesFit v shown [] := by
  intro before item after heq
  simp at heq

/-- A line that is not shown leaves the count as it is. -/
theorem linesFit_cons_of_not_isHit {shown : Nat} {item : NumberedLine} {lines : List NumberedLine}
    (hhit : c.isHit v item = false) :
    c.LinesFit v shown (item :: lines) ↔ c.LineFits v shown item ∧ c.LinesFit v shown lines := by
  constructor
  · intro h
    refine ⟨h [] item lines rfl ?_, fun before next after heq hlook => ?_⟩
    · rw [List.countP_nil, Nat.add_zero]
      omega
    · have hfit := h (item :: before) next after (by rw [heq, List.cons_append])
      rw [List.countP_cons_of_neg (by simp [hhit])] at hfit
      exact hfit hlook
  · intro h before next after heq hlook
    obtain ⟨hfirst, hrest⟩ := h
    cases before with
    | nil =>
      cases heq
      exact hfirst
    | cons _ before =>
      cases heq
      rw [List.countP_cons_of_neg (by simp [hhit])] at hlook ⊢
      exact hrest before next after rfl hlook

/-- Behind a line that is one too many nothing is looked at. -/
theorem linesFit_cons_of_limit {shown : Nat} {item : NumberedLine} {lines : List NumberedLine}
    (hhit : c.isHit v item = true) (hlimit : (shown : Int) = c.limit) :
    c.LinesFit v shown (item :: lines) ↔ c.LineFits v shown item := by
  constructor
  · intro h
    refine h [] item lines rfl ?_
    rw [List.countP_nil, Nat.add_zero]
    omega
  · intro hfirst before next after heq hlook
    cases before with
    | nil =>
      cases heq
      exact hfirst
    | cons _ before =>
      cases heq
      rw [List.countP_cons_of_pos hhit] at hlook
      omega

/-- A line that is shown counts. -/
theorem linesFit_cons_of_isHit {shown : Nat} {item : NumberedLine} {lines : List NumberedLine}
    (hhit : c.isHit v item = true) (hlimit : (shown : Int) ≠ c.limit) :
    c.LinesFit v shown (item :: lines) ↔
      c.LineFits v shown item ∧ c.LinesFit v (shown + 1) lines := by
  have hcount (before : List NumberedLine) :
      shown + (item :: before).countP (c.isHit v) = shown + 1 + before.countP (c.isHit v) := by
    rw [List.countP_cons_of_pos hhit]
    omega
  constructor
  · intro h
    refine ⟨h [] item lines rfl ?_, fun before next after heq hlook => ?_⟩
    · rw [List.countP_nil, Nat.add_zero]
      omega
    · have hfit := h (item :: before) next after (by rw [heq, List.cons_append])
      rw [hcount] at hfit
      exact hfit (by omega)
  · intro h before next after heq hlook
    obtain ⟨hfirst, hrest⟩ := h
    cases before with
    | nil =>
      cases heq
      exact hfirst
    | cons _ before =>
      cases heq
      rw [hcount] at hlook ⊢
      exact hrest before next after rfl (by omega)

/-- A fault among the lines that is looked at is passed on. -/
theorem not_succeeds_renderFrom_cons {shown : Nat} {item : NumberedLine}
    {lines : List NumberedLine} (h : ∀ number line, item ≠ .ok (number, .str line)) :
    ¬Succeeds (c.renderFrom v shown (item :: lines)) := by
  rw [renderFrom]
  cases item with
  | error f => exact not_succeeds_error f
  | ok p =>
    obtain ⟨number, line⟩ := p
    cases line with
    | str t => exact absurd rfl (h number t)
    | _ => exact not_succeeds_error _

/-- Lines whose numbers can be written are shown exactly if those that are looked at are no
faults. -/
theorem succeeds_renderFrom_iff (hv : v.IsRegular) (shown : Nat) {lines : List NumberedLine}
    (hnumbers : ∀ number line, .ok (number, line) ∈ lines →
      number.isScalar = true ∧ number.numeralsFit = true) :
    Succeeds (c.renderFrom v shown lines) ↔ c.LinesFit v shown lines := by
  induction lines generalizing shown with
  | nil => exact iff_of_true (succeeds_ok _) (linesFit_nil shown)
  | cons item lines ih =>
    have ih (shown : Nat) := ih shown fun number line hmem =>
      hnumbers number line (List.mem_cons_of_mem _ hmem)
    by_cases htext : ∃ number line, item = .ok (number, .str line)
    · obtain ⟨number, line, rfl⟩ := htext
      obtain ⟨hscalar, hwritten⟩ := hnumbers number _ List.mem_cons_self
      obtain ⟨chosen, hchosen, hregular⟩ := exists_shownWith (c := c) hv hscalar line
      rw [renderFrom_cons_str, hchosen]
      cases chosen with
      | none =>
        have hhit : c.isHit v (.ok (number, .str line)) = false := by simp only [isHit, hchosen]
        have hfits : c.LineFits v shown (.ok (number, .str line)) :=
          ⟨number, line, rfl, fun h => by rw [hhit] at h; cases h⟩
        rw [linesFit_cons_of_not_isHit hhit, ← ih]
        exact (and_iff_right hfits).symm
      | some found =>
        have hhit : c.isHit v (.ok (number, .str line)) = true := by simp only [isHit, hchosen]
        have hfits : c.LineFits v shown (.ok (number, .str line)) ↔ ((shown : Int) ≠ c.limit →
            v.tabSize < tabSizeBound ∧ v.HasScopeOf number) := by
          constructor
          · intro h
            obtain ⟨n, l, heq, h⟩ := h
            cases heq
            exact h hhit
          · intro h
            exact ⟨number, line, rfl, fun _ => h⟩
        show Succeeds (if (shown : Int) = c.limit then .ok (c.moreLink v)
          else c.block v number line found >>= fun start =>
            c.renderFrom v (shown + 1) lines >>= fun more => .ok (start ++ more)) ↔ _
        by_cases hlimit : (shown : Int) = c.limit
        · rw [if_pos hlimit, linesFit_cons_of_limit hhit hlimit, hfits]
          exact iff_of_true (succeeds_ok _) fun hne => absurd hlimit hne
        · have hblock := succeeds_block_iff (c := c) hv hwritten line (hregular found rfl)
          rw [if_neg hlimit, linesFit_cons_of_isHit hhit hlimit, hfits, ← ih,
            forall_prop_of_true hlimit, ← hblock]
          exact succeeds_both_iff
    · have hfault : ∀ number line, item ≠ .ok (number, .str line) := fun number line heq =>
        htext ⟨number, line, heq⟩
      refine iff_of_false (not_succeeds_renderFrom_cons hfault) fun h => ?_
      obtain ⟨number, line, heq, _⟩ := h [] item lines rfl (by rw [List.countP_nil]; omega)
      exact hfault number line heq

/-! ## The lines of a text -/

theorem hasScopeOf_int (v : FileView) (n : Int) : v.HasScopeOf (.int n) := by
  intro _ _ _
  rfl

/-- If all lines are there under whole numbers, only the tab width can be a fault, if a line is
shown at all. -/
theorem linesFit_iff {lines : List NumberedLine}
    (hlines : ∀ item ∈ lines, ∃ (n : Int) (line : Text), item = .ok (.int n, .str line)) :
    c.LinesFit v 0 lines ↔
      v.tabSize < tabSizeBound ∨ c.limit = 0 ∨ ∀ item ∈ lines, c.isHit v item = false := by
  constructor
  · intro h
    cases hfirst : lines.find? (c.isHit v) with
    | none =>
      refine Or.inr (Or.inr fun item hitem => ?_)
      simpa using List.find?_eq_none.mp hfirst item hitem
    | some item =>
      obtain ⟨hhit, before, after, heq, hbefore⟩ := List.find?_eq_some_iff_append.mp hfirst
      have hcount : before.countP (c.isHit v) = 0 :=
        List.countP_eq_zero.mpr fun other hother => by simpa using hbefore other hother
      have hfits := h before item after heq (by rw [hcount]; omega)
      rw [hcount] at hfits
      obtain ⟨_, _, _, hfits⟩ := hfits
      by_cases hlimit : c.limit = 0
      · exact Or.inr (Or.inl hlimit)
      · exact Or.inl (hfits hhit (by omega)).1
  · intro h before item after heq hlook
    have hitem : item ∈ lines := by
      rw [heq]
      simp
    obtain ⟨n, line, rfl⟩ := hlines item hitem
    refine ⟨.int n, line, rfl, fun hhit hne => ⟨?_, hasScopeOf_int v n⟩⟩
    rcases h with htab | hlimit | hnone
    · exact htab
    · omega
    · rw [hnone _ hitem] at hhit
      cases hhit

end SourceContext

end HitListing
