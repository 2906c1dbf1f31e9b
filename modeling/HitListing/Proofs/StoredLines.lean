import HitListing.Context.Stored
import HitListing.Proofs.ContextLines
import HitListing.Proofs.InvertedIndex
import HitListing.Proofs.LineNumbers

/-!
# The lines that stored positions give

The positions of a text, read back from the bytes they are stored as, give the
lines of the text in which a word matches, in order and each once
(`filterMap_line?_ofText`).  If the text has no further breaks, these are the
lines that are shown of the file itself (`renderLines_matchingLines`).

Reading the bytes back fails only if a line number has too many digits.
-/

namespace HitListing.StoredContext

/-! ## Reading the tables back -/

/-- The stored tables are read back, unless a number is too long. -/
theorem tables?_encode (t : Text) :
    tables? (Positions.ofText t).encode = none ∨
      tables? (Positions.ofText t).encode =
        some (.obj (Positions.ofText t).termFields, .obj (Positions.ofText t).lineFields) := by
  have hread := Json.ofBytes_encode_write (Positions.isSimple_toJson t)
  rw [tables?, Positions.encode, hread]
  cases Json.numeralsFit (Positions.ofText t).toJson with
  | false => exact Or.inl rfl
  | true => exact Or.inr rfl

/-! ## Looking lines up -/

/-- A stored word gives the numbers of its lines. -/
theorem numbersOf_ofText (t term : Text) :
    numbersOf (.obj (Positions.ofText t).termFields) term =
      .ok ((lineNumbers t term).map Json.ofNat) := by
  have hscalar : ((lineNumbers t term).map Json.ofNat).all Json.isScalar = true := by
    rw [List.all_map]
    exact List.all_eq_true.mpr fun n _ => rfl
  rw [numbersOf.eq_def]
  simp only [Positions.lookup_termFields]
  by_cases h : lineNumbers t term = []
  · rw [if_pos h, h]
    rfl
  · rw [if_neg h]
    show (if ((lineNumbers t term).map Json.ofNat).all Json.isScalar then
      Except.ok ((lineNumbers t term).map Json.ofNat) else Except.error Fault.wrongKind) = _
    rw [if_pos hscalar]

/-- The lines of a text in which a word matches, with their numbers. -/
def matchingLines (t : Text) (wanted : Terms) : List (Text × Nat) :=
  ((indexLines t).zipIdx 1).filter fun p => wanted.matched p.1 ≠ []

theorem mem_matchingLines {t line : Text} {wanted : Terms} {n : Nat} :
    (line, n) ∈ matchingLines t wanted ↔
      IsIndexLine t n line ∧ wanted.matched line ≠ [] := by
  rw [matchingLines, List.mem_filter, List.mk_mem_zipIdx_iff_le_and_getElem?_sub,
    decide_eq_true_eq]
  rfl

/-- The stored words give the numbers of the lines in which a word matches. -/
theorem numbers_ofText (t : Text) (wanted : Terms) :
    numbers (.obj (Positions.ofText t).termFields) wanted =
      .ok (((matchingLines t wanted).map Prod.snd).map Json.ofNat) := by
  have hfound : wanted.all.mapM (numbersOf (.obj (Positions.ofText t).termFields)) =
      .ok (wanted.all.map fun term => (lineNumbers t term).map Json.ofNat) := by
    induction wanted.all with
    | nil => rfl
    | cons term terms ih =>
      rw [List.mapM_cons, numbersOf_ofText, ih]
      rfl
  have hflatten : (wanted.all.map fun term => (lineNumbers t term).map Json.ofNat).flatten =
      (wanted.all.flatMap (lineNumbers t)).map Json.ofNat := by
    rw [← List.flatMap_def, List.map_flatMap]
  have hsorted : ((matchingLines t wanted).map Prod.snd).Pairwise (· < ·) := by
    have hall : (((indexLines t).zipIdx 1).map Prod.snd).Pairwise (· < ·) := by
      rw [List.zipIdx_map_snd]
      exact List.pairwise_lt_range'
    exact hall.sublist (List.filter_sublist.map Prod.snd)
  have hmem : ∀ n, n ∈ (matchingLines t wanted).map Prod.snd ↔
      n ∈ wanted.all.flatMap (lineNumbers t) := by
    intro n
    rw [List.mem_map, List.mem_flatMap]
    constructor
    · intro h
      obtain ⟨⟨line, n⟩, hline, rfl⟩ := h
      obtain ⟨hindex, hmatch⟩ := mem_matchingLines.mp hline
      obtain ⟨term, hterm, hword⟩ := Terms.matched_ne_nil_iff.mp hmatch
      exact ⟨term, hterm, mem_lineNumbers.mpr ⟨line, hindex, hword⟩⟩
    · intro h
      obtain ⟨term, hterm, hn⟩ := h
      obtain ⟨line, hindex, hword⟩ := mem_lineNumbers.mp hn
      have hmatch := Terms.matched_ne_nil_iff.mpr ⟨term, hterm, hword⟩
      exact ⟨(line, n), mem_matchingLines.mpr ⟨hindex, hmatch⟩, rfl⟩
  rw [numbers, hfound]
  show Json.sortMembers (Json.distinct _) = _
  rw [hflatten, Json.sortMembers_distinct_map_ofNat hsorted hmem]

/-- A line in which a word matches is found under its number. -/
theorem line?_ofText {t : Text} {wanted : Terms} {p : Text × Nat}
    (h : p ∈ matchingLines t wanted) :
    line? (.obj (Positions.ofText t).lineFields) (Json.ofNat p.2) =
      some (SourceContext.numberedLine p) := by
  obtain ⟨line, n⟩ := p
  obtain ⟨⟨hn, hget⟩, hmatch⟩ := mem_matchingLines.mp h
  have hwords : words line ≠ [] := by
    intro hnone
    obtain ⟨term, _, hword⟩ := Terms.matched_ne_nil_iff.mp hmatch
    rw [hnone] at hword
    cases hword
  have hlookup : Json.lookup (Text.ofNat n) (Positions.ofText t).lineFields = some (.str line) :=
    Positions.lookup_lineFields.mpr ⟨line, rfl, hn, hget, hwords⟩
  show (Json.lookup (Text.ofNat n) (Positions.ofText t).lineFields).map _ = _
  rw [hlookup]
  rfl

/-- The stored tables give the lines of the text in which a word matches. -/
theorem filterMap_line?_ofText (t : Text) (wanted : Terms) :
    (((matchingLines t wanted).map Prod.snd).map Json.ofNat).filterMap
        (line? (.obj (Positions.ofText t).lineFields)) =
      (matchingLines t wanted).map SourceContext.numberedLine := by
  rw [List.map_map, List.filterMap_map, ← List.filterMap_eq_map]
  exact List.filterMap_congr fun p hp => line?_ofText hp

/-! ## The lines of the file -/

/-- The lines that the positions of a text give are shown like those of the text. -/
theorem renderLines_matchingLines {c : SourceContext} {v : FileView} {t : Text}
    (hreturn : '\r' ∉ t) (hplain : IsPlain t) (hterms : c.lineTerms = c.terms) :
    c.renderLines v ((matchingLines t c.terms).map SourceContext.numberedLine) =
      c.renderLines v (SourceContext.numbered t) := by
  have hlines : matchingLines t c.terms =
      (((feedLines t).zipIdx 1).filter fun p => c.lineTerms.matched p.1 ≠ []).map
        fun p => (dropNewline p.1, p.2) := by
    rw [matchingLines, indexLines_eq_fileLines hreturn hplain, fileLines, List.zipIdx_map,
      List.filter_map, hterms]
    congr 2
    funext p
    simp only [Function.comp_apply, Prod.map_fst, Terms.matched_dropNewline]
  rw [hlines, List.map_map]
  exact SourceContext.renderFrom_filter 0 ((feedLines t).zipIdx 1)

end HitListing.StoredContext
