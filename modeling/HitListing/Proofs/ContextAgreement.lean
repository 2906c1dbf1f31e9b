import HitListing.Proofs.StoredContext
import HitListing.Proofs.StoredLines
import HitListing.Snippet

/-!
# The context from the index and the context from the file

As long as the stored positions of a hit fit its file (`Hit.PositionsFit`), it
makes no difference whether the index is asked first.  What the index gives is
then what the file gives, with the same faults, or the index asks for the file
(`storedContext_eq_or_needsFallback`).

Positions that are no use are no harm: where they are absent, or where the file
has another date, they are not looked at.
-/

namespace HitListing

/-- Whether the stored positions of a hit fit a file: there are none, the file has another
date than the hit, or they are those of the text that the file holds, and no further break
stands in that text. -/
def Hit.PositionsFit (hit : Hit) (f : File) : Prop :=
  hit.positions = none ∨
    (∀ date, Calendar.modifiedIndexDate f.modified = .ok date → hit.date ≠ some date) ∨
    ∃ t, TextFile.decode .lenient f.content = .ok t ∧ IsPlain t ∧
      hit.positions = some (Positions.ofText t).encode

/-! ## Both ways to the context -/

section Agreement

variable {tree : FileTree} {root : Path} {path : Text} {f : File} {hit : Hit}
  {c : SourceContext}

/-- The tables of a text that has not changed are shown like the file, with the same tables of
definitions and scopes. -/
theorem storedContext_eq_of_applies {t : Text} (hpath : hit.path = some path)
    (hfile : tree.lookup (root.child path) = .ok (.file f))
    (hmodified : Calendar.HoldsInstant
      (Calendar.epoch + Calendar.modifiedMicroseconds f.modified))
    (htext : TextFile.source tree root path = .ok t) (hplain : IsPlain t) (hreturn : '\r' ∉ t)
    (hterms : c.lineTerms = c.terms)
    (happlies : StoredContext.Applies tree root path hit (.obj (Positions.ofText t).termFields)
      (.obj (Positions.ofText t).lineFields))
    (xrefBase moreBase : Text) (tabSize : Int) :
    StoredContext.render c tree root hit xrefBase moreBase tabSize =
      (LiveContext.render c tree root hit xrefBase moreBase tabSize).map .fragment := by
  rw [StoredContext.render_of_applies hpath hfile hmodified happlies,
    StoredContext.numbers_ofText, LiveContext.render, hpath]
  cases Definitions.ofField hit.tags with
  | error e => rfl
  | ok definitions =>
    cases Scopes.ofField hit.scopes with
    | error e => rfl
    | ok scopes =>
      simp only [bind, Except.bind, htext, StoredContext.filterMap_line?_ofText,
        StoredContext.renderLines_matchingLines hreturn hplain hterms]
      cases c.renderLines _ (SourceContext.numbered t) <;> rfl

/-- If the positions fit the file, the tables that are looked at are those of its text. -/
theorem Hit.PositionsFit.exists_of_applies (hfit : hit.PositionsFit f)
    (hfile : tree.lookup (root.child path) = .ok (.file f))
    (hmodified : Calendar.HoldsInstant
      (Calendar.epoch + Calendar.modifiedMicroseconds f.modified))
    {terms lines : Json} (happlies : StoredContext.Applies tree root path hit terms lines) :
    ∃ t, TextFile.decode .lenient f.content = .ok t ∧ IsPlain t ∧
      terms = .obj (Positions.ofText t).termFields ∧
      lines = .obj (Positions.ofText t).lineFields := by
  obtain ⟨date, hdate⟩ := Calendar.exists_modifiedIndexDate hmodified
  obtain ⟨bytes, hpositions, hsame, htables⟩ := happlies
  rw [TextFile.modifiedDate_eq hfile hdate] at hsame
  rcases hfit with hnone | hother | ⟨t, ht, hplain, hencode⟩
  · rw [hpositions] at hnone
    cases hnone
  · exact absurd (Except.ok.inj hsame).symm (hother date hdate)
  · rw [hpositions] at hencode
    cases hencode
    rcases StoredContext.tables?_encode t with hnone | hsome
    · rw [htables] at hnone
      cases hnone
    · rw [htables] at hsome
      cases hsome
      exact ⟨t, ht, hplain, rfl, rfl⟩

/-- If its positions fit, the index gives the context that the file gives, or asks for the
file. -/
theorem storedContext_eq_or_needsFallback (hpath : hit.path = some path)
    (hfile : tree.lookup (root.child path) = .ok (.file f))
    (hmodified : Calendar.HoldsInstant
      (Calendar.epoch + Calendar.modifiedMicroseconds f.modified))
    (hfit : hit.PositionsFit f) (hterms : c.lineTerms = c.terms) (xrefBase moreBase : Text)
    (tabSize : Int) :
    (∃ reason, StoredContext.render c tree root hit xrefBase moreBase tabSize =
        .ok (.needsFallback reason)) ∨
      StoredContext.render c tree root hit xrefBase moreBase tabSize =
        (LiveContext.render c tree root hit xrefBase moreBase tabSize).map .fragment := by
  by_cases hnone : ∀ terms lines, ¬StoredContext.Applies tree root path hit terms lines
  · left
    exact StoredContext.render_of_not_applies hpath hfile hmodified hnone
  · right
    simp only [Classical.not_forall, Classical.not_not] at hnone
    obtain ⟨terms, lines, happlies⟩ := hnone
    obtain ⟨t, ht, hplain, rfl, rfl⟩ := hfit.exists_of_applies hfile hmodified happlies
    have htext : TextFile.source tree root path = .ok t :=
      (TextFile.source_eq (FileTree.readBytes_eq hfile)).trans ht
    have hreturn : '\r' ∉ t := by
      obtain ⟨s, hs, hreturn⟩ := TextFile.exists_decode_lenient f.content
      rw [ht] at hs
      rwa [Except.ok.inj hs]
    exact storedContext_eq_of_applies hpath hfile hmodified htext hplain hreturn hterms happlies
      xrefBase moreBase tabSize

end Agreement

/-! ## Snippets -/

namespace SnippetExtractor

variable {x : SnippetExtractor} {hit : Hit} {path : Text} {c : SourceContext}

/-- Once the index has given a reason, a snippet is the context from the file. -/
theorem result_context_of_reason {reason : Text} {tabSize : Int} (hlive : x.live = some c)
    (hindex : x.fromIndex hit tabSize = .ok (.error reason)) :
    (x.context hit path tabSize).result.map Snippet.text =
      LiveContext.render c x.tree x.settings.sourceRoot hit x.xrefBase x.moreBase tabSize := by
  rw [context, hindex]
  simp only [Draft.ofExcept, bind, Draft.andThen, hlive]
  cases LiveContext.render c x.tree x.settings.sourceRoot hit x.xrefBase x.moreBase tabSize <;> rfl

/-- With an index that agrees with the file or asks for it, a snippet is the context from the
file. -/
theorem result_context_of_agreement {tabSize : Int} (hlive : x.live = some c)
    (hstored : x.stored = some c)
    (h : (∃ reason, StoredContext.render c x.tree x.settings.sourceRoot hit x.xrefBase x.moreBase
          tabSize = .ok (.needsFallback reason)) ∨
      StoredContext.render c x.tree x.settings.sourceRoot hit x.xrefBase x.moreBase tabSize =
        (LiveContext.render c x.tree x.settings.sourceRoot hit x.xrefBase x.moreBase tabSize).map
          .fragment) :
    (x.context hit path tabSize).result.map Snippet.text =
      LiveContext.render c x.tree x.settings.sourceRoot hit x.xrefBase x.moreBase tabSize := by
  rcases h with ⟨reason, hreason⟩ | hsame
  · have hindex : x.fromIndex hit tabSize = .ok (.error reason.text) := by
      rw [fromIndex, hstored]
      simp only [hreason, bind, Except.bind]
      rfl
    exact result_context_of_reason hlive hindex
  · have hindex : x.fromIndex hit tabSize =
        (LiveContext.render c x.tree x.settings.sourceRoot hit x.xrefBase x.moreBase tabSize).map
          .ok := by
      rw [fromIndex, hstored]
      simp only [hsame]
      cases LiveContext.render c x.tree x.settings.sourceRoot hit x.xrefBase x.moreBase tabSize <;>
        rfl
    rw [context, hindex]
    cases LiveContext.render c x.tree x.settings.sourceRoot hit x.xrefBase x.moreBase tabSize <;>
      rfl

/-- If the stored positions of a plain file fit it, its snippet has the same text, or fails in
the same way, with the index and without it; and a fragment from the index is the context
that the file gives. -/
theorem extract_eq_without_index {x : SnippetExtractor} {hit : Hit} {path : Text} {f : File}
    (hgenre : hit.genre = .plain) (hpath : hit.path = some path)
    (hfile : x.tree.lookup (x.settings.sourceRoot.child path) = .ok (.file f))
    (hmodified : Calendar.HoldsInstant
      (Calendar.epoch + Calendar.modifiedMicroseconds f.modified))
    (hfit : hit.PositionsFit f) (terms : List Text) (defSearch : Bool)
    (limit tabSize : Int) (xrefBase moreBase : Text) :
    let c : SourceContext := ⟨.ofList terms, defSearch, limit⟩
    ({ x with stored := some c, live := some c }.extract hit tabSize).result.map Snippet.text =
        ({ x with stored := none, live := some c }.extract hit tabSize).result.map Snippet.text ∧
      ∀ t, StoredContext.render c x.tree x.settings.sourceRoot hit xrefBase moreBase tabSize =
          .ok (.fragment t) →
        LiveContext.render c x.tree x.settings.sourceRoot hit xrefBase moreBase tabSize =
          .ok t := by
  intro c
  have hterms : c.lineTerms = c.terms := SourceContext.lineTerms_ofList terms defSearch limit
  have hagree := fun xrefBase moreBase => storedContext_eq_or_needsFallback hpath hfile hmodified
    hfit hterms xrefBase moreBase tabSize
  constructor
  · have hextract (y : SnippetExtractor) : y.extract hit tabSize = y.context hit path tabSize := by
      rw [extract, hgenre, hpath]
    have hwithout : fromIndex { x with stored := none, live := some c } hit tabSize =
        .ok (.error "no fast context engine") := rfl
    rw [hextract, hextract]
    refine (result_context_of_agreement (x := { x with stored := some c, live := some c }) rfl rfl
      (hagree _ _)).trans ?_
    exact (result_context_of_reason (x := { x with stored := none, live := some c }) rfl
      hwithout).symm
  · intro t ht
    rcases hagree xrefBase moreBase with ⟨reason, hreason⟩ | hsame
    · rw [ht] at hreason
      cases hreason
    · rw [ht] at hsame
      cases hlive : LiveContext.render c x.tree x.settings.sourceRoot hit xrefBase moreBase
        tabSize with
      | error e =>
        rw [hlive] at hsame
        cases hsame
      | ok s =>
        rw [hlive] at hsame
        cases hsame
        rfl

/-- A file with two lines of words. -/
def twoLineFile : File :=
  ⟨["src".toList, "a.c".toList], Utf8.encode "int foo;\nfoo = 1;\n".toList, 0⟩

/-- A hit for that file as it was indexed. -/
def twoLineHit : Hit where
  id := 1
  path := some "a.c".toList
  genre := .plain
  date := some "19700101000000000".toList
  tags := none
  scopes := none
  positions := some (Positions.ofText "int foo;\nfoo = 1;\n").encode

/-- The means to show that hit. -/
def twoLineExtractor : SnippetExtractor :=
  ⟨.ofFiles [twoLineFile], .usual (.ofText "data") (.ofText "src"), none, none, none⟩

/-- The case of an indexed file that has not changed. -/
theorem extract_eq_without_index_twoLine :
    twoLineHit.genre = .plain ∧ twoLineHit.path = some "a.c".toList ∧
      twoLineExtractor.tree.lookup (twoLineExtractor.settings.sourceRoot.child "a.c") =
        .ok (.file twoLineFile) ∧
      Calendar.HoldsInstant
        (Calendar.epoch + Calendar.modifiedMicroseconds twoLineFile.modified) ∧
      twoLineHit.PositionsFit twoLineFile ∧
      let c : SourceContext := ⟨.ofList ["foo".toList], false, 10⟩
      ({ twoLineExtractor with stored := some c, live := some c }.extract twoLineHit 8).result.map
          Snippet.text =
        ({ twoLineExtractor with stored := none, live := some c }.extract twoLineHit 8).result.map
          Snippet.text ∧
      ∀ t, StoredContext.render c twoLineExtractor.tree twoLineExtractor.settings.sourceRoot
            twoLineHit "/xref" "/more" 8 = .ok (.fragment t) →
          LiveContext.render c twoLineExtractor.tree twoLineExtractor.settings.sourceRoot
            twoLineHit "/xref" "/more" 8 = .ok t := by
  have hmodified : Calendar.HoldsInstant
      (Calendar.epoch + Calendar.modifiedMicroseconds twoLineFile.modified) := by
    unfold Calendar.HoldsInstant
    decide +kernel
  have hplain : IsPlain "int foo;\nfoo = 1;\n" := by
    decide
  have hfit : twoLineHit.PositionsFit twoLineFile :=
    Or.inr (Or.inr ⟨"int foo;\nfoo = 1;\n".toList, rfl, hplain, rfl⟩)
  exact ⟨rfl, rfl, rfl, hmodified, hfit,
    extract_eq_without_index rfl rfl rfl hmodified hfit ["foo".toList] false 10 8 "/xref" "/more"⟩

end SnippetExtractor

end HitListing
