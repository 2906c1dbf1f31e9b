import HitListing.Proofs.BeforeOpenTag
import HitListing.Proofs.CrossReference

/-!
# Files with a tag that is not ended

The budget may leave a tag at the end of what is read that is not ended.  It is
dropped, and so is such a tag at the end of a file that fits the budget.  Stripping
would show it, as a sign or as text, unless it stands in raw text
(`readTags_whole`).
-/

namespace HitListing

open Markup

/-- A text that fits the budget is stripped as a whole if its tags are ended.  Else the last of
them is dropped, and what it shows is lost: nothing is lost exactly if it stands in raw text, which
shows nothing there.  For this no quote may stand on both sides of the bracket that begins it. -/
theorem readTags_whole {tree : FileTree} {base : Path} {path : Text} {compressed : Bool}
    {s : Stream} {t u : Text} (hopen : TextFile.cached tree base path compressed = .ok s)
    (hread : TextFile.readAll .strict s = .ok t) (hlength : t.length ≤ tagsBudget)
    (hstrip : strip t = .ok u) :
    (IsClosed t → (readTags tree base path compressed).result = .ok u) ∧
      ∀ before behind, t = before ++ '<' :: behind → '<' ∉ behind → '>' ∉ behind →
        (readTags tree base path compressed).result = strip before ∧
          ((∀ c ∈ behind, isQuote c = true → c ∉ before) →
            ((readTags tree base path compressed).result = .ok u ↔ EndsRaw .markup before)) := by
  have hresult : (readTags tree base path compressed).result = strip (dropPartialTag t) := by
    rw [readTags, readCached_of_readAll hopen hread, List.take_of_length_le hlength]
    rfl
  rw [hresult]
  constructor
  · intro hclosed
    rw [dropPartialTag_of_isClosed hclosed, hstrip]
  · rintro before behind rfl hlast hend
    rw [dropPartialTag_open hlast hend]
    refine ⟨rfl, fun hquotes => ?_⟩
    have htag : IsOpenTag ('<' :: behind) before := by
      refine ⟨rfl, ?_, ?_⟩
      · rw [List.mem_cons, not_or]
        exact ⟨by decide, hend⟩
      · rw [List.forall_mem_cons]
        exact ⟨fun hquote => absurd hquote (by decide), hquotes⟩
    rcases stripAfter_append htag hstrip with ⟨hraw, hsame⟩ | ⟨hraw, hless⟩
    · exact iff_of_true hsame hraw
    · exact iff_of_false (fun hsame => Nat.lt_irrefl _ (hless u hsame)) hraw

/-- A text with a bracket that begins no tag. -/
def comparison : Text :=
  "a < b"

/-- A file that holds it. -/
def comparisonTree : FileTree :=
  .ofFiles [⟨["data".toList, "xref".toList, "a.c".toList], Utf8.encode comparison, 0⟩]

/-- The stream of that file. -/
def comparisonStream : Stream :=
  .ofBytes (Utf8.encode comparison)

theorem cached_comparison :
    TextFile.cached comparisonTree (.ofText "data/xref") "a.c" false = .ok comparisonStream :=
  rfl

theorem readAll_comparison : TextFile.readAll .strict comparisonStream = .ok comparison := by
  decide +kernel

theorem strip_comparison : strip comparison = .ok comparison := by
  decide +kernel

/-- The case of that file. -/
theorem readTags_whole_comparison :
    TextFile.cached comparisonTree (.ofText "data/xref") "a.c" false = .ok comparisonStream ∧
      TextFile.readAll .strict comparisonStream = .ok comparison ∧
      comparison.length ≤ tagsBudget ∧ strip comparison = .ok comparison ∧
      ((readTags comparisonTree (.ofText "data/xref") "a.c" false).result = .ok comparison ↔
        EndsRaw .markup "a ") := by
  have hlength : comparison.length ≤ tagsBudget := by decide
  refine ⟨cached_comparison, readAll_comparison, hlength, strip_comparison, ?_⟩
  have h := readTags_whole cached_comparison readAll_comparison hlength strip_comparison
  have hquotes : (" b".toList.all fun c => !isQuote c) = true := by decide
  refine (h.2 "a " " b" rfl (by decide) (by decide)).2 fun c hc hquote => ?_
  have hnot := List.all_eq_true.mp hquotes c hc
  rw [hquote] at hnot
  cases hnot

/-- A file within the budget may lose what is behind a bracket that begins no tag. -/
theorem not_readTags_comparison :
    TextFile.cached comparisonTree (.ofText "data/xref") "a.c" false = .ok comparisonStream ∧
      TextFile.readAll .strict comparisonStream = .ok comparison ∧
      comparison.length ≤ tagsBudget ∧ strip comparison = .ok comparison ∧
      (readTags comparisonTree (.ofText "data/xref") "a.c" false).result ≠ .ok comparison := by
  have hresult : (readTags comparisonTree (.ofText "data/xref") "a.c" false).result =
      .ok "a ".toList := by
    rw [readTags, readCached_of_readAll cached_comparison readAll_comparison]
    decide +kernel
  refine ⟨cached_comparison, readAll_comparison, by decide, strip_comparison, ?_⟩
  rw [hresult]
  decide

end HitListing
