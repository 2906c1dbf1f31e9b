import HitListing.Proofs.BoldWords
import HitListing.Proofs.ContextDocument
import HitListing.Proofs.LowerCase
import HitListing.Proofs.Windows

/-!
# What an excerpt shows

The text content of an excerpt is what stands in the text from the first word of
a densest window through the last, with single spaces for runs of blanks and
with dots where text is left out; its bold words are the words of the window
that are terms (`Summarizer.summarize_outcome`).

Gaps are shown one by one, yet no run of blanks goes over a word, so that it is
the whole that has its blanks squeezed (`Summarizer.flatMap_shownText`).
-/

namespace HitListing

/-! ## Blanks -/

namespace CodePoints

theorem exists_range_of_hasCode {ranges : CodePoints} {n : Nat} (h : ranges.hasCode n = true) :
    ∃ r ∈ ranges, r.1 ≤ n ∧ n ≤ r.2 := by
  induction ranges with
  | nil => cases h
  | cons r ranges ih =>
    rw [hasCode] at h
    split at h
    · cases h
    · rename_i hfirst
      rcases Bool.or_eq_true_iff.mp h with hlast | hrest
      · exact ⟨r, List.mem_cons_self, Nat.not_lt.mp hfirst, of_decide_eq_true hlast⟩
      · obtain ⟨s, hs, hrange⟩ := ih hrest
        exact ⟨s, List.mem_cons_of_mem r hs, hrange⟩

end CodePoints

/-- No blank code point is one of words. -/
theorem blankCodePoints_apart :
    (blankCodePoints.all fun r => (List.range' r.1 (r.2 + 1 - r.1)).all fun n =>
      !wordCodePoints.hasCode n) = true := by
  decide +kernel

/-- A blank belongs to no word. -/
theorem isWordChar_of_isBlank {c : Char} (h : isBlank c = true) : isWordChar c = false := by
  obtain ⟨r, hr, hfirst, hlast⟩ := CodePoints.exists_range_of_hasCode h
  have hrange := List.all_eq_true.mp blankCodePoints_apart r hr
  have hin : c.toNat ∈ List.range' r.1 (r.2 + 1 - r.1) := by
    rw [List.mem_range'_1]
    omega
  have hnot : wordCodePoints.hasCode c.toNat = false := by
    simpa using List.all_eq_true.mp hrange c.toNat hin
  exact hnot

theorem isBlank_of_isWordChar {c : Char} (h : isWordChar c = true) : isBlank c = false := by
  cases hblank : isBlank c with
  | false => rfl
  | true =>
    rw [isWordChar_of_isBlank hblank] at h
    cases h

namespace Summarizer

theorem squeezeBlanks_cons {c : Char} (hc : isBlank c = false) (rest : Text) :
    squeezeBlanks (c :: rest) = c :: squeezeBlanks rest := by
  rw [squeezeBlanks.eq_def]
  exact if_neg (by simp [hc])

/-- The last blank of a run is shown as a space. -/
theorem squeezeBlanks_blank {c : Char} (hc : isBlank c = true) (rest : Text) :
    squeezeBlanks (c :: rest) =
      if rest.head?.any isBlank then squeezeBlanks rest else ' ' :: squeezeBlanks rest := by
  rw [squeezeBlanks.eq_def]
  refine (if_pos hc).trans ?_
  cases rest with
  | nil => rfl
  | cons d rest => rfl

/-- What holds no blank stays as it is. -/
theorem squeezeBlanks_append {t : Text} (h : ∀ c ∈ t, isBlank c = false) (rest : Text) :
    squeezeBlanks (t ++ rest) = t ++ squeezeBlanks rest := by
  induction t with
  | nil => rfl
  | cons c t ih =>
    obtain ⟨hc, hrest⟩ := List.forall_mem_cons.mp h
    rw [List.cons_append, squeezeBlanks_cons hc, ih hrest, List.cons_append]

/-- A run of blanks is shown as a single space. -/
theorem squeezeBlanks_run {run rest : Text} (hne : run ≠ []) (hrun : ∀ c ∈ run, isBlank c = true)
    (hend : rest.head?.any isBlank = false) :
    squeezeBlanks (run ++ rest) = ' ' :: squeezeBlanks rest := by
  induction run with
  | nil => exact absurd rfl hne
  | cons c run ih =>
    obtain ⟨hc, hmore⟩ := List.forall_mem_cons.mp hrun
    rw [List.cons_append, squeezeBlanks_blank hc]
    cases run with
    | nil => rw [List.nil_append, hend, if_neg Bool.false_ne_true]
    | cons d run =>
      have hd : isBlank d = true := hmore d List.mem_cons_self
      rw [if_pos (by simp [hd]), ih (List.cons_ne_nil d run) hmore]

/-- Runs of blanks end before a character that is no blank. -/
theorem squeezeBlanks_append_cons {c : Char} (hc : isBlank c = false) (t rest : Text) :
    squeezeBlanks (t ++ c :: rest) = squeezeBlanks t ++ squeezeBlanks (c :: rest) := by
  induction t with
  | nil => rfl
  | cons d t ih =>
    rw [List.cons_append]
    by_cases hd : isBlank d = true
    · have hhead : (t ++ c :: rest).head?.any isBlank = t.head?.any isBlank := by
        cases t with
        | nil => simp [hc]
        | cons e t => rfl
      rw [squeezeBlanks_blank hd, squeezeBlanks_blank hd, hhead, ih]
      split <;> rfl
    · have hd : isBlank d = false := by simpa using hd
      rw [squeezeBlanks_cons hd, squeezeBlanks_cons hd, ih, List.cons_append]

/-- Whether a text is another one with a single space for each of its runs of blanks. -/
inductive IsSqueezed : Text → Text → Prop
  | nil : IsSqueezed [] []
  | keep {c : Char} {t shown : Text} (hc : isBlank c = false) (h : IsSqueezed t shown) :
      IsSqueezed (c :: t) (c :: shown)
  | squeeze {run rest shown : Text} (hne : run ≠ []) (hrun : ∀ c ∈ run, isBlank c = true)
      (hend : rest.head?.any isBlank = false) (h : IsSqueezed rest shown) :
      IsSqueezed (run ++ rest) (' ' :: shown)

/-- A blank before a run of blanks changes nothing. -/
theorem IsSqueezed.cons_blank {c : Char} {t shown : Text} (hc : isBlank c = true)
    (hhead : t.head?.any isBlank = true) (h : IsSqueezed t shown) :
    IsSqueezed (c :: t) shown := by
  cases h with
  | nil => cases hhead
  | keep hd _ =>
    rw [List.head?_cons, Option.any_some, hd] at hhead
    cases hhead
  | squeeze hne hrun hend h =>
    rw [← List.cons_append]
    exact .squeeze (List.cons_ne_nil c _) (List.forall_mem_cons.mpr ⟨hc, hrun⟩) hend h

theorem isSqueezed_squeezeBlanks (t : Text) : IsSqueezed t (squeezeBlanks t) := by
  induction t with
  | nil => exact .nil
  | cons c t ih =>
    cases hc : isBlank c with
    | true =>
      rw [squeezeBlanks_blank hc]
      split
      · rename_i hhead
        exact ih.cons_blank hc hhead
      · rename_i hhead
        have hend : t.head?.any isBlank = false := by simpa using hhead
        exact .squeeze (List.cons_ne_nil c []) (List.forall_mem_singleton.mpr hc) hend ih
    | false =>
      rw [squeezeBlanks_cons hc]
      exact .keep hc ih

/-- There is one way only to squeeze the blanks of a text. -/
theorem isSqueezed_iff {t shown : Text} : IsSqueezed t shown ↔ shown = squeezeBlanks t := by
  constructor
  · intro h
    induction h with
    | nil => rfl
    | keep hc _ ih => rw [squeezeBlanks_cons hc, ← ih]
    | squeeze hne hrun hend _ ih => rw [squeezeBlanks_run hne hrun hend, ← ih]
  · rintro rfl
    exact isSqueezed_squeezeBlanks t

/-- The text of a piece as an excerpt shows it. -/
def shownText (p : Piece) : Text :=
  if p.isWord then p.text else squeezeBlanks p.text

/-- To squeeze the blanks of each gap is to squeeze those of the whole: no run of blanks goes over
a word. -/
theorem flatMap_shownText {ps : List Piece} (h : IsCut ps) :
    ps.flatMap shownText = squeezeBlanks (ps.flatMap (·.text)) := by
  induction ps with
  | nil => rfl
  | cons p ps ih =>
    have hrest := ih (h.part (List.suffix_cons p ps).isInfix)
    rw [List.flatMap_cons, List.flatMap_cons, hrest, shownText]
    cases hword : p.isWord with
    | true =>
      have hblank : ∀ c ∈ p.text, isBlank c = false := fun c hc =>
        isBlank_of_isWordChar ((h.kinds p List.mem_cons_self c hc).trans hword)
      rw [if_pos rfl, squeezeBlanks_append hblank]
    | false =>
      rw [if_neg (by decide)]
      cases ps with
      | nil => rw [List.flatMap_nil, List.append_nil, squeezeBlanks, List.append_nil]
      | cons q ps =>
        have hturn : q.isWord = true := by
          have hne := (List.isChain_cons_cons.mp h.turns).1
          rw [hword] at hne
          simpa using hne.symm
        have hq : q ∈ p :: q :: ps := List.mem_cons_of_mem p List.mem_cons_self
        obtain ⟨c, body, hbody⟩ := List.exists_cons_of_ne_nil (h.nonempty q hq)
        have hin : c ∈ q.text := by
          rw [hbody]
          exact List.mem_cons_self
        have hc : isBlank c = false := isBlank_of_isWordChar ((h.kinds q hq c hin).trans hturn)
        rw [List.flatMap_cons, hbody, List.cons_append, squeezeBlanks_append_cons hc]

/-! ## Terms without NULs -/

/-- Whether a word is one of the given terms, apart from case. -/
def isAmong (given : List Text) (word : Text) : Bool :=
  (given.map lower).contains (lower word)

/-- If no term has a NUL, the words that are marked are the terms. -/
theorem marks_ofList {given : List Text} (hnul : ∀ term ∈ given, '\x00' ∉ term) (window : Int)
    {word : Text} (hword : word ≠ []) :
    (Summarizer.mk (.ofList given) window).marks word = isAmong given word := by
  have hwhole : (Terms.ofList given).all.map (Text.dropEndWhile (· = '\x00')) =
      (Terms.ofList given).all := by
    refine (List.map_congr_left fun term hterm => ?_).trans (List.map_id _)
    obtain ⟨t, ht, rfl⟩ := List.mem_map.mp (Text.mem_sortedSet.mp hterm)
    refine Text.dropEndWhile_eq_self fun c hc => ?_
    have hne : c ≠ '\x00' := by
      rintro rfl
      exact hnul t (List.mem_filter.mp ht).1 (mem_of_mem_lower (List.mem_of_getLast? hc))
    simpa using hne
  rw [marks, hwhole, isAmong, Bool.eq_iff_iff, List.contains_iff_mem, List.contains_iff_mem,
    Terms.ofList, Text.mem_sortedSet, List.mem_map, List.mem_map]
  constructor
  · intro h
    obtain ⟨term, hterm, heq⟩ := h
    exact ⟨term, (List.mem_filter.mp hterm).1, heq⟩
  · intro h
    obtain ⟨term, hterm, heq⟩ := h
    refine ⟨term, List.mem_filter.mpr ⟨hterm, ?_⟩, heq⟩
    have hne : term ≠ [] := by
      rintro rfl
      exact lower_ne_nil hword heq.symm
    simpa using hne

/-! ## The excerpt -/

/-- A piece of the window as a stretch of text. -/
def stretch (s : Summarizer) (p : Piece) : Stretch :=
  ⟨p.isWord && s.marks p.text, shownText p⟩

theorem write_stretch (s : Summarizer) (p : Piece) : (s.stretch p).write = s.showPiece p := by
  rw [stretch, Stretch.write, showPiece, shownText]
  cases p.isWord with
  | true => rfl
  | false => rfl

/-- An excerpt with dots where text is left out. -/
def stretches (s : Summarizer) (before : Bool) (shown : List Piece) (after : Bool) :
    List Stretch :=
  ⟨false, dotsIf before⟩ :: (shown.map s.stretch ++ [⟨false, dotsIf after⟩])

theorem flatMap_write_stretches (s : Summarizer) (before : Bool) (shown : List Piece)
    (after : Bool) :
    (s.stretches before shown after).flatMap Stretch.write =
      dotsIf before ++ shown.flatMap s.showPiece ++ dotsIf after := by
  have hdots (left : Bool) : Stretch.write ⟨false, dotsIf left⟩ = dotsIf left := escape_dotsIf left
  rw [stretches, List.flatMap_cons, List.flatMap_append, List.flatMap_map, List.flatMap_singleton,
    hdots, hdots, List.append_assoc, funext s.write_stretch]

theorem flatMap_text_stretches (s : Summarizer) (before : Bool) {shown : List Piece}
    (hshown : IsCut shown) (after : Bool) :
    (s.stretches before shown after).flatMap (·.text) =
      dotsIf before ++ squeezeBlanks (shown.flatMap (·.text)) ++ dotsIf after := by
  rw [stretches, List.flatMap_cons, List.flatMap_append, List.flatMap_map, List.flatMap_singleton,
    ← flatMap_shownText hshown, List.append_assoc]
  rfl

theorem filter_isBold_stretches (s : Summarizer) (before : Bool) (shown : List Piece)
    (after : Bool) :
    ((s.stretches before shown after).filter (·.isBold)).map (·.text) =
      (wordPieces shown).filter s.marks := by
  have htext : ∀ p : Piece, p.isWord = true → (s.stretch p).text = p.text := fun p hp =>
    if_pos hp
  rw [stretches, List.filter_cons_of_neg Bool.false_ne_true, List.filter_append, List.map_append,
    Stretch.filter_isBold_map (fun _ => rfl) htext]
  exact List.append_nil _

/-- The marks of a text are those of its words. -/
theorem map_filter_isWord {α : Type} (f : Text → α) (ps : List Piece) :
    ((ps.filter (·.isWord)).map fun p => f p.text) = (wordPieces ps).map f := by
  induction ps with
  | nil => rfl
  | cons p ps ih =>
    cases hword : p.isWord with
    | true =>
      rw [List.filter_cons_of_pos hword, List.map_cons, ih, wordPieces_cons_word hword,
        List.map_cons]
    | false =>
      rw [List.filter_cons_of_neg (by simp [hword]), ih, wordPieces_cons_gap hword]

theorem summarize_of_words_eq_nil (s : Summarizer) {t : Text} (h : words t = []) :
    s.summarize t = [] := by
  rw [summarize]
  simp only [map_filter_isWord, ← words_eq_wordPieces]
  rw [h]
  rfl

/-- Whether an excerpt shows the leftmost of the densest windows of a text, with the words that
pass a test in bold. -/
def ShowsDensest (test : Text → Bool) (window : Int) (t excerpt : Text) : Prop :=
  ∃ width first slice shown, width = min (max window 1).toNat (words t).length ∧
    IsDensest test (words t) width first ∧ wordRange? t first (first + width - 1) = some slice ∧
    IsSqueezed slice shown ∧ Markup.strip excerpt = .ok (dotsIf (0 < first) ++ shown ++
      dotsIf (first + width < (words t).length)) ∧
    Markup.boldTexts excerpt = .ok ((((words t).drop first).take width).filter test)

theorem showsDensest_summarize (s : Summarizer) {test : Text → Bool} {t : Text}
    (htest : ∀ word ∈ words t, s.marks word = test word) (h : words t ≠ []) :
    ShowsDensest test s.window t (s.summarize t) := by
  have hlength := List.length_pos_iff.mpr h
  obtain ⟨width, hwidth⟩ : ∃ width, width = min (max s.window 1).toNat (words t).length :=
    ⟨_, rfl⟩
  have hpos : 0 < width := by omega
  have hle : width ≤ (words t).length := by omega
  have hdensest := isDensest_start hpos test hle
  obtain ⟨first, hfirst⟩ : ∃ first, first = start width ((words t).map test) := ⟨_, rfl⟩
  rw [← hfirst] at hdensest
  obtain ⟨shown, hpieces, hpart, hwords, hslice⟩ := exists_throughWord_fromWord hpos hdensest.fits
  have hcut := (isCut_pieces t).part hpart
  have hexcerpt : s.summarize t = (s.stretches (0 < first) shown
      (first + width < (words t).length)).flatMap Stretch.write := by
    rw [summarize]
    simp only [map_filter_isWord, ← words_eq_wordPieces, List.length_map]
    rw [if_neg (by omega), List.map_congr_left htest, ← hwidth, ← hfirst, hpieces,
      flatMap_write_stretches]
  have hmarks : (wordPieces shown).filter s.marks = (wordPieces shown).filter test := by
    refine List.filter_congr fun word hword => htest word ?_
    rw [hwords] at hword
    exact List.mem_of_mem_drop (List.mem_of_mem_take hword)
  refine ⟨width, first, _, _, hwidth, hdensest, hslice, isSqueezed_iff.mpr rfl, ?_, ?_⟩
  · rw [hexcerpt, Stretch.strip_write, flatMap_text_stretches s _ hcut]
  · rw [hexcerpt, Stretch.boldTexts_write, filter_isBold_stretches, hmarks, hwords]

/-- The excerpt of a text with words shows the leftmost of the densest windows; that of a text
without is empty.  Something is in bold if a term is a word of the text. -/
theorem summarize_outcome {given : List Text} (hnul : ∀ term ∈ given, '\x00' ∉ term)
    (window : Int) (t : Text) :
    (words t = [] → summarize ⟨.ofList given, window⟩ t = []) ∧
    (words t ≠ [] →
      ShowsDensest (isAmong given) window t (summarize ⟨.ofList given, window⟩ t)) ∧
    ∃ bolds, Markup.boldTexts (summarize ⟨.ofList given, window⟩ t) = .ok bolds ∧
      (bolds ≠ [] ↔ ∃ word ∈ words t, isAmong given word = true) := by
  have hmarks : ∀ word ∈ words t,
      (Summarizer.mk (.ofList given) window).marks word = isAmong given word := fun word hword =>
    marks_ofList hnul window (ne_nil_of_mem_words hword)
  have hnone := summarize_of_words_eq_nil ⟨.ofList given, window⟩ (t := t)
  have hsome := showsDensest_summarize ⟨.ofList given, window⟩ hmarks
  refine ⟨hnone, hsome, ?_⟩
  by_cases hwords : words t = []
  · refine ⟨[], by rw [hnone hwords]; rfl, ?_⟩
    rw [hwords]
    simp
  · obtain ⟨width, first, _, _, hwidth, hdensest, _, _, _, hbold⟩ := hsome hwords
    have hlength := List.length_pos_iff.mpr hwords
    refine ⟨_, hbold, ?_⟩
    rw [← hdensest.exists_iff (by omega), Ne, List.filter_eq_nil_iff]
    simp

/-- A window of two words that both match, in other case. -/
theorem summarize_outcome_foo :
    (∀ term ∈ ["Foo".toList], '\x00' ∉ term) ∧
    summarize ⟨.ofList ["Foo"], 2⟩ "a foo,\n b foo \t& FOO c".toList =
      "...<b>foo</b> &amp; <b>FOO</b>...".toList ∧
    ShowsDensest (isAmong ["Foo"]) 2 "a foo,\n b foo \t& FOO c"
      (summarize ⟨.ofList ["Foo"], 2⟩ "a foo,\n b foo \t& FOO c") := by
  have hnul : ∀ term ∈ ["Foo".toList], '\x00' ∉ term := by decide
  refine ⟨hnul, by decide +kernel, ?_⟩
  exact (summarize_outcome hnul 2 _).2.1 (by decide +kernel)

end Summarizer

end HitListing
