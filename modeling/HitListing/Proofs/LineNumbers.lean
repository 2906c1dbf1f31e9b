import Mathlib.Tactic.ByContra
import Mathlib.Tactic.Push
import HitListing.Proofs.Positions
import HitListing.Proofs.SourceFile

/-!
# Line numbers of the index and of the file

The index numbers the lines that it cuts, a reader of the file those that end at
line feeds.  Both number every line that holds a word alike exactly if no
further break stands in or before such a line: a further break splits its own
line for the index and moves all that follow.

The argument goes line by line through the file (`linesAgree_iff`).  A line
without a further break is one line on both sides.  After one with a further
break the index is ahead, so that a word there or later stands at different
numbers (`forall_words_eq_nil_of_linesAgree`).
-/

namespace HitListing

/-- Whether two lists have the same lines with words at the same places. -/
def LinesAgree (a b : List Text) : Prop :=
  ∀ (n : Nat) (line : Text), words line ≠ [] → (a[n]? = some line ↔ b[n]? = some line)

/-- Whether each line of a file is without a further break, or no word stands in it or
behind it. -/
def BreaksBehindWords (lines : List Text) : Prop :=
  ∀ before line after, lines = before ++ line :: after →
    IsPlain line ∨ ∀ later ∈ line :: after, words later = []

/-! ## Line by line -/

theorem linesAgree_cons_cons {line : Text} {a b : List Text} :
    LinesAgree (line :: a) (line :: b) ↔ LinesAgree a b := by
  constructor
  · intro h n
    simpa using h (n + 1)
  · intro h n
    cases n with
    | zero => simp
    | succ n => simpa using h n

/-- Lists without words agree. -/
theorem linesAgree_of_forall {a b : List Text} (ha : ∀ line ∈ a, words line = [])
    (hb : ∀ line ∈ b, words line = []) : LinesAgree a b := by
  intro n line hline
  constructor
  · intro h
    exact absurd (ha line (List.mem_of_getElem? h)) hline
  · intro h
    exact absurd (hb line (List.mem_of_getElem? h)) hline

theorem breaksBehindWords_cons {line : Text} {more : List Text} :
    BreaksBehindWords (line :: more) ↔
      (IsPlain line ∨ ∀ later ∈ line :: more, words later = []) ∧ BreaksBehindWords more := by
  constructor
  · intro h
    refine ⟨h [] line more rfl, fun before l after heq => ?_⟩
    exact h (line :: before) l after (by rw [heq, List.cons_append])
  · intro h before l after heq
    obtain ⟨hfirst, hmore⟩ := h
    cases before with
    | nil =>
      injection heq with hl hafter
      rw [← hl, ← hafter]
      exact hfirst
    | cons _ before =>
      injection heq with _ heq
      exact hmore before l after heq

theorem breaksBehindWords_of_forall {lines : List Text} (h : ∀ line ∈ lines, words line = []) :
    BreaksBehindWords lines := by
  rintro before line after rfl
  exact Or.inr fun later hlater => h later (List.mem_append_right before hlater)

/-- No line of the index has a word if the text has none. -/
theorem words_eq_nil_of_mem_indexLines {t line : Text} (ht : words t = [])
    (h : line ∈ indexLines t) : words line = [] := by
  rw [← flatMap_words_indexLines, List.flatMap_eq_nil_iff] at ht
  exact ht line h

/-- Lines that hold something are at least as many for the index. -/
theorem length_le_length_flatMap {lines : List Text} (h : [] ∉ lines) :
    lines.length ≤ (lines.flatMap indexLines).length := by
  induction lines with
  | nil => simp
  | cons line lines ih =>
    rw [List.mem_cons, not_or] at h
    have hline : 0 < (indexLines line).length :=
      List.length_pos_iff.mpr (indexLines_ne_nil fun heq => h.1 heq.symm)
    have hmore := ih h.2
    rw [List.flatMap_cons, List.length_append, List.length_cons]
    omega

/-- Among lines of which one has a word there is a first such line. -/
theorem exists_first_of_words_ne_nil {lines : List Text} (h : ∃ line ∈ lines, words line ≠ []) :
    ∃ before first after, lines = before ++ first :: after ∧ words first ≠ [] ∧
      ∀ line ∈ before, words line = [] := by
  have hfind : (lines.find? fun line => decide (words line ≠ [])).isSome = true := by
    rw [List.find?_isSome]
    simpa using h
  obtain ⟨first, hfirst⟩ := Option.isSome_iff_exists.mp hfind
  obtain ⟨hword, before, after, heq, hbefore⟩ := List.find?_eq_some_iff_append.mp hfirst
  exact ⟨before, first, after, heq, by simpa using hword, by simpa using hbefore⟩

/-- A line with a further break is no line of the index, so that the lists agree there
only if it has no word. -/
theorem words_eq_nil_of_linesAgree {body t : Text} {lines : List Text} (hbreak : ¬IsPlain body)
    (h : LinesAgree (indexLines t) (body :: lines)) : words body = [] := by
  by_contra hne
  have hmem := List.mem_of_getElem? ((h 0 body hne).mpr rfl)
  refine hbreak fun c hc => ?_
  have hc := isLineBreak_of_mem_indexLines hmem c hc
  simp [isExtraBreak, hc]

/-- Once a further break has been seen, the lists agree only if no word follows. -/
theorem forall_words_eq_nil_of_linesAgree {body rest : Text} (hfeed : '\n' ∉ body)
    (hreturn : '\r' ∉ body) (hbreak : ¬IsPlain body)
    (hrest : ∀ line ∈ feedLines rest, line ≠ [])
    (h : LinesAgree (indexLines (body ++ '\n' :: rest)) (body :: fileLines rest)) :
    ∀ line ∈ body :: feedLines rest, words line = [] := by
  have hempty := words_eq_nil_of_linesAgree hbreak h
  by_contra hsome
  push Not at hsome
  obtain ⟨line, hline, hne⟩ := hsome
  obtain ⟨before, first, after, heq, hword, hbefore⟩ :
      ∃ before first after, feedLines rest = before ++ first :: after ∧ words first ≠ [] ∧
        ∀ l ∈ before, words l = [] := by
    refine exists_first_of_words_ne_nil ?_
    rcases List.mem_cons.mp hline with rfl | hline
    · exact absurd hempty hne
    · exact ⟨line, hline, hne⟩
  have hsame := words_dropNewline first
  -- for the reader the first line with a word stands behind `before`
  have hfile : (body :: fileLines rest)[before.length + 1]? = some (dropNewline first) := by
    rw [fileLines, heq]
    simp
  have hindex := (h _ _ (by rw [hsame]; exact hword)).mpr hfile
  rw [indexLines_append_feed, indexLines_eq_flatMap rest, heq, List.flatMap_append,
    ← List.append_assoc] at hindex
  -- the index is still among the lines before it there
  have hshort : before.length + 1 <
      (indexLines (body ++ ['\n']) ++ before.flatMap indexLines).length := by
    have htwo := two_le_length_indexLines hbreak hreturn
    have hlength : before.length ≤ (before.flatMap indexLines).length := by
      refine length_le_length_flatMap fun hnil => hrest [] ?_ rfl
      rw [heq]
      exact List.mem_append_left _ hnil
    rw [List.length_append]
    omega
  rw [List.getElem?_append_left hshort] at hindex
  refine hword (hsame.symm.trans ?_)
  rcases List.mem_append.mp (List.mem_of_getElem? hindex) with hmem | hmem
  · refine words_eq_nil_of_mem_indexLines ?_ hmem
    rw [words_append_singleton_gap (by decide), hempty]
  · obtain ⟨l, hl, hmem⟩ := List.mem_flatMap.mp hmem
    exact words_eq_nil_of_mem_indexLines (hbefore l hl) hmem

/-! ## The lines of a file -/

/-- A line of a file that has been read is what it holds, with a line feed or, at the
end, without. -/
theorem exists_body_of_mem_feedLines {t line : Text} (hreturn : '\r' ∉ t)
    (h : line ∈ feedLines t) :
    ∃ body, '\n' ∉ body ∧ '\r' ∉ body ∧ (line = body ++ ['\n'] ∨ line = body ∧ body ≠ []) := by
  induction t using feedLines_induction with
  | nil => cases h
  | last body hne hbody =>
    rw [feedLines_of_not_mem hne hbody, List.mem_singleton] at h
    exact ⟨body, hbody, hreturn, Or.inr ⟨h, hne⟩⟩
  | line body rest hbody ih =>
    rw [List.mem_append, List.mem_cons, not_or, not_or] at hreturn
    rw [feedLines_append_feed hbody, List.mem_cons] at h
    rcases h with h | h
    · exact ⟨body, hbody, hreturn.1, Or.inl h⟩
    · exact ih hreturn.2.2 h

/-- A line of a file holds something. -/
theorem ne_nil_of_mem_feedLines {t line : Text} (hreturn : '\r' ∉ t) (h : line ∈ feedLines t) :
    line ≠ [] := by
  obtain ⟨body, _, _, rfl | ⟨rfl, hne⟩⟩ := exists_body_of_mem_feedLines hreturn h
  · simp
  · exact hne

/-- The lines of a text without words agree. -/
theorem linesAgree_of_forall_words_eq_nil {t : Text}
    (h : ∀ line ∈ feedLines t, words line = []) : LinesAgree (indexLines t) (fileLines t) := by
  refine linesAgree_of_forall (fun line hline => ?_) fun line hline => ?_
  · rw [indexLines_eq_flatMap] at hline
    obtain ⟨l, hl, hline⟩ := List.mem_flatMap.mp hline
    exact words_eq_nil_of_mem_indexLines (h l hl) hline
  · obtain ⟨l, hl, rfl⟩ := List.mem_map.mp hline
    rw [words_dropNewline, h l hl]

/-- A last line without a line feed agrees if it has no further break, or no word. -/
theorem linesAgree_last_iff {body : Text} (hne : body ≠ []) (hfeed : '\n' ∉ body)
    (hreturn : '\r' ∉ body) :
    LinesAgree (indexLines body) (fileLines body) ↔ BreaksBehindWords (feedLines body) := by
  have hlines : fileLines body = [body] := by
    rw [fileLines, feedLines_of_not_mem hne hfeed, List.map_singleton,
      dropNewline_eq_self hfeed hreturn]
  by_cases hplain : IsPlain body
  · rw [hlines, indexLines_of_forall hne (isLineBreak_of_isPlain hplain hfeed hreturn),
      feedLines_of_not_mem hne hfeed, breaksBehindWords_cons]
    exact iff_of_true (fun _ _ _ => Iff.rfl)
      ⟨Or.inl hplain, breaksBehindWords_of_forall (by simp)⟩
  · have hlast : (∀ line ∈ feedLines body, words line = []) ↔ words body = [] := by
      simp [feedLines_of_not_mem hne hfeed]
    constructor
    · intro h
      rw [hlines] at h
      exact breaksBehindWords_of_forall (hlast.mpr (words_eq_nil_of_linesAgree hplain h))
    · intro h
      rw [feedLines_of_not_mem hne hfeed, breaksBehindWords_cons] at h
      have hempty := h.1.resolve_left hplain body List.mem_cons_self
      exact linesAgree_of_forall_words_eq_nil (hlast.mpr hempty)

theorem isPlain_append_feed {body : Text} : IsPlain (body ++ ['\n']) ↔ IsPlain body := by
  have hfeed : isExtraBreak '\n' = false := by decide
  simp [IsPlain, or_imp, forall_and, hfeed]

/-- From a line with a further break on, the lines agree if there are no more words. -/
theorem linesAgree_feed_iff {body rest : Text} (hfeed : '\n' ∉ body) (hbody : '\r' ∉ body)
    (hrest : '\r' ∉ rest) (hbreak : ¬IsPlain body) :
    LinesAgree (indexLines (body ++ '\n' :: rest)) (fileLines (body ++ '\n' :: rest)) ↔
      BreaksBehindWords (feedLines (body ++ '\n' :: rest)) := by
  constructor
  · intro h
    rw [fileLines_append_feed hfeed hbody] at h
    have hnone := forall_words_eq_nil_of_linesAgree hfeed hbody hbreak
      (fun line => ne_nil_of_mem_feedLines hrest) h
    refine breaksBehindWords_of_forall fun line hline => ?_
    rw [feedLines_append_feed hfeed] at hline
    rcases List.mem_cons.mp hline with rfl | hline
    · rw [words_append_singleton_gap (by decide), hnone body List.mem_cons_self]
    · exact hnone line (List.mem_cons_of_mem _ hline)
  · intro h
    refine linesAgree_of_forall_words_eq_nil ?_
    rw [feedLines_append_feed hfeed] at h ⊢
    exact (breaksBehindWords_cons.mp h).1.resolve_left (isPlain_append_feed.not.mpr hbreak)

/-- The lines of the index and of the file agree exactly if every line with a further
break is behind the last word. -/
theorem linesAgree_iff {t : Text} (hreturn : '\r' ∉ t) :
    LinesAgree (indexLines t) (fileLines t) ↔ BreaksBehindWords (feedLines t) := by
  induction t using feedLines_induction with
  | nil =>
    have hnone : ∀ line ∈ feedLines [], words line = [] := by simp [feedLines]
    exact iff_of_true (linesAgree_of_forall_words_eq_nil hnone)
      (breaksBehindWords_of_forall hnone)
  | last body hne hfeed => exact linesAgree_last_iff hne hfeed hreturn
  | line body rest hfeed ih =>
    rw [List.mem_append, List.mem_cons, not_or, not_or] at hreturn
    obtain ⟨hbody, _, hrest⟩ := hreturn
    by_cases hplain : IsPlain body
    · rw [fileLines_append_feed hfeed hbody, feedLines_append_feed hfeed, breaksBehindWords_cons,
        isPlain_append_feed, indexLines_append_feed, indexLines_of_isPlain hplain hfeed hbody,
        List.singleton_append, linesAgree_cons_cons, ih hrest]
      exact ⟨fun h => ⟨Or.inl hplain, h⟩, And.right⟩
    · exact linesAgree_feed_iff hfeed hbody hrest hplain

/-- A text without further breaks has the same lines for the index and for a reader of
the file. -/
theorem indexLines_eq_fileLines {t : Text} (hreturn : '\r' ∉ t) (h : IsPlain t) :
    indexLines t = fileLines t := by
  induction t using feedLines_induction with
  | nil => rfl
  | last body hne hfeed =>
    rw [indexLines_of_forall hne (isLineBreak_of_isPlain h hfeed hreturn), fileLines,
      feedLines_of_not_mem hne hfeed, List.map_singleton, dropNewline_eq_self hfeed hreturn]
  | line body rest hfeed ih =>
    rw [List.mem_append, List.mem_cons, not_or, not_or] at hreturn
    obtain ⟨hbody, _, hrest⟩ := hreturn
    have hplain : IsPlain body := fun c hc => h c (List.mem_append_left _ hc)
    have hmore : IsPlain rest := fun c hc =>
      h c (List.mem_append_right _ (List.mem_cons_of_mem _ hc))
    rw [fileLines_append_feed hfeed hbody, indexLines_append_feed,
      indexLines_of_isPlain hplain hfeed hbody, ih hrest hmore, List.singleton_append]

/-! ## The stored index -/

/-- The value of a key in an object. -/
def Json.field? (key : Text) : Json → Option Json
  | .obj fields => Json.lookup key fields
  | _ => none

/-- Whether the stored index has a line under a number. -/
def Positions.HasLine (p : Positions) (n : Nat) (line : Text) : Prop :=
  ((p.toJson.field? "lines").bind (Json.field? (Text.ofNat n))) = some (.str line)

theorem Positions.hasLine_ofText {t line : Text} {n : Nat} (hn : 1 ≤ n) (hline : words line ≠ []) :
    (ofText t).HasLine n line ↔ (indexLines t)[n - 1]? = some line := by
  have hlookup : (ofText t).HasLine n line ↔
      Json.lookup (Text.ofNat n) (ofText t).lineFields = some (.str line) := Iff.rfl
  rw [hlookup, lookup_lineFields]
  constructor
  · intro h
    obtain ⟨l, hl, _, hget, _⟩ := h
    cases hl
    exact hget
  · intro hget
    exact ⟨line, rfl, hn, hget, hline⟩

/-- For a text in a file, the index and a reader of the file number the lines with words
alike exactly if no such line has a further break in it or before it. -/
theorem hasLine_iff_fileLine_iff {tree : FileTree} {root : Path} {path t : Text}
    (hmark : t.head? ≠ some '\uFEFF')
    (hfile : tree.readBytes (root.child path) = .ok (Utf8.encode t)) :
    ∃ s, TextFile.source tree root path = .ok s ∧
      ((∀ n line, 1 ≤ n → words line ≠ [] →
          ((Positions.ofText t).HasLine n line ↔ (fileLines s)[n - 1]? = some line)) ↔
        BreaksBehindWords (feedLines s)) := by
  refine ⟨normalizeNewlines t, ?_, ?_⟩
  · rw [TextFile.source_eq hfile, TextFile.decode_lenient_encode hmark]
  rw [← linesAgree_iff (not_mem_normalizeNewlines t), indexLines_normalizeNewlines]
  constructor
  · intro h n line hline
    have hnumber := h (n + 1) line (by omega) hline
    rw [Positions.hasLine_ofText (by omega) hline, Nat.add_sub_cancel] at hnumber
    exact hnumber
  · intro h n line hn hline
    rw [Positions.hasLine_ofText hn hline]
    exact h (n - 1) line hline

/-- A file that holds one line with a form feed between two words. -/
def formFeedTree : FileTree :=
  .ofFiles [⟨["src".toList, "a.c".toList], Utf8.encode "a\x0cb".toList, 0⟩]

/-- The case of a form feed between two words. -/
theorem hasLine_iff_fileLine_iff_formFeed :
    "a\x0cb".toList.head? ≠ some '\uFEFF' ∧
      formFeedTree.readBytes ((Path.ofText "src").child "a.c") =
        .ok (Utf8.encode "a\x0cb".toList) ∧
      ∃ s, TextFile.source formFeedTree (.ofText "src") "a.c" = .ok s ∧
        ((∀ n line, 1 ≤ n → words line ≠ [] →
            ((Positions.ofText "a\x0cb").HasLine n line ↔ (fileLines s)[n - 1]? = some line)) ↔
          BreaksBehindWords (feedLines s)) :=
  ⟨by decide, rfl, hasLine_iff_fileLine_iff (by decide) rfl⟩

/-- Behind a form feed the index has a second line, and a reader of the file has none. -/
theorem not_hasLine_iff_fileLine_formFeed :
    ¬∃ s, TextFile.source formFeedTree (.ofText "src") "a.c" = .ok s ∧
      ∀ n line, 1 ≤ n → words line ≠ [] →
        ((Positions.ofText "a\x0cb").HasLine n line ↔ (fileLines s)[n - 1]? = some line) := by
  intro h
  obtain ⟨s, hs, h⟩ := h
  have hread : TextFile.source formFeedTree (.ofText "src") "a.c" = .ok "a\x0cb".toList := rfl
  obtain rfl : "a\x0cb".toList = s := Except.ok.inj (hread.symm.trans hs)
  have hstored : (Positions.ofText "a\x0cb").HasLine 2 "b" :=
    (Positions.hasLine_ofText (by decide) (by decide)).mpr (by decide)
  have hsecond : (fileLines "a\x0cb")[2 - 1]? = some "b".toList :=
    (h 2 "b" (by decide) (by decide)).mp hstored
  exact absurd hsecond (by decide)

end HitListing
