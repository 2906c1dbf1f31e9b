import HitListing.Positions
import HitListing.Proofs.Lines
import HitListing.Proofs.Numerals
import HitListing.Proofs.SortedSet

/-!
# What the index of a text holds

The index lists the lines of a text that hold a word, each once, by increasing
numbers.  The two tables that are stored are described by their fields
(`mem_lineFields`, `mem_termFields`) and by what a look-up in them gives: the
line of a number (`lookup_lineFields`) and the line numbers of a word
(`lookup_termFields`).
-/

namespace HitListing

/-! ## Looking up fields -/

theorem Json.mem_of_lookup {fields : List (Text × Json)} {key : Text} {value : Json}
    (h : Json.lookup key fields = some value) : (key, value) ∈ fields := by
  rw [Json.lookup, List.lookup_eq_some_iff] at h
  obtain ⟨before, after, rfl, _⟩ := h
  simp

/-- With distinct keys a look-up finds each field. -/
theorem Json.lookup_eq_some_iff {fields : List (Text × Json)} {key : Text} {value : Json}
    (h : fields.Pairwise fun a b => a.1 ≠ b.1) :
    Json.lookup key fields = some value ↔ (key, value) ∈ fields := by
  refine ⟨Json.mem_of_lookup, fun hmem => ?_⟩
  obtain ⟨before, after, rfl⟩ := List.append_of_mem hmem
  rw [Json.lookup, List.lookup_eq_some_iff]
  refine ⟨before, after, rfl, fun field hfield => ?_⟩
  have hne := (List.pairwise_append.mp h).2.2 field hfield (key, value) List.mem_cons_self
  exact bne_iff_ne.mpr fun heq => hne heq.symm

theorem Json.lookup_eq_none_iff {fields : List (Text × Json)} {key : Text} :
    Json.lookup key fields = none ↔ ∀ field ∈ fields, key ≠ field.1 := by
  rw [Json.lookup, List.lookup_eq_none_iff]
  simp

/-! ## The lines that hold a word -/

/-- A line is listed if it holds a word, with its number and its words in lower case. -/
theorem listed_eq_some_iff {line : Text} {n : Nat} {entry : IndexedLine} :
    (match (words line).map lower with
      | [] => none
      | found => some (⟨n, line, found⟩ : IndexedLine)) = some entry ↔
      words line ≠ [] ∧ entry = ⟨n, line, (words line).map lower⟩ := by
  cases hwords : words line with
  | nil => simp
  | cons first others => simp [eq_comm]

/-- Whether a text has a line with a number, counted from 1. -/
def IsIndexLine (t : Text) (n : Nat) (line : Text) : Prop :=
  1 ≤ n ∧ (indexLines t)[n - 1]? = some line

/-- The number of a line is at most that of all lines. -/
theorem IsIndexLine.le_length {t line : Text} {n : Nat} (h : IsIndexLine t n line) :
    n ≤ (indexLines t).length := by
  have hcount := (List.getElem?_eq_some_iff.mp h.2).1
  omega

theorem mem_indexedLines {t line : Text} {n : Nat} {found : List Text} :
    (⟨n, line, found⟩ : IndexedLine) ∈ indexedLines t ↔
      IsIndexLine t n line ∧ words line ≠ [] ∧ found = (words line).map lower := by
  rw [indexedLines, List.mem_filterMap]
  constructor
  · intro h
    obtain ⟨⟨l, k⟩, hmem, heq⟩ := h
    obtain ⟨hne, hentry⟩ := listed_eq_some_iff.mp heq
    obtain ⟨rfl, rfl, rfl⟩ := IndexedLine.mk.inj hentry
    exact ⟨List.mk_mem_zipIdx_iff_le_and_getElem?_sub.mp hmem, hne, rfl⟩
  · intro h
    obtain ⟨hline, hne, rfl⟩ := h
    exact ⟨(line, n), List.mk_mem_zipIdx_iff_le_and_getElem?_sub.mpr hline,
      listed_eq_some_iff.mpr ⟨hne, rfl⟩⟩

/-- The lines stand in the order of their numbers. -/
theorem indexedLines_pairwise (t : Text) :
    (indexedLines t).Pairwise fun a b => a.number < b.number := by
  have hnumbered : ((indexLines t).zipIdx 1).Pairwise fun a b => a.2 < b.2 := by
    rw [← List.pairwise_map (f := Prod.snd) (R := (· < ·)), List.zipIdx_map_snd]
    exact List.pairwise_lt_range'
  rw [indexedLines, List.pairwise_filterMap]
  refine hnumbered.imp fun {a b} hab x hx y hy => ?_
  rw [(listed_eq_some_iff.mp hx).2, (listed_eq_some_iff.mp hy).2]
  exact hab

/-- The numbers of the lines that hold a word given in lower case, in order. -/
def lineNumbers (t word : Text) : List Nat :=
  ((indexedLines t).filter (·.words.contains word)).map (·.number)

theorem mem_lineNumbers {t word : Text} {n : Nat} :
    n ∈ lineNumbers t word ↔
      ∃ line, IsIndexLine t n line ∧ word ∈ (words line).map lower := by
  rw [lineNumbers, List.mem_map]
  constructor
  · intro h
    obtain ⟨⟨k, line, found⟩, hmem, rfl⟩ := h
    obtain ⟨hlisted, hword⟩ := List.mem_filter.mp hmem
    obtain ⟨hline, _, rfl⟩ := mem_indexedLines.mp hlisted
    exact ⟨line, hline, by simpa using hword⟩
  · intro h
    obtain ⟨line, hline, hword⟩ := h
    refine ⟨⟨n, line, (words line).map lower⟩, List.mem_filter.mpr ⟨?_, by simpa using hword⟩, rfl⟩
    refine mem_indexedLines.mpr ⟨hline, ?_, rfl⟩
    intro hempty
    rw [hempty] at hword
    cases hword

/-- The lines of all words together are those that hold a word. -/
theorem exists_mem_lineNumbers_iff {t : Text} {n : Nat} :
    (∃ word, n ∈ lineNumbers t word) ↔ ∃ line, IsIndexLine t n line ∧ words line ≠ [] := by
  simp only [mem_lineNumbers]
  constructor
  · intro h
    obtain ⟨word, line, hline, hword⟩ := h
    obtain ⟨found, hfound, _⟩ := List.mem_map.mp hword
    exact ⟨line, hline, List.ne_nil_of_mem hfound⟩
  · intro h
    obtain ⟨line, hline, hne⟩ := h
    obtain ⟨word, hword⟩ := List.exists_mem_of_ne_nil _ hne
    exact ⟨lower word, line, hline, List.mem_map_of_mem hword⟩

/-- The numbers of the lines of a word increase. -/
theorem lineNumbers_pairwise (t word : Text) : (lineNumbers t word).Pairwise (· < ·) := by
  rw [lineNumbers, List.pairwise_map]
  exact (indexedLines_pairwise t).filter _

namespace Positions

/-! ## The stored tables -/

/-- The table of words as it is stored. -/
def termFields (p : Positions) : List (Text × Json) :=
  p.terms.map fun (word, numbers) => (word, .arr (numbers.map fun n => .int (n : Nat)))

/-- The table of lines as it is stored. -/
def lineFields (p : Positions) : List (Text × Json) :=
  p.lines.map fun (number, line) => (Text.ofNat number, .str line)

theorem toJson_eq (p : Positions) :
    p.toJson = .obj [("terms", .obj p.termFields), ("lines", .obj p.lineFields)] := rfl

theorem lineFields_distinct (t : Text) :
    (ofText t).lineFields.Pairwise fun a b => a.1 ≠ b.1 := by
  rw [lineFields, List.pairwise_map, ofText]
  simp only [List.pairwise_map]
  refine (indexedLines_pairwise t).imp fun {a b} hab heq => ?_
  have hnumber : a.number = b.number := Text.ofNat_injective heq
  omega

/-- The table of lines has the lines that hold a word, each under its number. -/
theorem mem_lineFields {t key : Text} {value : Json} :
    (key, value) ∈ (ofText t).lineFields ↔
      ∃ n line, key = Text.ofNat n ∧ value = .str line ∧ IsIndexLine t n line ∧
        words line ≠ [] := by
  rw [lineFields, ofText, List.map_map, List.mem_map]
  constructor
  · intro h
    obtain ⟨⟨n, line, found⟩, hmem, heq⟩ := h
    obtain ⟨hline, hne, _⟩ := mem_indexedLines.mp hmem
    cases heq
    exact ⟨n, line, rfl, rfl, hline, hne⟩
  · intro h
    obtain ⟨n, line, rfl, rfl, hline, hne⟩ := h
    exact ⟨⟨n, line, _⟩, mem_indexedLines.mpr ⟨hline, hne, rfl⟩, rfl⟩

/-- The table of lines gives under a number the line with that number, if it holds a
word. -/
theorem lookup_lineFields {t : Text} {n : Nat} {value : Json} :
    Json.lookup (Text.ofNat n) (ofText t).lineFields = some value ↔
      ∃ line, value = .str line ∧ 1 ≤ n ∧ (indexLines t)[n - 1]? = some line ∧
        words line ≠ [] := by
  rw [Json.lookup_eq_some_iff (lineFields_distinct t), mem_lineFields]
  constructor
  · intro h
    obtain ⟨k, line, hkey, rfl, hline, hne⟩ := h
    obtain rfl := Text.ofNat_injective hkey
    exact ⟨line, rfl, hline.1, hline.2, hne⟩
  · intro h
    obtain ⟨line, rfl, hn, hl, hne⟩ := h
    exact ⟨n, line, rfl, rfl, ⟨hn, hl⟩, hne⟩

theorem termFields_distinct (t : Text) :
    (ofText t).termFields.Pairwise fun a b => a.1 ≠ b.1 := by
  rw [termFields, List.pairwise_map, ofText]
  simp only [List.pairwise_map]
  exact Text.sortedSet_nodup _

/-- The words that the index lists are those of its lines. -/
theorem mem_vocabulary {t word : Text} :
    word ∈ Text.sortedSet ((indexedLines t).flatMap (·.words)) ↔ lineNumbers t word ≠ [] := by
  rw [Text.mem_sortedSet, List.mem_flatMap, lineNumbers, ne_eq, List.map_eq_nil_iff,
    List.filter_eq_nil_iff]
  simp

/-- The table of words has the words that stand in some line, each with the numbers of its
lines. -/
theorem mem_termFields {t word : Text} {value : Json} :
    (word, value) ∈ (ofText t).termFields ↔
      lineNumbers t word ≠ [] ∧
        value = .arr ((lineNumbers t word).map fun n => .int (n : Nat)) := by
  rw [termFields, ofText, List.map_map, List.mem_map, ← mem_vocabulary]
  constructor
  · intro h
    obtain ⟨other, hother, heq⟩ := h
    cases heq
    exact ⟨hother, rfl⟩
  · intro h
    obtain ⟨hword, rfl⟩ := h
    exact ⟨word, hword, rfl⟩

/-- A word stands in some line if it is one of the whole text: none goes over a line break. -/
theorem lineNumbers_ne_nil_iff {t word : Text} :
    lineNumbers t word ≠ [] ↔ word ∈ (words t).map lower := by
  rw [← flatMap_words_indexLines]
  constructor
  · intro h
    obtain ⟨n, hn⟩ := List.exists_mem_of_ne_nil _ h
    obtain ⟨line, hline, hw⟩ := mem_lineNumbers.mp hn
    obtain ⟨found, hfound, rfl⟩ := List.mem_map.mp hw
    apply List.mem_map_of_mem
    rw [List.mem_flatMap]
    exact ⟨line, List.mem_of_getElem? hline.2, hfound⟩
  · intro h
    obtain ⟨found, hfound, rfl⟩ := List.mem_map.mp h
    obtain ⟨line, hline, hfound⟩ := List.mem_flatMap.mp hfound
    obtain ⟨n, hn⟩ := List.mem_iff_getElem?.mp hline
    have hnumber : n + 1 ∈ lineNumbers t (lower found) :=
      mem_lineNumbers.mpr ⟨line, ⟨by omega, hn⟩, List.mem_map_of_mem hfound⟩
    exact List.ne_nil_of_mem hnumber

/-- The keys of the table of words are all words of the text in lower case. -/
theorem mem_keys_termFields {t word : Text} :
    word ∈ (ofText t).termFields.map Prod.fst ↔ word ∈ (words t).map lower := by
  rw [← lineNumbers_ne_nil_iff, List.mem_map]
  constructor
  · intro h
    obtain ⟨field, hfield, rfl⟩ := h
    exact (mem_termFields.mp hfield).1
  · intro h
    exact ⟨(word, _), mem_termFields.mpr ⟨h, rfl⟩, rfl⟩

/-- The table of words gives under a word the numbers of its lines, and nothing under
what is no word of the text. -/
theorem lookup_termFields (t word : Text) :
    Json.lookup word (ofText t).termFields =
      if lineNumbers t word = [] then none
      else some (.arr ((lineNumbers t word).map fun n => .int (n : Nat))) := by
  split
  · rename_i hempty
    rw [Json.lookup_eq_none_iff]
    rintro ⟨other, value⟩ hfield rfl
    exact (mem_termFields.mp hfield).1 hempty
  · rename_i hne
    rw [Json.lookup_eq_some_iff (termFields_distinct t)]
    exact mem_termFields.mpr ⟨hne, rfl⟩

end Positions

end HitListing
