import HitListing.Text.Word

/-!
# Words of a text

What the words of a text are, character by character: a character that belongs
to no word only separates (`words_cons_gap`), and so the words of a text that
is cut at such a character are those of its parts (`words_append_gap`).
-/

namespace HitListing

/-- The words among pieces. -/
def wordPieces (ps : List Piece) : List Text :=
  ps.filterMap fun p => if p.isWord then some p.text else none

theorem words_eq_wordPieces (t : Text) : words t = wordPieces (pieces t) := rfl

@[simp] theorem words_nil : words [] = [] := rfl

/-- The pieces after one character are attached to. -/
theorem pieces_cons (c : Char) (t : Text) : pieces (c :: t) = Piece.attach c (pieces t) := rfl

/-- Attaching a character puts a piece of its own kind in front. -/
theorem exists_attach (c : Char) (ps : List Piece) :
    ∃ body rest, Piece.attach c ps = ⟨isWordChar c, c :: body⟩ :: rest := by
  cases ps with
  | nil => exact ⟨[], [], rfl⟩
  | cons p rest =>
    simp only [Piece.attach]
    split
    · rename_i hkind
      exact ⟨p.text, rest, by rw [eq_of_beq hkind]⟩
    · exact ⟨[], p :: rest, rfl⟩

/-- The first piece of a text is of the kind of its first character. -/
theorem exists_pieces_cons (c : Char) (t : Text) :
    ∃ body rest, pieces (c :: t) = ⟨isWordChar c, c :: body⟩ :: rest :=
  exists_attach c (pieces t)

/-- A character that belongs to no word adds no word. -/
theorem words_cons_gap {c : Char} (hc : isWordChar c = false) (t : Text) :
    words (c :: t) = words t := by
  rw [words_eq_wordPieces, pieces_cons, words_eq_wordPieces]
  cases pieces t with
  | nil => simp [Piece.attach, wordPieces, hc]
  | cons p rest => cases hp : p.isWord <;> simp [Piece.attach, wordPieces, hc, hp]

/-- A character of a word alone before a gap is a word. -/
theorem words_cons_word_gap {c d : Char} (hc : isWordChar c = true) (hd : isWordChar d = false)
    (t : Text) : words (c :: d :: t) = [c] :: words (d :: t) := by
  obtain ⟨body, rest, hpieces⟩ := exists_pieces_cons d t
  rw [words_eq_wordPieces, pieces_cons, words_eq_wordPieces, hpieces]
  simp [Piece.attach, wordPieces, hc, hd]

/-- A character of a word alone at the end is a word. -/
theorem words_singleton {c : Char} (hc : isWordChar c = true) : words [c] = [[c]] := by
  rw [words_eq_wordPieces, pieces_cons]
  simp [pieces, Piece.attach, wordPieces, hc]

/-- The first word of a text that begins with a character of a word, and the words
behind it. -/
theorem exists_words_cons {d : Char} (hd : isWordChar d = true) (t : Text) :
    ∃ body more, words (d :: t) = (d :: body) :: more ∧
      ∀ {c}, isWordChar c = true → words (c :: d :: t) = (c :: d :: body) :: more := by
  obtain ⟨body, rest, hpieces⟩ := exists_pieces_cons d t
  refine ⟨body, wordPieces rest, ?_, fun hc => ?_⟩
  · rw [words_eq_wordPieces, hpieces]
    simp [wordPieces, hd]
  · rw [words_eq_wordPieces, pieces_cons, hpieces]
    simp [Piece.attach, wordPieces, hc, hd]

/-- A text that is cut before a character that belongs to no word has the words of its
parts. -/
theorem words_append_gap {c : Char} (hc : isWordChar c = false) (a b : Text) :
    words (a ++ c :: b) = words a ++ words b := by
  induction a with
  | nil => exact words_cons_gap hc b
  | cons x a ih =>
    rw [List.cons_append]
    by_cases hx : isWordChar x = true
    · cases a with
      | nil =>
        rw [List.nil_append, words_cons_word_gap hx hc, words_cons_gap hc, words_singleton hx]
        rfl
      | cons y a =>
        rw [List.cons_append] at ih ⊢
        by_cases hy : isWordChar y = true
        · obtain ⟨body, more, hwhole, hwhole'⟩ := exists_words_cons hy (a ++ c :: b)
          obtain ⟨first, others, hpart, hpart'⟩ := exists_words_cons hy a
          rw [hwhole, hpart, List.cons_append] at ih
          injection ih with hfirst hmore
          injection hfirst with _ hbody
          rw [hwhole' hx, hpart' hx, hbody, hmore]
          rfl
        · have hy : isWordChar y = false := by simpa using hy
          rw [words_cons_word_gap hx hy, ih, words_cons_word_gap hx hy]
          rfl
    · have hx : isWordChar x = false := by simpa using hx
      rw [words_cons_gap hx, ih, words_cons_gap hx]

/-- A character at the end that belongs to no word adds no word. -/
theorem words_append_singleton_gap {c : Char} (hc : isWordChar c = false) (a : Text) :
    words (a ++ [c]) = words a := by
  rw [words_append_gap hc, words_nil, List.append_nil]

/-- Characters that belong to no word add no word at the end. -/
theorem words_append_gaps (a : Text) {ending : Text} (h : ∀ c ∈ ending, isWordChar c = false) :
    words (a ++ ending) = words a := by
  induction ending generalizing a with
  | nil => rw [List.append_nil]
  | cons c ending ih =>
    have hrest := ih [] fun d hd => h d (List.mem_cons_of_mem c hd)
    rw [words_append_gap (h c List.mem_cons_self), ← List.nil_append ending, hrest, words_nil,
      List.append_nil]

/-- Nor do they at the beginning. -/
theorem words_gaps_append {gap : Text} (h : ∀ c ∈ gap, isWordChar c = false) (t : Text) :
    words (gap ++ t) = words t := by
  induction gap with
  | nil => rfl
  | cons c gap ih =>
    obtain ⟨hc, hrest⟩ := List.forall_mem_cons.mp h
    rw [List.cons_append, words_cons_gap hc, ih hrest]

/-- A piece holds some character. -/
theorem ne_nil_of_mem_pieces {t : Text} {p : Piece} (h : p ∈ pieces t) : p.text ≠ [] := by
  induction t with
  | nil => cases h
  | cons c t ih =>
    rw [pieces_cons] at h
    cases hpieces : pieces t with
    | nil =>
      rw [hpieces] at h
      obtain rfl := List.mem_singleton.mp h
      exact List.cons_ne_nil c []
    | cons first rest =>
      rw [hpieces] at h ih
      rw [Piece.attach] at h
      split at h
      · rcases List.mem_cons.mp h with rfl | h
        · exact List.cons_ne_nil c first.text
        · exact ih (List.mem_cons_of_mem first h)
      · rcases List.mem_cons.mp h with rfl | h
        · exact List.cons_ne_nil c []
        · exact ih h

/-- A word is a piece of the text. -/
theorem mem_words {t word : Text} : word ∈ words t ↔ ⟨true, word⟩ ∈ pieces t := by
  rw [words_eq_wordPieces, wordPieces, List.mem_filterMap]
  constructor
  · intro h
    obtain ⟨⟨isWord, text⟩, hp, htext⟩ := h
    cases isWord with
    | false => cases htext
    | true =>
      cases htext
      exact hp
  · intro h
    exact ⟨_, h, rfl⟩

theorem ne_nil_of_mem_words {t word : Text} (h : word ∈ words t) : word ≠ [] :=
  ne_nil_of_mem_pieces (mem_words.mp h)

end HitListing
