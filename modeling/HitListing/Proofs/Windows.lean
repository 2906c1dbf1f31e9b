import HitListing.Excerpt
import HitListing.Proofs.Pieces

/-!
# Densest windows

Among the windows of a width that fit into a text, the one that is taken holds
as many matches as any of them and more than those on its left
(`isDensest_start`).  It is found by the first largest of the counts
(`isFirstMax_firstMax`).

Of the pieces of the text, those taken are what stands from the first word of the
window through the last (`exists_throughWord_fromWord`).
-/

namespace HitListing

namespace Summarizer

/-! ## The first largest number -/

/-- Whether a number at some place is the largest of all, and larger than those before it. -/
structure IsFirstMax (ns : List Nat) (i best : Nat) : Prop where
  here : ns[i]? = some best
  most : ∀ (j n : Nat), ns[j]? = some n → n ≤ best
  first : ∀ (j n : Nat), j < i → ns[j]? = some n → n < best

namespace IsFirstMax

theorem singleton (n : Nat) : IsFirstMax [n] 0 n := by
  refine ⟨rfl, fun j m hm => ?_, fun j _ hj => absurd hj (Nat.not_lt_zero j)⟩
  cases j with
  | zero => exact Nat.le_of_eq (Option.some.inj hm).symm
  | succ j => cases hm

variable {ns : List Nat} {i best n : Nat}

/-- A number in front that is as large comes first. -/
theorem cons_of_le (h : IsFirstMax ns i best) (hn : best ≤ n) : IsFirstMax (n :: ns) 0 n := by
  refine ⟨rfl, fun j m hm => ?_, fun j _ hj => absurd hj (Nat.not_lt_zero j)⟩
  cases j with
  | zero => exact Nat.le_of_eq (Option.some.inj hm).symm
  | succ j => exact Nat.le_trans (h.most j m hm) hn

theorem cons_of_lt (h : IsFirstMax ns i best) (hn : n < best) :
    IsFirstMax (n :: ns) (i + 1) best := by
  refine ⟨h.here, fun j m hm => ?_, fun j m hj hm => ?_⟩
  · cases j with
    | zero =>
      obtain rfl := Option.some.inj hm
      exact Nat.le_of_lt hn
    | succ j => exact h.most j m hm
  · cases j with
    | zero =>
      obtain rfl := Option.some.inj hm
      exact hn
    | succ j => exact h.first j m (Nat.lt_of_succ_lt_succ hj) hm

end IsFirstMax

theorem isFirstMax_firstMax {ns : List Nat} (h : ns ≠ []) :
    IsFirstMax ns (firstMax ns).1 (firstMax ns).2 := by
  induction ns with
  | nil => exact absurd rfl h
  | cons n ns ih =>
    cases ns with
    | nil => exact .singleton n
    | cons m ns =>
      have hrest := ih (List.cons_ne_nil m ns)
      rw [firstMax]
      · simp only
        split
        · rename_i hle
          exact hrest.cons_of_le hle
        · rename_i hlt
          exact hrest.cons_of_lt (Nat.lt_of_not_le hlt)
      · exact nofun

/-! ## The densest window -/

/-- The number of marks in the window at a place, if the window fits there. -/
theorem getElem?_windowCounts {width : Nat} (hwidth : 0 < width) (marked : List Bool) (i : Nat) :
    (windowCounts width marked)[i]? =
      if i + width ≤ marked.length then some (((marked.drop i).take width).count true)
      else none := by
  induction marked generalizing i with
  | nil => rw [windowCounts, List.getElem?_nil, if_neg (by rw [List.length_nil]; omega)]
  | cons m marked ih =>
    rw [windowCounts]
    simp only [List.length_take, List.length_cons]
    by_cases hfits : width ≤ marked.length + 1
    · rw [if_pos (by omega)]
      cases i with
      | zero => rw [if_pos (by omega)]; rfl
      | succ i =>
        rw [List.getElem?_cons_succ, ih, List.drop_succ_cons]
        simp only [Nat.add_right_comm i 1 width, Nat.add_le_add_iff_right]
    · rw [if_neg (by omega), if_neg (by omega)]
      rfl

/-- The number of words in a window that pass a test. -/
def countIn (test : Text → Bool) (ws : List Text) (width first : Nat) : Nat :=
  ((ws.drop first).take width).countP test

/-- Whether a window holds as many words that pass a test as any window of its width, and more
than those on its left. -/
structure IsDensest (test : Text → Bool) (ws : List Text) (width first : Nat) : Prop where
  fits : first + width ≤ ws.length
  most : ∀ other, other + width ≤ ws.length →
    countIn test ws width other ≤ countIn test ws width first
  leftmost : ∀ other < first, countIn test ws width other < countIn test ws width first

theorem getElem?_windowCounts_map {width : Nat} (hwidth : 0 < width) (test : Text → Bool)
    {ws : List Text} {i : Nat} (hfits : i + width ≤ ws.length) :
    (windowCounts width (ws.map test))[i]? = some (countIn test ws width i) := by
  rw [getElem?_windowCounts hwidth, if_pos (by rwa [List.length_map]), countIn, List.count,
    ← List.map_drop, ← List.map_take, List.countP_map]
  congr 2
  funext word
  exact beq_true (test word)

theorem isDensest_start {width : Nat} (hwidth : 0 < width) (test : Text → Bool) {ws : List Text}
    (hfits : width ≤ ws.length) : IsDensest test ws width (start width (ws.map test)) := by
  have hcount {i : Nat} (hi : i + width ≤ ws.length) := getElem?_windowCounts_map hwidth test hi
  have hne : windowCounts width (ws.map test) ≠ [] := by
    intro hnone
    have hzero := hcount (i := 0) (by omega)
    rw [hnone] at hzero
    cases hzero
  obtain ⟨hhere, hmost, hfirst⟩ := isFirstMax_firstMax hne
  rw [← start] at hhere hfirst
  have hstart : start width (ws.map test) + width ≤ ws.length := by
    rw [getElem?_windowCounts hwidth, List.length_map] at hhere
    split at hhere
    · assumption
    · cases hhere
  rw [hcount hstart] at hhere
  rw [← Option.some.inj hhere] at hmost hfirst
  refine ⟨hstart, fun other hother => hmost other _ (hcount hother), fun other hlt => ?_⟩
  exact hfirst other _ hlt (hcount (by omega))

/-- The densest window holds a word that passes the test if any window does. -/
theorem IsDensest.exists_iff {test : Text → Bool} {ws : List Text} {width first : Nat}
    (h : IsDensest test ws width first) (hwidth : 0 < width) :
    (∃ word ∈ (ws.drop first).take width, test word = true) ↔ ∃ word ∈ ws, test word = true := by
  constructor
  · intro hin
    obtain ⟨word, hword, htest⟩ := hin
    exact ⟨word, List.mem_of_mem_drop (List.mem_of_mem_take hword), htest⟩
  · intro hin
    obtain ⟨word, hword, htest⟩ := hin
    obtain ⟨i, hi, rfl⟩ := List.getElem_of_mem hword
    -- the last window that begins no later than the word
    have hfits := h.fits
    have hmost := h.most (min i (ws.length - width)) (by omega)
    refine List.countP_pos_iff.mp (Nat.lt_of_lt_of_le ?_ hmost)
    rw [countIn, List.countP_pos_iff]
    refine ⟨ws[i], List.mem_take_iff_getElem.mpr ⟨i - min i (ws.length - width), ?_, ?_⟩, htest⟩
    · rw [List.length_drop]
      omega
    · rw [List.getElem_drop]
      congr 1
      omega

/-! ## The window among the pieces -/

variable {p : Piece}

/-- From the word behind some pieces on. -/
theorem fromWord_append_cons (hp : p.isWord = true) (before rest : List Piece) :
    fromWord (wordPieces before).length (before ++ p :: rest) = p :: rest := by
  induction before with
  | nil =>
    show fromWord 0 (p :: rest) = p :: rest
    rw [fromWord, if_pos hp]
  | cons q before ih =>
    rw [List.cons_append]
    cases hq : q.isWord with
    | true => rw [wordPieces_cons_word hq, List.length_cons, fromWord, if_pos hq, ih]
    | false =>
      rw [wordPieces_cons_gap hq, fromWord.eq_def]
      exact (if_neg (by simp [hq])).trans ih

/-- Up to and including the word behind some pieces. -/
theorem throughWord_append_cons (hp : p.isWord = true) (before rest : List Piece) :
    throughWord ((wordPieces before).length + 1) (before ++ p :: rest) = before ++ [p] := by
  induction before with
  | nil =>
    show throughWord 1 (p :: rest) = [p]
    rw [throughWord, if_pos hp, throughWord]
  | cons q before ih =>
    rw [List.cons_append, throughWord]
    cases hq : q.isWord with
    | true => rw [wordPieces_cons_word hq, List.length_cons, if_pos rfl, ih, List.cons_append]
    | false => rw [wordPieces_cons_gap hq, if_neg Bool.false_ne_true, ih, List.cons_append]

/-- The window is a part of the pieces, from its first word through its last. -/
theorem exists_throughWord_fromWord {t : Text} {width first : Nat} (hwidth : 0 < width)
    (hfits : first + width ≤ (words t).length) :
    ∃ shown, throughWord width (fromWord first (pieces t)) = shown ∧ shown <:+: pieces t ∧
      wordPieces shown = ((words t).drop first).take width ∧
      wordRange? t first (first + width - 1) = some (shown.flatMap (·.text)) := by
  obtain ⟨last, rfl⟩ : ∃ last, width = last + 1 := ⟨width - 1, by omega⟩
  rw [words_eq_wordPieces] at hfits ⊢
  have hfirst : first < (wordPieces (pieces t)).length := by omega
  obtain ⟨before, p, rest, hbegin, hp, rfl⟩ := exists_eq_append_cons hfirst
  have hlast : last < (wordPieces (p :: rest)).length := by
    rw [hbegin, wordPieces_append, List.length_append] at hfits
    omega
  obtain ⟨most, q, after, hend, hq, rfl⟩ := exists_eq_append_cons hlast
  have hcut : pieces t = before ++ ((most ++ [q]) ++ after) := by
    rw [hbegin, hend, List.append_assoc, List.singleton_append]
  have hcount : (wordPieces (most ++ [q])).length = (wordPieces most).length + 1 := by
    rw [wordPieces_append, List.length_append, wordPieces_cons_word hq]
    rfl
  refine ⟨most ++ [q], ?_, ⟨before, after, ?_⟩, ?_, wordRange?_of_pieces hbegin hend hp hq⟩
  · rw [hbegin, fromWord_append_cons hp, hend, throughWord_append_cons hq]
  · rw [hcut, List.append_assoc]
  · rw [hcut, wordPieces_append before, wordPieces_append (most ++ [q]), List.drop_left, ← hcount,
      List.take_left]

end Summarizer

end HitListing
