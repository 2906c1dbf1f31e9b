import HitListing.Proofs.Words
import Mathlib.Data.List.Chain

/-!
# Pieces of a text

The pieces of a text are the whole text (`flatMap_text_pieces`).  Words and
gaps take turns, none of them is empty, and each has characters of its own kind
only (`isCut_pieces`).  So each word stands at a place of its own, and the
places of the words are in order (`map_wordSpans`).
-/

namespace HitListing

theorem wordPieces_cons_word {p : Piece} (h : p.isWord = true) (ps : List Piece) :
    wordPieces (p :: ps) = p.text :: wordPieces ps :=
  List.filterMap_cons_some (if_pos h)

theorem wordPieces_cons_gap {p : Piece} (h : p.isWord = false) (ps : List Piece) :
    wordPieces (p :: ps) = wordPieces ps :=
  List.filterMap_cons_none (if_neg (by simp [h]))

theorem wordPieces_append (ps qs : List Piece) :
    wordPieces (ps ++ qs) = wordPieces ps ++ wordPieces qs :=
  List.filterMap_append

/-- The pieces of a text are the whole text. -/
theorem flatMap_text_pieces (t : Text) : (pieces t).flatMap (·.text) = t := by
  induction t with
  | nil => rfl
  | cons c t ih =>
    rw [pieces_cons, Piece.attach.eq_def]
    cases hpieces : pieces t with
    | nil =>
      rw [hpieces] at ih
      rw [← ih]
      rfl
    | cons p rest =>
      rw [hpieces, List.flatMap_cons] at ih
      simp only
      split
      · rw [List.flatMap_cons, List.cons_append, ih]
      · rw [List.flatMap_cons, List.flatMap_cons, ih, List.singleton_append]

/-- A piece has characters of its own kind only. -/
theorem isWordChar_of_mem_pieces {t : Text} {p : Piece} (h : p ∈ pieces t) {c : Char}
    (hc : c ∈ p.text) : isWordChar c = p.isWord := by
  induction t generalizing p with
  | nil => cases h
  | cons d t ih =>
    rw [pieces_cons, Piece.attach.eq_def] at h
    cases hpieces : pieces t with
    | nil =>
      rw [hpieces] at h
      obtain rfl := List.mem_singleton.mp h
      rw [List.mem_singleton.mp hc]
    | cons first rest =>
      rw [hpieces] at h ih
      simp only at h
      split at h
      · rename_i hkind
        rcases List.mem_cons.mp h with rfl | h
        · rcases List.mem_cons.mp hc with rfl | hc
          · exact (eq_of_beq hkind).symm
          · exact ih (p := first) List.mem_cons_self hc
        · exact ih (List.mem_cons_of_mem first h) hc
      · rcases List.mem_cons.mp h with rfl | h
        · rw [List.mem_singleton.mp hc]
        · exact ih h hc

/-- Words and gaps take turns. -/
theorem isChain_pieces (t : Text) : (pieces t).IsChain fun p q => p.isWord ≠ q.isWord := by
  induction t with
  | nil => exact List.isChain_nil
  | cons c t ih =>
    rw [pieces_cons, Piece.attach.eq_def]
    cases hpieces : pieces t with
    | nil => exact List.isChain_singleton _
    | cons first rest =>
      rw [hpieces] at ih
      simp only
      split
      · rw [List.isChain_cons] at ih ⊢
        exact ih
      · rename_i hkind
        refine List.isChain_cons_cons.mpr ⟨fun heq => hkind ?_, ih⟩
        exact beq_iff_eq.mpr heq.symm

/-- Whether pieces are such as a text falls into: words and gaps in turn, none of them empty. -/
structure IsCut (ps : List Piece) : Prop where
  turns : ps.IsChain fun p q => p.isWord ≠ q.isWord
  kinds : ∀ p ∈ ps, ∀ c ∈ p.text, isWordChar c = p.isWord
  nonempty : ∀ p ∈ ps, p.text ≠ []

theorem isCut_pieces (t : Text) : IsCut (pieces t) :=
  ⟨isChain_pieces t, fun _ hp _ hc => isWordChar_of_mem_pieces hp hc,
    fun _ hp => ne_nil_of_mem_pieces hp⟩

/-- A part of such pieces is such as well. -/
theorem IsCut.part {ps part : List Piece} (h : IsCut ps) (hpart : part <:+: ps) : IsCut part :=
  ⟨ List.IsChain.infix h.turns hpart, fun p hp => h.kinds p (hpart.subset hp),
    fun p hp => h.nonempty p (hpart.subset hp)⟩

/-! ## Where words stand -/

/-- Where the words among pieces begin and end, if the first piece begins at `start`. -/
def spansFrom : Nat → List Piece → List (Nat × Nat)
  | _, [] => []
  | start, p :: ps =>
    if p.isWord then (start, start + p.text.length) :: spansFrom (start + p.text.length) ps
    else spansFrom (start + p.text.length) ps

/-- Where the words of a text begin and end. -/
def wordSpans (t : Text) : List (Nat × Nat) :=
  spansFrom 0 (pieces t)

/-- Before the word with a given number there are as many words. -/
theorem exists_eq_append_cons {ps : List Piece} {n : Nat} (h : n < (wordPieces ps).length) :
    ∃ before p rest, ps = before ++ p :: rest ∧ p.isWord = true ∧
      (wordPieces before).length = n := by
  induction ps generalizing n with
  | nil => cases h
  | cons p ps ih =>
    cases hword : p.isWord with
    | true =>
      rw [wordPieces_cons_word hword, List.length_cons] at h
      cases n with
      | zero => exact ⟨[], p, ps, rfl, hword, rfl⟩
      | succ n =>
        obtain ⟨before, q, rest, hps, hq, hbefore⟩ := ih (Nat.lt_of_succ_lt_succ h)
        refine ⟨p :: before, q, rest, by rw [hps, List.cons_append], hq, ?_⟩
        rw [wordPieces_cons_word hword, List.length_cons, hbefore]
    | false =>
      rw [wordPieces_cons_gap hword] at h
      obtain ⟨before, q, rest, hps, hq, hbefore⟩ := ih h
      refine ⟨p :: before, q, rest, by rw [hps, List.cons_append], hq, ?_⟩
      rw [wordPieces_cons_gap hword, hbefore]

/-- The word behind some pieces stands where these end. -/
theorem getElem?_spansFrom {p : Piece} (hword : p.isWord = true) (before rest : List Piece)
    (start : Nat) :
    (spansFrom start (before ++ p :: rest))[(wordPieces before).length]? =
      some (start + (before.flatMap (·.text)).length,
        start + (before.flatMap (·.text)).length + p.text.length) := by
  induction before generalizing start with
  | nil =>
    rw [List.nil_append, spansFrom, if_pos hword]
    rfl
  | cons q before ih =>
    rw [List.cons_append, spansFrom, List.flatMap_cons, List.length_append, ← Nat.add_assoc]
    cases hq : q.isWord with
    | true =>
      rw [wordPieces_cons_word hq, List.length_cons, if_pos rfl, List.getElem?_cons_succ, ih]
    | false =>
      rw [wordPieces_cons_gap hq, if_neg (by decide), ih]

/-- Where the words behind some text stand they can be read. -/
theorem map_spansFrom (before : Text) (ps : List Piece) :
    (spansFrom before.length ps).map
        (fun span => ((before ++ ps.flatMap (·.text)).take span.2).drop span.1) =
      wordPieces ps := by
  induction ps generalizing before with
  | nil => rfl
  | cons p ps ih =>
    have hrest := ih (before ++ p.text)
    rw [List.length_append, List.append_assoc, ← List.flatMap_cons] at hrest
    rw [spansFrom]
    cases hword : p.isWord with
    | true =>
      rw [if_pos rfl, List.map_cons, hrest, wordPieces_cons_word hword, List.flatMap_cons,
        ← List.append_assoc, ← List.length_append, List.take_left, List.drop_left]
    | false =>
      rw [if_neg (by decide), hrest, wordPieces_cons_gap hword]

/-- What stands at the places of the words are the words. -/
theorem map_wordSpans (t : Text) :
    (wordSpans t).map (fun span => (t.take span.2).drop span.1) = words t := by
  have h := map_spansFrom [] (pieces t)
  rw [List.nil_append, flatMap_text_pieces] at h
  exact h

/-- What stands from the beginning of one word to the end of another, if there are such words. -/
def wordRange? (t : Text) (first last : Nat) : Option Text :=
  (wordSpans t)[first]?.bind fun start =>
    (wordSpans t)[last]?.map fun stop => (t.take stop.2).drop start.1

/-- Pieces that begin with one word and end with another are what stands between. -/
theorem wordRange?_of_pieces {t : Text} {before rest most after : List Piece} {p q : Piece}
    (hbegin : pieces t = before ++ p :: rest) (hend : p :: rest = most ++ q :: after)
    (hp : p.isWord = true) (hq : q.isWord = true) :
    wordRange? t (wordPieces before).length
        ((wordPieces before).length + (wordPieces most).length) =
      some ((most ++ [q]).flatMap (·.text)) := by
  have hcut : pieces t = (before ++ most) ++ q :: after := by
    rw [hbegin, hend, List.append_assoc]
  have htext : t = (before ++ most).flatMap (·.text) ++ (q.text ++ after.flatMap (·.text)) := by
    rw [← List.flatMap_cons, ← List.flatMap_append, ← hcut, flatMap_text_pieces]
  have hstart := getElem?_spansFrom hp before rest 0
  have hstop := getElem?_spansFrom hq (before ++ most) after 0
  rw [← hbegin, Nat.zero_add] at hstart
  rw [← hcut, Nat.zero_add, wordPieces_append, List.length_append] at hstop
  rw [wordRange?, wordSpans, hstart, hstop, Option.bind_some, Option.map_some]
  refine congrArg some ?_
  dsimp only
  rw [← List.length_append]
  conv_lhs => rw [htext, ← List.append_assoc]
  rw [List.take_left, List.flatMap_append, List.append_assoc, List.drop_left, List.flatMap_append,
    List.flatMap_singleton]

end HitListing
