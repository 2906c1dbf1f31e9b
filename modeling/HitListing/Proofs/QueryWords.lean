import HitListing.Proofs.LowerCase
import HitListing.Proofs.Pieces
import HitListing.Query

/-!
# Queries that are parsed again

The terms of a query, joined by spaces, give the same terms again unless a capital
I with a dot stands in the query (`Query.parse_join`, `Query.not_mem_parse_join`).
The small form of that letter is an `i` and a dot of its own, which belongs to no
word.  The small form of any other character of a word may stand in a word
(`isWordChar_of_mem_lower`), and what is in lower case stays as it is.
-/

namespace HitListing

/-! ## Small letters in words -/

namespace CodePoints

/-- Whether all code points from `low` to `high` lie in one of the ranges. -/
def covers : CodePoints → Nat → Nat → Bool
  | [], _, _ => false
  | (first, last) :: rest, low, high =>
    Nat.ble first low && (Nat.ble high last || covers rest low high)

/-- Whether no code point from `low` to `high` lies in one of the ranges. -/
def avoids : CodePoints → Nat → Nat → Bool
  | [], _, _ => true
  | (first, last) :: rest, low, high =>
    Nat.blt high first || (Nat.blt last low && avoids rest low high)

variable {ranges : CodePoints} {low high n : Nat}

theorem hasCode_of_covers (h : ranges.covers low high = true) (hlow : low ≤ n) (hhigh : n ≤ high) :
    ranges.hasCode n = true := by
  induction ranges with
  | nil => cases h
  | cons range ranges ih =>
    obtain ⟨first, last⟩ := range
    simp only [covers, Bool.and_eq_true, Bool.or_eq_true, Nat.ble_eq] at h
    rw [hasCode, if_neg (by omega), Bool.or_eq_true, decide_eq_true_eq]
    rcases h.2 with hlast | hrest
    · exact Or.inl (Nat.le_trans hhigh hlast)
    · exact Or.inr (ih hrest)

theorem hasCode_of_avoids (h : ranges.avoids low high = true) (hlow : low ≤ n) (hhigh : n ≤ high) :
    ranges.hasCode n = false := by
  induction ranges with
  | nil => rfl
  | cons range ranges ih =>
    obtain ⟨first, last⟩ := range
    simp only [avoids, Bool.and_eq_true, Bool.or_eq_true, Nat.blt_eq] at h
    rw [hasCode]
    rcases h with hfirst | ⟨hlast, hrest⟩
    · exact if_pos (by omega)
    · split
      · rfl
      · rw [ih hrest, Bool.or_false, decide_eq_false_iff_not]
        omega

end CodePoints

/-- The small letters of a run belong to words, or its capitals do not. -/
theorem caseRuns_words :
    (caseRuns.all fun r => wordCodePoints.covers r.small r.lastSmall ||
      wordCodePoints.avoids r.first r.last) = true := by
  decide +kernel

/-- A character of a word other than the capital I with a dot has a small form that belongs to
words. -/
theorem hasCode_lowerCodePoint {n : Nat} (h : wordCodePoints.hasCode n = true) :
    wordCodePoints.hasCode (lowerCodePoint caseRuns n) = true := by
  rcases lowerCodePoint_cases caseRuns n with hself | ⟨r, hr, i, hi, hcapital, hsmall⟩
  · rw [hself]
    exact h
  · have hturn := CaseRun.mul_step_le hi
    have hrun := List.all_eq_true.mp caseRuns_words r hr
    rw [Bool.or_eq_true] at hrun
    rw [hsmall]
    rcases hrun with hcovers | havoids
    · refine CodePoints.hasCode_of_covers hcovers (Nat.le_add_right _ _) ?_
      rw [CaseRun.lastSmall]
      omega
    · have hnone : wordCodePoints.hasCode n = false := by
        refine CodePoints.hasCode_of_avoids havoids (by omega) ?_
        rw [CaseRun.last]
        omega
      rw [hnone] at h
      cases h

theorem isWordChar_of_mem_lowerChar {c d : Char} (hc : isWordChar c = true) (hdot : c ≠ '\u0130')
    (hd : d ∈ lowerChar c) : isWordChar d = true := by
  rw [lowerChar, if_neg hdot] at hd
  rw [List.mem_singleton.mp hd]
  have hvalid := (isSettledCode_lowerCodePoint (fun hn => hdot (Char.toNat_inj.mp hn)) c.valid).2.2
  show wordCodePoints.hasCode (Char.ofNat (lowerCodePoint caseRuns c.toNat)).toNat = true
  rw [toNat_ofNat hvalid]
  exact hasCode_lowerCodePoint hc

theorem isWordChar_of_mem_lowerAfter {cased : Bool} {t : Text} {d : Char}
    (ht : ∀ c ∈ t, isWordChar c = true) (hdot : '\u0130' ∉ t) (hd : d ∈ lowerAfter cased t) :
    isWordChar d = true := by
  induction t generalizing cased with
  | nil => cases hd
  | cons c t ih =>
    obtain ⟨hc, hrest⟩ := List.forall_mem_cons.mp ht
    rw [List.mem_cons, not_or] at hdot
    rw [lowerAfter] at hd
    rcases List.mem_append.mp hd with hd | hd
    · split at hd
      · split at hd <;> rw [List.mem_singleton.mp hd] <;> decide
      · exact isWordChar_of_mem_lowerChar hc (Ne.symm hdot.1) hd
    · exact ih hrest hdot.2 hd

/-- Lower-casing a word makes one, unless a capital I with a dot stands in it. -/
theorem isWordChar_of_mem_lower {t : Text} {d : Char} (ht : ∀ c ∈ t, isWordChar c = true)
    (hdot : '\u0130' ∉ t) (hd : d ∈ lower t) : isWordChar d = true :=
  isWordChar_of_mem_lowerAfter ht hdot hd

theorem isWordChar_dotAbove : isWordChar '\u0307' = false := by
  decide

/-! ## Words -/

theorem isWordChar_of_mem_words {t word : Text} (h : word ∈ words t) :
    ∀ c ∈ word, isWordChar c = true :=
  fun _ hc => isWordChar_of_mem_pieces (mem_words.mp h) hc

/-- A character that belongs to words stands in one. -/
theorem exists_mem_words {t : Text} {c : Char} (hc : isWordChar c = true) (h : c ∈ t) :
    ∃ word ∈ words t, c ∈ word := by
  rw [← flatMap_text_pieces t] at h
  obtain ⟨p, hp, hmem⟩ := List.mem_flatMap.mp h
  have hword : p.isWord = true := by
    rw [← isWordChar_of_mem_pieces hp hmem]
    exact hc
  refine ⟨p.text, mem_words.mpr ?_, hmem⟩
  rw [← hword]
  exact hp

/-- The characters of a word are those of the text. -/
theorem mem_of_mem_words {t word : Text} (h : word ∈ words t) {c : Char} (hc : c ∈ word) :
    c ∈ t := by
  rw [← flatMap_text_pieces t]
  exact List.mem_flatMap.mpr ⟨_, mem_words.mp h, hc⟩

/-- A text that is one word. -/
theorem words_of_forall {t : Text} (hne : t ≠ []) (h : ∀ c ∈ t, isWordChar c = true) :
    words t = [t] := by
  induction t with
  | nil => exact absurd rfl hne
  | cons c t ih =>
    obtain ⟨hc, hrest⟩ := List.forall_mem_cons.mp h
    cases t with
    | nil => exact words_singleton hc
    | cons d t =>
      obtain ⟨body, more, hwords, hcons⟩ := exists_words_cons (hrest d List.mem_cons_self) t
      have hone := ih (List.cons_ne_nil d t) hrest
      rw [hwords] at hone
      injection hone with hbody hmore
      injection hbody with _ hbody
      rw [hcons hc, hbody, hmore]

/-- The words of texts that are joined by spaces are those of each of them. -/
theorem words_join (texts : List Text) : words (Text.join [' '] texts) = texts.flatMap words := by
  have hspace : isWordChar ' ' = false := by
    decide
  induction texts with
  | nil => rfl
  | cons t texts ih =>
    cases texts with
    | nil => rw [Text.join, List.intercalate_singleton, List.flatMap_singleton]
    | cons u texts =>
      have hjoin : Text.join [' '] (t :: u :: texts) =
          t ++ ' ' :: Text.join [' '] (u :: texts) := by
        rw [Text.join, List.intercalate_cons_cons, List.append_assoc]
        rfl
      rw [hjoin, words_append_gap hspace, ih]
      exact List.flatMap_cons.symm

/-! ## Queries -/

namespace Query

/-- The terms of a query stay as they are when they are lower-cased. -/
theorem isSettled_of_mem_parse {q term : Text} {defSearch : Bool}
    (h : term ∈ (parse q defSearch).terms) : ∀ c ∈ term, IsSettled c := by
  obtain ⟨word, _, rfl⟩ := List.mem_map.mp h
  exact fun _ hc => isSettled_of_mem_lowerAfter hc

/-- The terms of a query without a capital I with a dot are words again. -/
theorem isWordChar_of_mem_parse {q term : Text} {defSearch : Bool} (hdot : '\u0130' ∉ q)
    (h : term ∈ (parse q defSearch).terms) : term ≠ [] ∧ ∀ c ∈ term, isWordChar c = true := by
  obtain ⟨word, hword, rfl⟩ := List.mem_map.mp h
  have hword' : '\u0130' ∉ word := fun hin => hdot (mem_of_mem_words hword hin)
  exact ⟨lower_ne_nil (ne_nil_of_mem_words hword), fun _ hc =>
    isWordChar_of_mem_lower (isWordChar_of_mem_words hword) hword' hc⟩

/-- Terms that are words in lower case are the terms of the query that joins them. -/
theorem parse_join {terms : List Text}
    (hwords : ∀ term ∈ terms, term ≠ [] ∧ ∀ c ∈ term, isWordChar c = true)
    (hlower : ∀ term ∈ terms, ∀ c ∈ term, IsSettled c) (defSearch : Bool) :
    (parse (Text.join [' '] terms) defSearch).terms = terms := by
  have hone : ∀ term ∈ terms, words term = [term] := fun term hterm =>
    words_of_forall (hwords term hterm).1 (hwords term hterm).2
  have hsame : ∀ term ∈ terms, lower term = term := fun term hterm =>
    lowerAfter_eq_self (hlower term hterm)
  rw [parse, words_join]
  show (terms.flatMap words).map lower = terms
  have hflat : terms.flatMap words = terms := by
    have h := List.flatMap_congr hone
    rw [h, List.flatMap_singleton']
  rw [hflat, List.map_congr_left hsame, List.map_id']

/-- A query made of terms in lower case has no term with a dot of its own. -/
theorem not_mem_parse_join {terms : List Text} (hlower : ∀ term ∈ terms, ∀ c ∈ term, IsSettled c)
    {defSearch : Bool} {term : Text}
    (h : term ∈ (parse (Text.join [' '] terms) defSearch).terms) : '\u0307' ∉ term := by
  obtain ⟨word, hword, rfl⟩ := List.mem_map.mp h
  rw [words_join] at hword
  obtain ⟨t, ht, hword⟩ := List.mem_flatMap.mp hword
  have hdot : '\u0130' ∉ word := by
    intro hin
    have hsettled := hlower t ht _ (mem_of_mem_words hword hin)
    exact absurd hsettled.1 (by decide)
  intro hin
  have hchar := isWordChar_of_mem_lower (isWordChar_of_mem_words hword) hdot hin
  rw [isWordChar_dotAbove] at hchar
  cases hchar

/-- The terms of a query with a capital I with a dot have one with a dot of its own. -/
theorem exists_mem_parse_of_mem {q : Text} (h : '\u0130' ∈ q) (defSearch : Bool) :
    ∃ term ∈ (parse q defSearch).terms, '\u0307' ∈ term := by
  obtain ⟨word, hword, hin⟩ := exists_mem_words (by decide) h
  exact ⟨lower word, List.mem_map_of_mem hword, mem_lower_of_mem (by decide) (by decide) hin⟩

end Query

/-- The terms of a context for a query are those of the query. -/
theorem Terms.mem_ofList_parse {q term : Text} {defSearch : Bool} :
    term ∈ (Terms.ofList (Query.parse q defSearch).terms).all ↔
      term ∈ (Query.parse q defSearch).terms := by
  rw [ofList, Query.parse, Text.mem_sortedSet, List.mem_map]
  constructor
  · intro h
    obtain ⟨t, ht, rfl⟩ := h
    obtain ⟨word, hword, rfl⟩ := List.mem_map.mp (List.mem_filter.mp ht).1
    rw [lower_lower]
    exact List.mem_map_of_mem hword
  · intro h
    obtain ⟨word, hword, rfl⟩ := List.mem_map.mp h
    refine ⟨lower word, List.mem_filter.mpr ⟨h, ?_⟩, lower_lower word⟩
    simpa using lower_ne_nil (ne_nil_of_mem_words hword)

end HitListing
