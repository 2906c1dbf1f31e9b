import HitListing.Proofs.SortedSet
import HitListing.Terms

/-!
# Lower-casing twice

What has been put in lower case stays as it is when it is put in lower case
again (`lower_lower`), and so does a set of query terms (`Terms.ofList_all`).
Nor does lower-casing make a NUL (`mem_of_mem_lower`).

The small letters of each run of the table are checked against the capitals of
every run (`caseRuns_apart`); a character without a small form stays as it is
anyway.  Context plays no part the second time, since no capital sigma is left.
-/

namespace HitListing

/-! ## The table -/

namespace CaseRun

/-- The last capital of a run. -/
def last (r : CaseRun) : Nat :=
  r.first + (r.count - 1) * r.step

/-- The last small letter of a run. -/
def lastSmall (r : CaseRun) : Nat :=
  r.small + (r.count - 1) * r.step

/-- Whether the small letters of a run are no capitals of another: they lie before or
behind them, or in between where capitals and small letters alternate. -/
def isApart (r s : CaseRun) : Bool :=
  Nat.blt r.lastSmall s.first || Nat.blt s.last r.small ||
    (Nat.beq s.step 2 && (Nat.beq r.step 2 || Nat.beq r.count 1) &&
      Nat.beq ((r.small + s.first) % 2) 1)

/-- Whether the small letters of a run are characters. -/
def isValid (r : CaseRun) : Bool :=
  Nat.blt r.lastSmall 0xd800 || (Nat.blt 0xdfff r.small && Nat.blt r.lastSmall 0x110000)

/-- A capital with a small form in a run is one of the run, in turn. -/
theorem exists_of_small?_eq_some {r : CaseRun} {n m : Nat} (h : r.small? n = some m) :
    ∃ i < r.count, n = r.first + i * r.step ∧ m = r.small + i * r.step := by
  rw [small?] at h
  split at h
  · rename_i hrun
    obtain ⟨hfirst, hlast, hstep⟩ := hrun
    cases h
    have hturn : (n - r.first) / r.step * r.step = n - r.first :=
      Nat.div_mul_cancel (Nat.dvd_of_mod_eq_zero hstep)
    refine ⟨(n - r.first) / r.step, ?_, by omega, by omega⟩
    refine Nat.lt_of_mul_lt_mul_right (a := r.step) ?_
    omega
  · cases h

theorem mul_step_le {r : CaseRun} {i : Nat} (hi : i < r.count) :
    i * r.step ≤ (r.count - 1) * r.step :=
  Nat.mul_le_mul_right r.step (by omega)

/-- The small letters of a run that is apart from another have no small form there. -/
theorem small?_eq_none_of_isApart {r s : CaseRun} (h : r.isApart s = true) {i : Nat}
    (hi : i < r.count) : s.small? (r.small + i * r.step) = none := by
  rw [Option.eq_none_iff_forall_not_mem]
  intro m hm
  obtain ⟨j, hj, hn, -⟩ := exists_of_small?_eq_some hm
  have hr := mul_step_le hi
  have hs := mul_step_le hj
  simp only [isApart, Bool.or_eq_true, Bool.and_eq_true, Nat.blt_eq, Nat.beq_eq, lastSmall,
    last] at h
  rcases h with (h | h) | ⟨⟨hstep, hturn⟩, hodd⟩
  · omega
  · omega
  · rw [hstep] at hn
    rcases hturn with hturn | hturn
    · rw [hturn] at hn
      omega
    · obtain rfl : i = 0 := by omega
      omega

end CaseRun

/-- The capital I with a dot as a run of its own. -/
def dottedRun : CaseRun :=
  ⟨0x130, 1, 1, 0x69⟩

/-- The small letters of every run are characters, no capitals of any run, and not the
capital I with a dot. -/
theorem caseRuns_apart :
    (caseRuns.all fun r =>
      r.isValid && (dottedRun :: caseRuns).all fun s => r.isApart s) = true := by
  decide +kernel

/-- Lower-casing leaves a code point as it is or turns a capital of a run into its small form. -/
theorem lowerCodePoint_cases (runs : List CaseRun) (n : Nat) :
    lowerCodePoint runs n = n ∨ ∃ r ∈ runs, ∃ i < r.count,
      n = r.first + i * r.step ∧ lowerCodePoint runs n = r.small + i * r.step := by
  induction runs with
  | nil => exact Or.inl rfl
  | cons r runs ih =>
    unfold lowerCodePoint
    split
    · exact Or.inl rfl
    split
    · rename_i small hsmall
      obtain ⟨i, hi, hcapital, heq⟩ := CaseRun.exists_of_small?_eq_some hsmall
      exact Or.inr ⟨r, List.mem_cons_self, i, hi, hcapital, heq⟩
    · rcases ih with h | ⟨s, hs, h⟩
      · exact Or.inl h
      · exact Or.inr ⟨s, List.mem_cons_of_mem r hs, h⟩

/-- What is a capital of no run stays as it is. -/
theorem lowerCodePoint_eq_self {runs : List CaseRun} {n : Nat}
    (h : ∀ r ∈ runs, r.small? n = none) : lowerCodePoint runs n = n := by
  induction runs with
  | nil => rfl
  | cons r runs ih =>
    rw [lowerCodePoint, h r List.mem_cons_self, ih fun s hs => h s (List.mem_cons_of_mem r hs)]
    split <;> rfl

/-- Whether a code point is a character that lower-casing does not touch. -/
def IsSettledCode (n : Nat) : Prop :=
  lowerCodePoint caseRuns n = n ∧ n ≠ 0x130 ∧ Nat.isValidChar n

/-- Lower-casing a code point other than the capital I with a dot settles it. -/
theorem isSettledCode_lowerCodePoint {n : Nat} (hdot : n ≠ 0x130) (hvalid : n.isValidChar) :
    IsSettledCode (lowerCodePoint caseRuns n) := by
  rcases lowerCodePoint_cases caseRuns n with h | ⟨r, hr, i, hi, -, h⟩
  · rw [h]
    exact ⟨h, hdot, hvalid⟩
  · rw [h]
    have hrun := List.all_eq_true.mp caseRuns_apart r hr
    rw [Bool.and_eq_true, List.all_eq_true] at hrun
    obtain ⟨hchars, hapart⟩ := hrun
    refine ⟨lowerCodePoint_eq_self fun s hs => ?_, ?_, ?_⟩
    · exact CaseRun.small?_eq_none_of_isApart (hapart s (List.mem_cons_of_mem _ hs)) hi
    · intro heq
      have hnone := CaseRun.small?_eq_none_of_isApart (hapart dottedRun List.mem_cons_self) hi
      rw [heq] at hnone
      cases hnone
    · have hturn := CaseRun.mul_step_le hi
      simp only [CaseRun.isValid, Bool.or_eq_true, Bool.and_eq_true, Nat.blt_eq,
        CaseRun.lastSmall] at hchars
      rw [Nat.isValidChar]
      omega

/-! ## Characters and texts -/

/-- Whether lower-casing leaves a character as it is wherever it stands. -/
def IsSettled (c : Char) : Prop :=
  lowerChar c = [c] ∧ c ≠ 'Σ'

theorem toNat_ofNat {n : Nat} (h : n.isValidChar) : (Char.ofNat n).toNat = n := by
  rw [Char.ofNat, dif_pos h]
  rfl

theorem isSettled_ofNat {n : Nat} (h : IsSettledCode n) : IsSettled (Char.ofNat n) := by
  obtain ⟨hsame, hdot, hvalid⟩ := h
  have hn := toNat_ofNat hvalid
  constructor
  · rw [lowerChar, if_neg, hn, hsame]
    intro heq
    rw [heq] at hn
    exact hdot hn.symm
  · intro heq
    rw [heq] at hn
    rw [← hn] at hsame
    exact absurd hsame (by decide)

/-- The small letters that lower-casing gives outside of the table. -/
theorem isSettledCode_of_mem {n : Nat} (h : n ∈ [0x69, 0x307, 0x3c2, 0x3c3]) : IsSettledCode n := by
  simp only [List.mem_cons, List.not_mem_nil, or_false] at h
  rcases h with rfl | rfl | rfl | rfl <;>
    exact ⟨by decide, by decide, by decide⟩

theorem isSettled_of_mem_lowerChar {c d : Char} (h : d ∈ lowerChar c) : IsSettled d := by
  rw [lowerChar] at h
  split at h
  · rcases List.mem_cons.mp h with rfl | h
    · exact isSettled_ofNat (n := 0x69) (isSettledCode_of_mem (by decide))
    · rw [List.mem_singleton.mp h]
      exact isSettled_ofNat (n := 0x307) (isSettledCode_of_mem (by decide))
  · rename_i hdot
    rw [List.mem_singleton.mp h]
    refine isSettled_ofNat (isSettledCode_lowerCodePoint ?_ c.valid)
    intro hn
    exact hdot (Char.toNat_inj.mp hn)

theorem isSettled_of_mem_lowerAfter {cased : Bool} {t : Text} {d : Char}
    (h : d ∈ lowerAfter cased t) : IsSettled d := by
  induction t generalizing cased with
  | nil => cases h
  | cons c t ih =>
    rw [lowerAfter] at h
    rcases List.mem_append.mp h with h | h
    · split at h
      · split at h
        · rw [List.mem_singleton.mp h]
          exact isSettled_ofNat (n := 0x3c2) (isSettledCode_of_mem (by decide))
        · rw [List.mem_singleton.mp h]
          exact isSettled_ofNat (n := 0x3c3) (isSettledCode_of_mem (by decide))
      · exact isSettled_of_mem_lowerChar h
    · exact ih h

theorem lowerAfter_eq_self {cased : Bool} {t : Text} (h : ∀ c ∈ t, IsSettled c) :
    lowerAfter cased t = t := by
  induction t generalizing cased with
  | nil => rfl
  | cons c t ih =>
    obtain ⟨hlower, hsigma⟩ := h c List.mem_cons_self
    rw [lowerAfter, if_neg hsigma, hlower, ih fun d hd => h d (List.mem_cons_of_mem c hd)]
    rfl

/-- What is in lower case stays as it is. -/
theorem lower_lower (t : Text) : lower (lower t) = lower t :=
  lowerAfter_eq_self fun _ => isSettled_of_mem_lowerAfter

/-- A text that holds something does so in lower case. -/
theorem lower_ne_nil {t : Text} (h : t ≠ []) : lower t ≠ [] := by
  cases t with
  | nil => exact absurd rfl h
  | cons c t =>
    rw [lower, lowerAfter]
    intro heq
    have hsmall := (List.append_eq_nil_iff.mp heq).1
    split at hsmall
    · split at hsmall <;> cases hsmall
    · rw [lowerChar] at hsmall
      split at hsmall <;> cases hsmall

/-- The small form of a character that is no sigma stands in the text in lower case. -/
theorem mem_lower_of_mem {c d : Char} (hsigma : c ≠ 'Σ') (hd : d ∈ lowerChar c) {t : Text}
    (h : c ∈ t) : d ∈ lower t := by
  rw [lower]
  generalize false = cased
  induction t generalizing cased with
  | nil => cases h
  | cons e t ih =>
    rw [lowerAfter, List.mem_append]
    rcases List.mem_cons.mp h with rfl | h
    · rw [if_neg hsigma]
      exact Or.inl hd
    · exact Or.inr (ih h _)

/-! ## NULs -/

/-- No small letter of the table is NUL. -/
theorem caseRuns_small_pos : (caseRuns.all fun r => Nat.blt 0 r.small) = true := by
  decide

theorem eq_of_mem_lowerChar {c : Char} (h : '\x00' ∈ lowerChar c) : c = '\x00' := by
  rw [lowerChar] at h
  split at h
  · exact absurd h (by decide)
  · rename_i hdot
    have hnul := List.mem_singleton.mp h
    have hvalid := (isSettledCode_lowerCodePoint (n := c.toNat)
      (fun hn => hdot (Char.toNat_inj.mp hn)) c.valid).2.2
    have hcode : lowerCodePoint caseRuns c.toNat = 0 := by
      rw [← toNat_ofNat hvalid, ← hnul]
      rfl
    rcases lowerCodePoint_cases caseRuns c.toNat with hself | ⟨r, hr, i, _, _, hsmall⟩
    · rw [hself] at hcode
      exact Char.toNat_inj.mp hcode
    · have hpos := List.all_eq_true.mp caseRuns_small_pos r hr
      rw [Nat.blt_eq] at hpos
      omega

/-- Lower-casing makes no NULs. -/
theorem mem_of_mem_lower {t : Text} (h : '\x00' ∈ lower t) : '\x00' ∈ t := by
  rw [lower] at h
  generalize false = cased at h
  induction t generalizing cased with
  | nil => cases h
  | cons c t ih =>
    rw [lowerAfter] at h
    rcases List.mem_append.mp h with h | h
    · split at h
      · split at h <;> exact absurd h (by decide)
      · rw [eq_of_mem_lowerChar h]
        exact List.mem_cons_self
    · exact List.mem_cons_of_mem c (ih _ h)

/-! ## Terms -/

/-- Terms made of a set of terms are that set. -/
theorem Terms.ofList_all (texts : List Text) : Terms.ofList (Terms.ofList texts).all =
    Terms.ofList texts := by
  have hset : Text.sortedSet (Terms.ofList texts).all = (Terms.ofList texts).all :=
    Text.sortedSet_eq_self (Text.sortedSet_pairwise _)
  have hmem : ∀ term ∈ (Terms.ofList texts).all, term ≠ [] ∧ lower term = term := by
    intro term hterm
    obtain ⟨t, ht, rfl⟩ := List.mem_map.mp (Text.mem_sortedSet.mp hterm)
    have hne : t ≠ [] := by simpa using (List.mem_filter.mp ht).2
    exact ⟨lower_ne_nil hne, lower_lower t⟩
  have hfilter : (Terms.ofList texts).all.filter (· ≠ []) = (Terms.ofList texts).all :=
    List.filter_eq_self.mpr fun term hterm => by simpa using (hmem term hterm).1
  have hmap : (Terms.ofList texts).all.map lower = (Terms.ofList texts).all := by
    exact (List.map_congr_left fun term hterm => (hmem term hterm).2).trans (List.map_id _)
  rw [Terms.ofList, hfilter, hmap, hset]

end HitListing
