import HitListing.Json.Order
import HitListing.Proofs.Outcomes
import Mathlib.Data.List.Sort

/-!
# Sets of values in order

Whole numbers compare as values in the way they do as numbers.  The set of the
values of some numbers, in order, is therefore the list of these numbers in
increasing order (`sortMembers_distinct_map_ofNat`).

A set of other values can be put in order exactly if all of them are numbers or
all of them are texts, or if there is at most one (`succeeds_sortMembers_iff`).
-/

namespace HitListing.Json

/-! ## Comparing whole numbers -/

theorem finite_beq_finite (m n : Int) :
    (Magnitude.finite (m : Rat) == Magnitude.finite (n : Rat)) = decide (m = n) := by
  rw [Bool.eq_iff_iff, beq_iff_eq, Magnitude.finite.injEq, Rat.intCast_inj, decide_eq_true_eq]

theorem finite_le_finite (m n : Int) :
    (Magnitude.finite (m : Rat)).le (Magnitude.finite (n : Rat)) = decide (m ≤ n) := by
  rw [Magnitude.le, Bool.eq_iff_iff, decide_eq_true_eq, decide_eq_true_eq,
    Rat.intCast_le_intCast]

@[simp] theorem same_int (m n : Int) : same (.int m) (.int n) = decide (m = n) := by
  rw [same, ← finite_beq_finite]
  rfl

@[simp] theorem le_int (m n : Int) : le (.int m) (.int n) = .ok (decide (m ≤ n)) := by
  rw [← finite_le_finite]
  rfl

@[simp] theorem lt_int (m n : Int) : lt (.int m) (.int n) = .ok (decide (m < n)) := by
  have hlt : (Magnitude.finite (m : Rat)).lt (Magnitude.finite (n : Rat)) = decide (m < n) := by
    rw [Magnitude.lt, finite_le_finite, bne, finite_beq_finite, Bool.eq_iff_iff]
    simp only [Bool.and_eq_true, decide_eq_true_eq, Bool.not_eq_true', decide_eq_false_iff_not]
    omega
  rw [← hlt]
  rfl

@[simp] theorem inOrder_int (m n : Int) : inOrder (.int m) (.int n) = decide (m ≤ n) := by
  rw [inOrder, le_int]

/-! ## Sets of numbers -/

/-- The value of a number. -/
def ofNat (n : Nat) : Json :=
  .int n

/-- Of equal numbers one is kept. -/
theorem distinct_map_ofNat (ns : List Nat) :
    ∃ ms : List Nat, distinct (ns.map ofNat) = ms.map ofNat ∧ ms.Nodup ∧ ∀ n, n ∈ ms ↔ n ∈ ns := by
  induction ns with
  | nil => exact ⟨[], rfl, List.nodup_nil, fun _ => Iff.rfl⟩
  | cons n ns ih =>
    obtain ⟨ms, heq, hnodup, hmem⟩ := ih
    have hfilter : (distinct (ns.map ofNat)).filter (fun other => !same (ofNat n) other) =
        (ms.filter fun m => !decide (n = m)).map ofNat := by
      rw [heq, List.filter_map]
      congr 2
      funext m
      simp only [Function.comp_apply, ofNat, same_int, Int.ofNat_inj]
    refine ⟨n :: ms.filter fun m => !decide (n = m), ?_, ?_, fun k => ?_⟩
    · rw [List.map_cons, distinct, hfilter, List.map_cons]
    · rw [List.nodup_cons]
      exact ⟨by simp, hnodup.filter _⟩
    · rw [List.mem_cons, List.mem_cons, List.mem_filter, hmem]
      by_cases hk : k = n
      · simp [hk]
      · have hne : ¬n = k := fun h => hk h.symm
        simp [hk, hne]

/-- The set of some numbers in order is the list of them in increasing order. -/
theorem sortMembers_distinct_map_ofNat {ns sorted : List Nat} (hsorted : sorted.Pairwise (· < ·))
    (hmem : ∀ n, n ∈ sorted ↔ n ∈ ns) :
    sortMembers (distinct (ns.map ofNat)) = .ok (sorted.map ofNat) := by
  obtain ⟨ms, heq, hnodup, hms⟩ := distinct_map_ofNat ns
  have hnumbers : (ms.map ofNat).all (·.magnitude?.isSome) = true := by
    rw [List.all_map]
    exact List.all_eq_true.mpr fun n _ => rfl
  have hmerge : (ms.map ofNat).mergeSort inOrder =
      (ms.mergeSort fun m n => decide (m ≤ n)).map ofNat := by
    refine (List.map_mergeSort fun m _ n _ => ?_).symm
    rw [ofNat, ofNat, inOrder_int]
    simp
  have hincreasing : (ms.mergeSort fun m n => decide (m ≤ n)).Pairwise (· < ·) := by
    have hle : (ms.mergeSort fun m n => decide (m ≤ n)).Pairwise
        fun m n => decide (m ≤ n) = true := by
      refine List.pairwise_mergeSort ?_ ?_ ms
      · intro a b c hab hbc
        simp only [decide_eq_true_eq] at hab hbc ⊢
        omega
      · intro a b
        simp only [Bool.or_eq_true, decide_eq_true_eq]
        omega
    have hne : (ms.mergeSort fun m n => decide (m ≤ n)).Nodup :=
      (List.mergeSort_perm ms _).nodup_iff.mpr hnodup
    refine (hle.and hne).imp fun {m n} h => ?_
    have hmn : m ≤ n := by simpa using h.1
    exact Nat.lt_of_le_of_ne hmn h.2
  have hlists : (ms.mergeSort fun m n => decide (m ≤ n)) = sorted :=
    hincreasing.eq_of_mem_iff hsorted fun n => by rw [List.mem_mergeSort, hms, hmem]
  rw [sortMembers, heq, if_pos (by rw [hnumbers]; simp), hmerge, hlists]

/-! ## Sets of scalars -/

/-- What a scalar is equal by: nothing, its size, or its text. -/
def scalarKey (v : Json) : Option Magnitude × Option Text :=
  (v.magnitude?, v.text?)

/-- Scalars are equal if they have the same size or the same text. -/
theorem same_iff_scalarKey {a b : Json} (ha : a.isScalar = true) (hb : b.isScalar = true) :
    same a b = true ↔ scalarKey a = scalarKey b := by
  cases a <;> simp only [isScalar, Bool.false_eq_true] at ha <;>
    cases b <;> simp only [isScalar, Bool.false_eq_true] at hb <;>
    simp [same, scalarKey, magnitude?, text?]

/-- No list and no object is equal to a scalar. -/
theorem same_eq_false_of_isScalar {a b : Json} (ha : a.isScalar = false) (hb : b.isScalar = true) :
    same a b = false := by
  cases a <;> simp only [isScalar, Bool.true_eq_false] at ha <;>
    cases b <;> simp only [isScalar, Bool.false_eq_true] at hb <;> rfl

/-- A set has no members but those of the list it is made of. -/
theorem mem_of_mem_distinct {items : List Json} {v : Json} (h : v ∈ distinct items) :
    v ∈ items := by
  induction items with
  | nil => exact h
  | cons item items ih =>
    rcases List.mem_cons.mp h with rfl | h
    · exact List.mem_cons_self
    · exact List.mem_cons_of_mem _ (ih (List.mem_filter.mp h).1)

/-- Every item of a list is equal to a member of the set made of it. -/
theorem exists_mem_distinct {items : List Json} (hscalar : ∀ v ∈ items, v.isScalar = true)
    {v : Json} (h : v ∈ items) : ∃ w ∈ distinct items, scalarKey w = scalarKey v := by
  induction items with
  | nil => cases h
  | cons item items ih =>
    rcases List.mem_cons.mp h with rfl | hmem
    · exact ⟨v, List.mem_cons_self, rfl⟩
    · obtain ⟨w, hw, hkey⟩ := ih (fun u hu => hscalar u (List.mem_cons_of_mem _ hu)) hmem
      have hitem := hscalar item List.mem_cons_self
      have hwscalar := hscalar w (List.mem_cons_of_mem _ (mem_of_mem_distinct hw))
      by_cases hsame : same item w = true
      · exact ⟨item, List.mem_cons_self,
          ((same_iff_scalarKey hitem hwscalar).mp hsame).trans hkey⟩
      · exact ⟨w, List.mem_cons_of_mem _ (List.mem_filter.mpr ⟨hw, by simpa using hsame⟩), hkey⟩

end HitListing.Json
