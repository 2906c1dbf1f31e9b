import HitListing.Text

/-!
# Sorted sets of texts

The order of texts by code point is a linear order.  A sorted set of texts is
therefore determined by its members: it holds each of them once
(`mem_sortedSet`, `sortedSet_pairwise`), and to make a sorted set of a sorted
set changes nothing (`sortedSet_eq_self`).
-/

namespace HitListing.Text

/-! ## The order -/

theorem le_refl (a : Text) : le a a = true := by
  induction a with
  | nil => rfl
  | cons c a ih => simp [le, ih]

theorem le_cons_cons {c d : Char} {a b : Text} :
    le (c :: a) (d :: b) = true ↔ c < d ∨ c = d ∧ le a b = true := by
  simp [le]

/-- Of two texts one comes first. -/
theorem le_total (a b : Text) : le a b = true ∨ le b a = true := by
  induction a generalizing b with
  | nil => exact Or.inl rfl
  | cons c a ih =>
    cases b with
    | nil => exact Or.inr rfl
    | cons d b =>
      rw [le_cons_cons, le_cons_cons]
      rcases Std.lt_trichotomy c d with h | h | h
      · exact Or.inl (Or.inl h)
      · rcases ih b with hab | hba
        · exact Or.inl (Or.inr ⟨h, hab⟩)
        · exact Or.inr (Or.inr ⟨h.symm, hba⟩)
      · exact Or.inr (Or.inl h)

theorem le_trans {a b c : Text} (hab : le a b = true) (hbc : le b c = true) :
    le a c = true := by
  induction a generalizing b c with
  | nil => rfl
  | cons x a ih =>
    cases b with
    | nil => simp [le] at hab
    | cons y b =>
      cases c with
      | nil => simp [le] at hbc
      | cons z c =>
        rw [le_cons_cons] at hab hbc ⊢
        rcases hab with hxy | ⟨rfl, hab⟩
        · rcases hbc with hyz | ⟨rfl, _⟩
          · exact Or.inl (Char.lt_trans hxy hyz)
          · exact Or.inl hxy
        · rcases hbc with hyz | ⟨rfl, hbc⟩
          · exact Or.inl hyz
          · exact Or.inr ⟨rfl, ih hab hbc⟩

theorem le_antisymm {a b : Text} (hab : le a b = true) (hba : le b a = true) : a = b := by
  induction a generalizing b with
  | nil =>
    cases b with
    | nil => rfl
    | cons d b => simp [le] at hba
  | cons c a ih =>
    cases b with
    | nil => simp [le] at hab
    | cons d b =>
      rw [le_cons_cons] at hab hba
      rcases hab with hcd | ⟨rfl, hab⟩
      · rcases hba with hdc | ⟨rfl, _⟩
        · exact absurd (Char.lt_trans hcd hdc) (Char.lt_irrefl c)
        · exact absurd hcd (Char.lt_irrefl _)
      · rcases hba with hcc | ⟨_, hba⟩
        · exact absurd hcc (Char.lt_irrefl c)
        · rw [ih hab hba]

/-! ## Dropping repetitions -/

private theorem eraseReps_loop (a : Text) (texts done : List Text) :
    List.eraseRepsBy.loop (· == ·) a texts done =
      done.reverse ++ List.eraseRepsBy.loop (· == ·) a texts [] := by
  induction texts generalizing a done with
  | nil => simp [List.eraseRepsBy.loop]
  | cons b texts ih =>
    simp only [List.eraseRepsBy.loop]
    split
    · exact ih a done
    · rw [ih b (a :: done), ih b [a]]
      simp

/-- Of two equal neighbours one is dropped. -/
theorem eraseReps_cons_cons (a b : Text) (texts : List Text) :
    (a :: b :: texts).eraseReps =
      if a = b then (b :: texts).eraseReps else a :: (b :: texts).eraseReps := by
  simp only [List.eraseReps, List.eraseRepsBy, List.eraseRepsBy.loop]
  by_cases h : a = b
  · subst h
    simp
  · simp only [beq_eq_false_iff_ne.mpr h, if_neg h]
    rw [eraseReps_loop]
    rfl

theorem mem_eraseReps {a : Text} {texts : List Text} : a ∈ texts.eraseReps ↔ a ∈ texts := by
  induction texts with
  | nil => rfl
  | cons b texts ih =>
    cases texts with
    | nil => rfl
    | cons c texts =>
      rw [eraseReps_cons_cons]
      split
      · subst b
        rw [ih]
        simp
      · rw [List.mem_cons, ih, List.mem_cons (b := b)]

/-- Dropping repetitions from a list in order leaves each member once. -/
theorem eraseReps_pairwise {texts : List Text} (h : texts.Pairwise fun a b => le a b = true) :
    texts.eraseReps.Pairwise fun a b => le a b = true ∧ a ≠ b := by
  induction texts with
  | nil => exact List.Pairwise.nil
  | cons a texts ih =>
    cases texts with
    | nil => exact List.pairwise_singleton _ a
    | cons b texts =>
      obtain ⟨hfirst, hrest⟩ := List.pairwise_cons.mp h
      rw [eraseReps_cons_cons]
      split
      · exact ih hrest
      · rename_i hab
        refine List.pairwise_cons.mpr ⟨fun c hc => ?_, ih hrest⟩
        have hmem : c ∈ b :: texts := mem_eraseReps.mp hc
        refine ⟨hfirst c hmem, fun hac => hab ?_⟩
        -- an equal member further on would come before `b` too
        have hba : le b a = true := by
          rcases List.mem_cons.mp hmem with rfl | htail
          · rw [hac]
            exact le_refl _
          · rw [hac]
            exact (List.pairwise_cons.mp hrest).1 c htail
        exact le_antisymm (hfirst b List.mem_cons_self) hba

/-- A list without repetitions of neighbours stays as it is. -/
theorem eraseReps_eq_self {texts : List Text} (h : texts.Pairwise fun a b => a ≠ b) :
    texts.eraseReps = texts := by
  induction texts with
  | nil => rfl
  | cons a texts ih =>
    cases texts with
    | nil => rfl
    | cons b texts =>
      obtain ⟨hfirst, hrest⟩ := List.pairwise_cons.mp h
      rw [eraseReps_cons_cons, if_neg (hfirst b List.mem_cons_self), ih hrest]

/-! ## Sorted sets -/

/-- A sorted set has the members of the list it is made of. -/
theorem mem_sortedSet {a : Text} {texts : List Text} : a ∈ sortedSet texts ↔ a ∈ texts := by
  rw [sortedSet, mem_eraseReps, List.mem_mergeSort]

/-- A sorted set is in order and holds no member twice. -/
theorem sortedSet_pairwise (texts : List Text) :
    (sortedSet texts).Pairwise fun a b => le a b = true ∧ a ≠ b := by
  refine eraseReps_pairwise (List.pairwise_mergeSort ?_ ?_ texts)
  · intro a b c
    exact le_trans
  · intro a b
    rw [Bool.or_eq_true]
    exact le_total a b

/-- A sorted set has no repetitions. -/
theorem sortedSet_nodup (texts : List Text) : (sortedSet texts).Nodup :=
  (sortedSet_pairwise texts).imp And.right

/-- A list that is in order and holds no member twice is a sorted set. -/
theorem sortedSet_eq_self {texts : List Text}
    (h : texts.Pairwise fun a b => le a b = true ∧ a ≠ b) : sortedSet texts = texts := by
  rw [sortedSet, List.mergeSort_of_pairwise (h.imp And.left), eraseReps_eq_self (h.imp And.right)]

end HitListing.Text
