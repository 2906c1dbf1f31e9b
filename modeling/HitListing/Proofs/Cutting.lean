import HitListing.Text

/-!
# Cutting texts

What dropping characters at the end of a text leaves, and where a text is cut at
the last occurrence of a character.
-/

namespace HitListing.Text

variable {p : Char → Bool}

theorem dropEndWhile_append_singleton (t : Text) {c : Char} (hc : p c = true) :
    dropEndWhile p (t ++ [c]) = dropEndWhile p t := by
  rw [dropEndWhile, List.reverse_append, List.reverse_singleton, List.singleton_append,
    List.dropWhile_cons_of_pos hc]
  rfl

/-- A text that does not end with such a character stays as it is. -/
theorem dropEndWhile_eq_self {t : Text} (h : ∀ c ∈ t.getLast?, p c = false) :
    dropEndWhile p t = t := by
  have hkeep : t.reverse.dropWhile p = t.reverse := by
    cases hrev : t.reverse with
    | nil => rfl
    | cons c rest =>
      have hc : c ∈ t.getLast? := by
        rw [← List.head?_reverse, hrev]
        rfl
      exact List.dropWhile_cons_of_neg (by simp [h c hc])
  rw [dropEndWhile, hkeep, List.reverse_reverse]

/-- What is left is the text without some such characters at its end. -/
theorem exists_dropEndWhile (p : Char → Bool) (t : Text) :
    ∃ ending, t = dropEndWhile p t ++ ending ∧ ∀ c ∈ ending, p c = true := by
  refine ⟨(t.reverse.takeWhile p).reverse, ?_, fun c hc => ?_⟩
  · rw [dropEndWhile, ← List.reverse_append, List.takeWhile_append_dropWhile, List.reverse_reverse]
  · exact List.all_eq_true.mp List.all_takeWhile c (List.mem_reverse.mp hc)

/-- The characters that satisfy a test at the front of a text are the first so many. -/
theorem take_length_takeWhile (p : Char → Bool) (t : Text) :
    t.take (t.takeWhile p).length = t.takeWhile p :=
  (List.prefix_iff_eq_take.mp (List.takeWhile_prefix p)).symm

theorem drop_length_takeWhile (p : Char → Bool) (t : Text) :
    t.drop (t.takeWhile p).length = t.dropWhile p := by
  have h := @List.drop_left _ (t.takeWhile p) (t.dropWhile p)
  rwa [List.takeWhile_append_dropWhile] at h

/-! ## The last occurrence of a character -/

theorem cutAtLast?_eq_none {c : Char} {t : Text} (h : c ∉ t) : cutAtLast? c t = none := by
  induction t with
  | nil => rfl
  | cons d t ih =>
    rw [List.mem_cons, not_or] at h
    rw [cutAtLast?, ih h.2]
    exact if_neg (Ne.symm h.1)

/-- A text is cut at the last occurrence of a character. -/
theorem cutAtLast?_append_cons {c : Char} {behind : Text} (h : c ∉ behind) (before : Text) :
    cutAtLast? c (before ++ c :: behind) = some (before, behind) := by
  induction before with
  | nil =>
    rw [List.nil_append, cutAtLast?, cutAtLast?_eq_none h]
    exact if_pos rfl
  | cons d before ih => rw [List.cons_append, cutAtLast?, ih]

/-- A text that holds a character has a last occurrence of it. -/
theorem exists_last_of_mem {c : Char} {t : Text} (h : c ∈ t) :
    ∃ before behind, t = before ++ c :: behind ∧ c ∉ behind := by
  obtain ⟨behind, before, heq, hnot⟩ := List.eq_append_cons_of_mem (List.mem_reverse.mpr h)
  refine ⟨before.reverse, behind.reverse, ?_, fun hin => hnot (List.mem_reverse.mp hin)⟩
  rw [← List.reverse_reverse t, heq, List.reverse_append, List.reverse_cons, List.append_assoc]
  rfl

end HitListing.Text
