import HitListing.Proofs.Stripping
import Mathlib.Tactic.SplitIfs

/-!
# How much markup shows

Markup shows no more characters than it has (`length_strip_le`): a reference is
never shorter than what it means, and everything else is shown as it is or not at
all.
-/

namespace HitListing.Markup

/-! ## References -/

/-- A name means at most two characters. -/
theorem length_closedName?_le {name t : Text} (h : closedName? name = some t) : t.length ≤ 2 := by
  have hcodes : ∀ entry ∈ namedReferences, entry.2.length ≤ 2 := by
    decide +kernel
  obtain ⟨codes, hlookup, rfl⟩ := Option.map_eq_some_iff.mp h
  obtain ⟨before, behind, heq, _⟩ := List.lookup_eq_some_iff.mp hlookup
  rw [List.length_map]
  refine hcodes (String.ofList name, codes) ?_
  rw [heq]
  exact List.mem_append_right before List.mem_cons_self

theorem length_bareName?_le {name t : Text} (h : bareName? name = some t) : t.length ≤ 2 := by
  unfold bareName? at h
  split at h
  · exact length_closedName?_le h
  · cases h

theorem length_longestName_le {name t : Text} {n : Nat} (hn : n ≤ name.length)
    (h : longestName name n = some t) : t.length ≤ name.length := by
  induction n with
  | zero => cases h
  | succ n ih =>
    rw [longestName] at h
    split at h
    · cases h
    · split at h
      · rename_i found hfound
        have hlength := length_bareName?_le hfound
        cases h
        rw [List.length_append, List.length_drop]
        omega
      · exact ih (Nat.le_of_succ_le hn) h

theorem length_nameMeaning_le {body : Text} (hbody : body ≠ []) :
    (nameMeaning body).length ≤ body.length + 1 := by
  have hpos : 0 < body.length := List.length_pos_iff.mpr hbody
  unfold nameMeaning
  simp only
  split
  · rename_i t hexact
    have hlength : t.length ≤ 2 := by
      split at hexact
      · exact length_closedName?_le hexact
      · exact length_bareName?_le hexact
    omega
  · cases hlongest : longestName body (body.length - 1) with
    | none => exact Nat.le_refl _
    | some t =>
      have hlength := length_longestName_le (Nat.sub_le ..) hlongest
      show t.length ≤ _
      omega

theorem length_numberMeaning_le (n : Nat) : (numberMeaning n).length ≤ 1 := by
  unfold numberMeaning
  split_ifs <;> simp

theorem length_meaning_le {body t : Text} (hbody : body ≠ []) (h : meaning body = .ok t) :
    t.length ≤ body.length + 1 := by
  unfold meaning at h
  simp only at h
  split at h
  · split at h
    · cases h
      exact Nat.le_trans (length_numberMeaning_le _) (Nat.le_add_left 1 _)
    · split at h
      · cases h
        exact Nat.le_trans (length_numberMeaning_le _) (Nat.le_add_left 1 _)
      · cases h
  · cases h
    exact length_nameMeaning_le hbody

theorem length_unescapeAfter_le {pass : Nat} {t u : Text} (h : unescapeAfter pass t = .ok u) :
    u.length ≤ t.length - pass := by
  fun_induction unescapeAfter pass t generalizing u with
  | case1 pass =>
    cases h
    exact Nat.zero_le _
  | case2 pass c rest ih =>
    have := ih h
    rw [List.length_cons]
    omega
  | case3 c rest hreference ih =>
    obtain ⟨start, hstart, h⟩ := exists_of_bind_eq_ok h
    obtain ⟨more, hmore, h⟩ := exists_of_bind_eq_ok h
    cases h
    have hbody : rest.take (referenceLength rest) ≠ [] := by
      intro hnil
      rcases List.take_eq_nil_iff.mp hnil with hzero | rfl
      · exact absurd hzero (Nat.pos_iff_ne_zero.mp hreference.2)
      · exact absurd hreference.2 (by decide)
    have hlength := length_meaning_le hbody hstart
    have := ih hmore
    rw [List.length_take] at hlength
    rw [List.length_append, List.length_cons]
    omega
  | case4 c rest hreference ih =>
    obtain ⟨more, hmore, h⟩ := exists_of_bind_eq_ok h
    cases h
    have := ih hmore
    rw [List.length_cons, List.length_cons]
    omega

theorem length_unescape_le {t u : Text} (h : unescape t = .ok u) : u.length ≤ t.length :=
  length_unescapeAfter_le h

/-! ## Constructs -/

/-- A step shows no more than it takes. -/
theorem length_shown_le {mode : Mode} {t : Text} {s : Step} (h : step mode t = .ok s) :
    s.shown.length ≤ s.length ∧ s.shown.length ≤ t.length := by
  have htake (n : Nat) : (t.take n).length ≤ n ∧ (t.take n).length ≤ t.length :=
    ⟨List.length_take_le n t, List.length_take_le' n t⟩
  cases mode with
  | raw name =>
    cases h
    rw [rawStep]
    split
    · exact ⟨Nat.zero_le _, Nat.zero_le _⟩
    · rename_i start length _
      split
      · exact ⟨Nat.le_trans (htake start).1 (Nat.le_add_right ..), (htake start).2⟩
      · exact htake _
  | markup =>
    by_cases hopen : t.head? = some '<'
    · obtain ⟨rest, rfl⟩ := List.head?_eq_some_iff.mp hopen
      obtain ⟨k, _, h⟩ := exists_of_bind_eq_ok h
      cases k with
      | dropped n =>
        cases h
        exact ⟨Nat.zero_le _, Nat.zero_le _⟩
      | literal n =>
        cases h
        exact htake n
      | opensRaw name n =>
        cases h
        exact ⟨Nat.zero_le _, Nat.zero_le _⟩
      | incomplete =>
        obtain ⟨shown, hshown, h⟩ := exists_of_bind_eq_ok h
        cases h
        have hlength := length_unescape_le hshown
        exact ⟨Nat.le_trans hlength (htake _).1, Nat.le_trans hlength (htake _).2⟩
    · rw [step_text hopen] at h
      obtain ⟨shown, hshown, h⟩ := exists_of_bind_eq_ok h
      cases h
      have hlength := length_unescape_le hshown
      exact ⟨hlength, Nat.le_trans hlength (List.takeWhile_prefix _).length_le⟩

/-! ## The whole text -/

theorem length_stripAfter_le {mode : Mode} {t u : Text} (h : stripAfter 0 mode t = .ok u) :
    u.length ≤ t.length := by
  match t with
  | [] =>
    cases h
    exact Nat.le_refl 0
  | c :: rest =>
    rw [stripAfter_cons] at h
    obtain ⟨s, hs, h⟩ := exists_of_bind_eq_ok h
    obtain ⟨more, hmore, h⟩ := exists_of_bind_eq_ok h
    cases h
    have hshown := length_shown_le hs
    have hrest := length_stripAfter_le hmore
    rw [List.length_drop] at hrest
    rw [List.length_cons] at hshown
    rw [List.length_append, List.length_cons]
    omega
termination_by t.length
decreasing_by
  simp only [List.length_drop, List.length_cons]
  omega

/-- Markup shows no more characters than it has. -/
theorem length_strip_le {t u : Text} (h : strip t = .ok u) : u.length ≤ t.length :=
  length_stripAfter_le h

end HitListing.Markup
