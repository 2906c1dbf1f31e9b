import HitListing.Markup.Reference
import HitListing.Proofs.Cutting
import HitListing.Proofs.Outcomes

/-!
# Long character references

Replacing references fails in one case only: the text holds a decimal number
with more than `maxDigits` digits behind an ampersand and a hash
(`succeeds_unescape_iff`).  No ampersand lies inside of a reference, so that none
is passed over (`not_mem_take_referenceLength`).
-/

namespace HitListing.Markup

/-! ## The condition -/

/-- Whether a text begins with a decimal reference that has too many digits. -/
def StartsLongReference (t : Text) : Prop :=
  ∃ digits after, t = '&' :: '#' :: (digits ++ after) ∧ (∀ c ∈ digits, c.isDigit = true) ∧
    maxDigits < digits.length

/-- Whether a text holds such a reference. -/
def HasLongReference (t : Text) : Prop :=
  ∃ before rest, t = before ++ rest ∧ StartsLongReference rest

theorem not_hasLongReference_nil : ¬HasLongReference [] := by
  intro h
  obtain ⟨before, rest, heq, digits, after, hrest, _⟩ := h
  rw [hrest] at heq
  simp at heq

theorem hasLongReference_cons {c : Char} {t : Text} :
    HasLongReference (c :: t) ↔ StartsLongReference (c :: t) ∨ HasLongReference t := by
  constructor
  · intro h
    obtain ⟨before, rest, heq, h⟩ := h
    cases before with
    | nil =>
      left
      rw [heq]
      exact h
    | cons d before =>
      injection heq with _ heq
      exact Or.inr ⟨before, rest, heq, h⟩
  · intro h
    rcases h with h | ⟨before, rest, rfl, h⟩
    · exact ⟨[], c :: t, rfl, h⟩
    · exact ⟨c :: before, rest, rfl, h⟩

/-- A text that goes on with another character than an ampersand begins no reference. -/
theorem not_startsLongReference_cons {c : Char} (hc : c ≠ '&') (t : Text) :
    ¬StartsLongReference (c :: t) := by
  intro h
  obtain ⟨digits, after, heq, _⟩ := h
  injection heq with heq _
  exact hc heq

/-- Where there is no ampersand, no reference begins. -/
theorem hasLongReference_append {a : Text} (ha : '&' ∉ a) (b : Text) :
    HasLongReference (a ++ b) ↔ HasLongReference b := by
  induction a with
  | nil => rfl
  | cons c a ih =>
    rw [List.mem_cons, not_or] at ha
    rw [List.cons_append, hasLongReference_cons, ih ha.2,
      or_iff_right (not_startsLongReference_cons (Ne.symm ha.1) _)]

/-- A character that is no digit behind a text adds no reference that is too long. -/
theorem hasLongReference_concat {c : Char} (hc : c.isDigit = false) (t : Text) :
    HasLongReference (t ++ [c]) ↔ HasLongReference t := by
  constructor
  · intro h
    obtain ⟨before, rest, heq, digits, after, rfl, hdigits, hlong⟩ := h
    rcases List.eq_nil_or_concat after with rfl | ⟨more, last, rfl⟩
    · rcases List.eq_nil_or_concat digits with rfl | ⟨front, last, rfl⟩
      · exact absurd hlong (Nat.not_lt_zero _)
      · have hsplit : t ++ [c] = (before ++ '&' :: '#' :: front) ++ [last] := by
          rw [heq]
          simp
        obtain ⟨_, hlast⟩ := List.append_inj' hsplit rfl
        have hdigit : last.isDigit = true := hdigits last (by simp)
        rw [← List.singleton_inj.mp hlast, hc] at hdigit
        cases hdigit
    · have hsplit : t ++ [c] = (before ++ '&' :: '#' :: (digits ++ more)) ++ [last] := by
        rw [heq]
        simp
      obtain ⟨hfront, _⟩ := List.append_inj' hsplit rfl
      exact ⟨before, _, hfront, digits, more, rfl, hdigits, hlong⟩
  · intro h
    obtain ⟨before, rest, rfl, digits, after, rfl, hdigits, hlong⟩ := h
    refine ⟨before, '&' :: '#' :: (digits ++ (after ++ [c])), ?_, digits, after ++ [c], rfl,
      hdigits, hlong⟩
    simp

/-- A hash with digits behind an ampersand is too long if the digits are. -/
theorem startsLongReference_hash (t : Text) :
    StartsLongReference ('&' :: '#' :: t) ↔ maxDigits < (t.takeWhile Char.isDigit).length := by
  constructor
  · intro h
    obtain ⟨digits, after, heq, hdigits, hlong⟩ := h
    injection heq with _ heq
    injection heq with _ heq
    rw [heq, List.takeWhile_append_of_pos hdigits, List.length_append]
    omega
  · intro h
    refine ⟨t.takeWhile Char.isDigit, t.dropWhile Char.isDigit, ?_, fun c hc => ?_, h⟩
    · rw [List.takeWhile_append_dropWhile]
    · exact List.all_eq_true.mp List.all_takeWhile c hc

/-! ## What a reference spans -/

/-- A semicolon is taken along if it follows. -/
theorem take_withSemicolon (n : Nat) (t : Text) :
    t.take (withSemicolon n t) = t.take n ∨ t.take (withSemicolon n t) = t.take n ++ [';'] := by
  unfold withSemicolon
  split
  · rename_i hsemicolon
    rw [List.take_add_one, hsemicolon]
    exact Or.inr rfl
  · exact Or.inl rfl

/-- Behind a hash stand decimal digits, or a letter and hexadecimal digits. -/
theorem referenceLength_hash (t : Text) :
    referenceLength ('#' :: t) =
      if 0 < (t.takeWhile Char.isDigit).length then
        withSemicolon (1 + (t.takeWhile Char.isDigit).length) ('#' :: t)
      else
        match t with
        | x :: rest =>
          if (x = 'x' ∨ x = 'X') ∧ 0 < (rest.takeWhile isHexDigit).length then
            withSemicolon (2 + (rest.takeWhile isHexDigit).length) ('#' :: t)
          else 0
        | [] => 0 := rfl

/-- Elsewhere stands a name. -/
theorem referenceLength_name {t : Text} (ht : t.head? ≠ some '#') :
    referenceLength t =
      if 0 < ((t.take 32).takeWhile isNameChar).length then
        withSemicolon ((t.take 32).takeWhile isNameChar).length t
      else 0 := by
  rw [referenceLength.eq_def]
  split
  · exact absurd rfl ht
  · rfl

/-- What a reference at the front of a text consists of, apart from a semicolon. -/
inductive IsReferenceBody : Text → Text → Prop where
  | decimal {rest : Text} (hdigits : rest.takeWhile Char.isDigit ≠ []) :
    IsReferenceBody ('#' :: rest) ('#' :: rest.takeWhile Char.isDigit)
  | hexadecimal {x : Char} {rest : Text} (hx : x = 'x' ∨ x = 'X') :
    IsReferenceBody ('#' :: x :: rest) ('#' :: x :: rest.takeWhile isHexDigit)
  | name {t : Text} (hhash : t.head? ≠ some '#') :
    IsReferenceBody t ((t.take 32).takeWhile isNameChar)

/-- A number spans the hash and what stands behind it. -/
theorem exists_body_of_hash {rest : Text} (h : 0 < referenceLength ('#' :: rest)) :
    ∃ body, IsReferenceBody ('#' :: rest) body ∧
      referenceLength ('#' :: rest) = withSemicolon body.length ('#' :: rest) ∧
      ('#' :: rest).take body.length = body := by
  rw [referenceLength_hash] at h ⊢
  by_cases hdigits : 0 < (rest.takeWhile Char.isDigit).length
  · rw [if_pos hdigits]
    refine ⟨_, .decimal (List.length_pos_iff.mp hdigits), ?_, ?_⟩
    · rw [List.length_cons, Nat.add_comm]
    · rw [List.length_cons, List.take_succ_cons, Text.take_length_takeWhile]
  · rw [if_neg hdigits] at h ⊢
    cases rest with
    | nil => exact absurd h (Nat.lt_irrefl 0)
    | cons x rest =>
      simp only at h ⊢
      by_cases hhex : (x = 'x' ∨ x = 'X') ∧ 0 < (rest.takeWhile isHexDigit).length
      · rw [if_pos hhex]
        refine ⟨_, .hexadecimal hhex.1, ?_, ?_⟩
        · rw [List.length_cons, List.length_cons, Nat.add_assoc, Nat.add_comm]
        · rw [List.length_cons, List.length_cons, List.take_succ_cons, List.take_succ_cons,
            Text.take_length_takeWhile]
      · rw [if_neg hhex] at h
        exact absurd h (Nat.lt_irrefl 0)

/-- A name spans at most 32 characters. -/
theorem take_length_name (t : Text) :
    t.take ((t.take 32).takeWhile isNameChar).length = (t.take 32).takeWhile isNameChar := by
  have hlength : ((t.take 32).takeWhile isNameChar).length ≤ 32 :=
    Nat.le_trans (List.takeWhile_prefix isNameChar).length_le (List.length_take_le 32 t)
  have h := Text.take_length_takeWhile isNameChar (t.take 32)
  rwa [List.take_take, Nat.min_eq_left hlength] at h

/-- What a reference spans: a decimal number, a hexadecimal number or a name, and a
semicolon if one follows. -/
theorem exists_span {t : Text} (h : 0 < referenceLength t) :
    ∃ body, IsReferenceBody t body ∧
      (t.take (referenceLength t) = body ∨ t.take (referenceLength t) = body ++ [';']) := by
  have hbody : ∃ body, IsReferenceBody t body ∧
      referenceLength t = withSemicolon body.length t ∧ t.take body.length = body := by
    by_cases hhash : t.head? = some '#'
    · obtain ⟨rest, rfl⟩ : ∃ rest, t = '#' :: rest := by
        cases t with
        | nil => cases hhash
        | cons c rest => exact ⟨rest, by rw [Option.some.inj hhash]⟩
      exact exists_body_of_hash h
    · refine ⟨_, .name hhash, ?_, take_length_name t⟩
      rw [referenceLength_name hhash] at h ⊢
      by_cases hletters : 0 < ((t.take 32).takeWhile isNameChar).length
      · rw [if_pos hletters]
      · rw [if_neg hletters] at h
        exact absurd h (Nat.lt_irrefl 0)
  obtain ⟨body, hbody, hlength, htake⟩ := hbody
  refine ⟨body, hbody, ?_⟩
  rw [hlength]
  have hspan := take_withSemicolon body.length t
  rwa [htake] at hspan

/-- A character that fails a test is not among those that pass it. -/
theorem not_mem_takeWhile {p : Char → Bool} {c : Char} (hc : p c = false) (t : Text) :
    c ∉ t.takeWhile p := by
  intro hmem
  have h := List.all_eq_true.mp List.all_takeWhile c hmem
  rw [hc] at h
  cases h

/-- Neither an ampersand nor a semicolon is part of a number or a name. -/
theorem IsReferenceBody.not_mem {t body : Text} (h : IsReferenceBody t body) {c : Char}
    (hc : c = '&' ∨ c = ';') : c ∉ body := by
  cases h with
  | decimal =>
    rw [List.mem_cons, not_or]
    refine ⟨?_, not_mem_takeWhile ?_ _⟩ <;> rcases hc with rfl | rfl <;> decide
  | hexadecimal hx =>
    rw [List.mem_cons, List.mem_cons, not_or, not_or]
    refine ⟨?_, ?_, not_mem_takeWhile ?_ _⟩
    · rcases hc with rfl | rfl <;> decide
    · rcases hc with rfl | rfl <;> rcases hx with rfl | rfl <;> decide
    · rcases hc with rfl | rfl <;> decide
  | name =>
    refine not_mem_takeWhile ?_ _
    rcases hc with rfl | rfl <;> decide

/-- No ampersand lies inside of a reference. -/
theorem not_mem_take_referenceLength (t : Text) : '&' ∉ t.take (referenceLength t) := by
  rcases Nat.eq_zero_or_pos (referenceLength t) with hzero | hpos
  · rw [hzero]
    simp
  · obtain ⟨body, hbody, hspan⟩ := exists_span hpos
    have hnot : '&' ∉ body := hbody.not_mem (Or.inl rfl)
    rcases hspan with hspan | hspan
    · rw [hspan]
      exact hnot
    · rw [hspan, List.mem_append, not_or]
      exact ⟨hnot, by decide⟩

/-! ## What a reference means -/

/-- A semicolon at the end of a reference does not count. -/
theorem dropEndWhile_span {span body : Text} (hspan : span = body ∨ span = body ++ [';'])
    (hbody : ';' ∉ body) : Text.dropEndWhile (· = ';') span = body := by
  have hself : Text.dropEndWhile (· = ';') body = body := by
    refine Text.dropEndWhile_eq_self fun c hc => ?_
    have hne : c ≠ ';' := by
      intro heq
      rw [heq] at hc
      exact hbody (List.mem_of_getLast? hc)
    simpa using hne
  rcases hspan with rfl | rfl
  · exact hself
  · rw [Text.dropEndWhile_append_singleton body (by decide), hself]

theorem meaning_number {span : Text} {x : Char} {digits : Text}
    (h : Text.dropEndWhile (· = ';') span = '#' :: x :: digits) :
    meaning span =
      if x = 'x' ∨ x = 'X' then .ok (numberMeaning (numeralValue 16 digits))
      else if (x :: digits).length ≤ maxDigits then
        .ok (numberMeaning (numeralValue 10 (x :: digits)))
      else .error .badValue := by
  rw [meaning, h]
  rfl

/-- A name always has a meaning. -/
theorem meaning_name {span : Text}
    (h : (Text.dropEndWhile (· = ';') span).head? ≠ some '#') :
    meaning span = .ok (nameMeaning span) := by
  rw [meaning]
  split
  · rename_i heq
    rw [heq] at h
    exact absurd rfl h
  · rfl

/-- A decimal number has a meaning unless it has too many digits. -/
theorem succeeds_meaning_decimal_iff {span rest : Text}
    (hplain : Text.dropEndWhile (· = ';') span = '#' :: rest.takeWhile Char.isDigit)
    (hdigits : rest.takeWhile Char.isDigit ≠ []) :
    Succeeds (meaning span) ↔ ¬StartsLongReference ('&' :: '#' :: rest) := by
  obtain ⟨x, digits, heq⟩ := List.exists_cons_of_ne_nil hdigits
  have hx : ¬(x = 'x' ∨ x = 'X') := by
    have hmem : x ∈ rest.takeWhile Char.isDigit := by
      rw [heq]
      exact List.mem_cons_self
    have hdigit : x.isDigit = true := List.all_eq_true.mp List.all_takeWhile x hmem
    rintro (rfl | rfl) <;> exact absurd hdigit (by decide)
  rw [startsLongReference_hash, Nat.not_lt, heq]
  rw [heq] at hplain
  rw [meaning_number hplain, if_neg hx]
  by_cases hlength : (x :: digits).length ≤ maxDigits
  · rw [if_pos hlength]
    exact iff_of_true (succeeds_ok _) hlength
  · rw [if_neg hlength]
    exact iff_of_false (not_succeeds_error _) hlength

/-- A reference has a meaning unless it is a decimal number with too many digits. -/
theorem succeeds_meaning_iff {t : Text} (h : 0 < referenceLength t) :
    Succeeds (meaning (t.take (referenceLength t))) ↔ ¬StartsLongReference ('&' :: t) := by
  obtain ⟨body, hbody, hspan⟩ := exists_span h
  have hplain := dropEndWhile_span hspan (hbody.not_mem (Or.inr rfl))
  cases hbody with
  | decimal hdigits => exact succeeds_meaning_decimal_iff hplain hdigits
  | @hexadecimal x rest hx =>
    rw [meaning_number hplain, if_pos hx, startsLongReference_hash]
    refine iff_of_true (succeeds_ok _) ?_
    have hnone : (x :: rest).takeWhile Char.isDigit = [] := by
      rcases hx with rfl | rfl <;> rfl
    rw [hnone]
    exact Nat.not_lt_zero _
  | name hhash =>
    have hhead : (Text.dropEndWhile (· = ';') (t.take (referenceLength t))).head? ≠
        some '#' := by
      rw [hplain]
      intro hhead
      exact not_mem_takeWhile (by decide) _ (List.mem_of_head? hhead)
    rw [meaning_name hhead]
    refine iff_of_true (succeeds_ok _) ?_
    intro h
    obtain ⟨digits, after, heq, _⟩ := h
    injection heq with _ heq
    rw [heq] at hhash
    exact hhash rfl

/-! ## Replacing references -/

/-- A decimal number has digits, so that a reference is found there. -/
theorem referenceLength_pos_of_starts {t : Text} (h : StartsLongReference ('&' :: t)) :
    0 < referenceLength t := by
  have hlong := h
  obtain ⟨digits, after, heq, _⟩ := h
  injection heq with _ heq
  rw [heq, startsLongReference_hash] at hlong
  rw [heq, referenceLength_hash, if_pos (Nat.lt_of_le_of_lt (Nat.zero_le _) hlong), withSemicolon]
  split <;> omega

/-- References are replaced from a place on unless one behind it is too long. -/
theorem succeeds_unescapeAfter_iff (pass : Nat) (t : Text) :
    Succeeds (unescapeAfter pass t) ↔ ¬HasLongReference (t.drop pass) := by
  fun_induction unescapeAfter pass t with
  | case1 pass =>
    rw [List.drop_nil]
    exact iff_of_true (succeeds_ok []) not_hasLongReference_nil
  | case2 pass c rest ih => rw [ih, List.drop_succ_cons]
  | case3 c rest h ih =>
    obtain ⟨rfl, hpos⟩ := h
    have hrest : HasLongReference rest ↔ HasLongReference (rest.drop (referenceLength rest)) := by
      have happend := hasLongReference_append (not_mem_take_referenceLength rest)
        (rest.drop (referenceLength rest))
      rwa [List.take_append_drop] at happend
    rw [List.drop_zero, hasLongReference_cons, not_or, hrest, ← ih, ← succeeds_meaning_iff hpos]
    exact succeeds_both_iff
  | case4 c rest h ih =>
    have hstart : ¬StartsLongReference (c :: rest) := by
      intro hlong
      by_cases hc : c = '&'
      · rw [hc] at hlong
        exact h ⟨hc, referenceLength_pos_of_starts hlong⟩
      · exact not_startsLongReference_cons hc rest hlong
    rw [List.drop_zero] at ih ⊢
    rw [hasLongReference_cons, or_iff_right hstart, ← ih]
    exact succeeds_bind_ok_iff

/-- The references of a text are replaced unless one is too long. -/
theorem succeeds_unescape_iff (t : Text) : Succeeds (unescape t) ↔ ¬HasLongReference t :=
  succeeds_unescapeAfter_iff 0 t

end HitListing.Markup
