import HitListing.Markup.StartTag
import HitListing.Proofs.Cutting

/-!
# Start tags that have been written

A start tag with letters for its name and with values in quotes is read back as
it was written, whatever follows it (`startTag_write`, `startTag_selfClosing`).
-/

namespace HitListing.Markup

/-- An attribute of a tag. -/
structure Attribute where
  name : Text
  value : Text
deriving DecidableEq, Repr

/-- Whether a text is made of letters. -/
def IsLetters (t : Text) : Prop :=
  t ≠ [] ∧ ∀ c ∈ t, c.isAlpha = true

instance (t : Text) : Decidable (IsLetters t) :=
  decidable_of_iff ((!t.isEmpty && t.all Char.isAlpha) = true) (by simp [IsLetters])

/-- Whether a character may stand in the name of a written attribute. -/
def IsKeyChar (c : Char) : Prop :=
  c.isAlpha = true ∨ c = '-'

/-- Whether a text may be the name of a written attribute. -/
def IsKey (t : Text) : Prop :=
  t ≠ [] ∧ ∀ c ∈ t, IsKeyChar c

instance (t : Text) : Decidable (IsKey t) :=
  decidable_of_iff ((!t.isEmpty && t.all fun c => c.isAlpha || c = '-') = true) (by
    simp [IsKey, IsKeyChar])

namespace Attribute

/-- Whether an attribute has a name that it can be found by, and no quote in its value. -/
structure IsPlain (a : Attribute) : Prop where
  name : IsKey a.name
  value : '"' ∉ a.value

instance (a : Attribute) : Decidable a.IsPlain :=
  decidable_of_iff (IsKey a.name ∧ '"' ∉ a.value)
    ⟨fun h => ⟨h.1, h.2⟩, fun h => ⟨h.name, h.value⟩⟩

/-- The attribute that says what class of element a tag begins. -/
def ofClass (value : Text) : Attribute :=
  ⟨"class", value⟩

/-- The value in its quotes. -/
def quoted (a : Attribute) : Text :=
  '"' :: a.value ++ ['"']

/-- An attribute behind its name, with its value in quotes. -/
def write (a : Attribute) : Text :=
  ' ' :: (a.name ++ '=' :: a.quoted)

end Attribute

/-! ## Characters -/

theorem ne_of_isAlpha {c d : Char} (hc : c.isAlpha = true) (hd : d.isAlpha = false) : c ≠ d := by
  rintro rfl
  rw [hc] at hd
  cases hd

theorem IsKeyChar.ne {c d : Char} (hc : IsKeyChar c) (hd : d.isAlpha = false ∧ d ≠ '-') :
    c ≠ d := by
  rcases hc with hc | rfl
  · exact ne_of_isAlpha hc hd.1
  · exact hd.2.symm

theorem isBlank_of_isAlpha {c : Char} (h : c.isAlpha = true) : isBlank c = false := by
  have hletter : (decide (c.val ≥ 'A'.val ∧ c.val ≤ 'Z'.val) ||
      (decide (c.val ≥ 'a'.val) && decide (c.val ≤ 'z'.val))) = true := h
  have hcode : 65 ≤ c.toNat ∧ c.toNat ≤ 90 ∨ 97 ≤ c.toNat ∧ c.toNat ≤ 122 := by
    simpa [UInt32.le_iff_toNat_le] using hletter
  simp [isBlank, CodePoints.has, CodePoints.hasCode, blankCodePoints]
  omega

theorem isTagNameChar_of_isAlpha {c : Char} (h : c.isAlpha = true) : isTagNameChar c = true := by
  simp [isTagNameChar, ne_of_isAlpha h]

theorem IsKeyChar.isBlank {c : Char} (h : IsKeyChar c) : isBlank c = false := by
  rcases h with h | rfl
  · exact isBlank_of_isAlpha h
  · decide

theorem IsKeyChar.isAttributeStart {c : Char} (h : IsKeyChar c) : isAttributeStart c = true := by
  simp [Markup.isAttributeStart, h.isBlank, h.ne]

theorem IsKeyChar.isAttributeChar {c : Char} (h : IsKeyChar c) : isAttributeChar c = true := by
  simp [Markup.isAttributeChar, h.isAttributeStart, h.ne]

/-! ## Attributes -/

/-- A text is cut at the first occurrence of a character. -/
theorem cutAt?_append_cons {c : Char} {t : Text} (h : c ∉ t) (rest : Text) :
    Text.cutAt? c (t ++ c :: rest) = some (t, rest) := by
  induction t with
  | nil => simp [Text.cutAt?]
  | cons d t ih =>
    rw [List.mem_cons, not_or] at h
    rw [List.cons_append, Text.cutAt?, if_neg (Ne.symm h.1), ih h.2]
    rfl

theorem cutAt?_eq_none {c : Char} {t : Text} (h : c ∉ t) : Text.cutAt? c t = none := by
  induction t with
  | nil => rfl
  | cons d t ih =>
    rw [List.mem_cons, not_or] at h
    rw [Text.cutAt?, if_neg (Ne.symm h.1), ih h.2]
    rfl

/-- A quoted text, or a quote that is not closed. -/
theorem cutAt?_cases (q : Char) (t : Text) :
    (∃ inside rest, t = inside ++ q :: rest ∧ q ∉ inside) ∨ q ∉ t := by
  by_cases hq : q ∈ t
  · obtain ⟨inside, rest, heq, hnot⟩ := List.eq_append_cons_of_mem hq
    exact Or.inl ⟨inside, rest, heq, hnot⟩
  · exact Or.inr hq

/-- The longest beginning whose characters satisfy a test. -/
theorem takeWhile_append_cons {p : Char → Bool} {t : Text} {c : Char} (ht : ∀ d ∈ t, p d = true)
    (hc : p c = false) (rest : Text) :
    (t ++ c :: rest).takeWhile p = t ∧ (t ++ c :: rest).dropWhile p = c :: rest := by
  rw [List.takeWhile_append_of_pos ht, List.dropWhile_append_of_pos ht]
  simp [hc]

theorem skipGap_end (before : Char) (rest : Text) :
    skipGap before ('>' :: rest) = ⟨before, '>' :: rest⟩ := by
  rw [skipGap.eq_def]
  rfl

theorem skipGap_key {c : Char} (hc : IsKeyChar c) (before : Char) (rest : Text) :
    skipGap before (' ' :: c :: rest) = ⟨' ', c :: rest⟩ := by
  have hspace : (isBlank ' ' || ' ' = '/') = true := by decide
  have hkey : (isBlank c || c = '/') = false := by
    simp [hc.isBlank, hc.ne]
  have hstop : skipGap ' ' (c :: rest) = ⟨' ', c :: rest⟩ := by
    rw [skipGap.eq_def]
    split
    case h_1 heq => cases heq
    case h_2 heq =>
      injection heq with hslash _
      exact absurd hslash (hc.ne (by decide))
    case h_3 heq =>
      injection heq with hhead htail
      rw [← hhead, ← htail, if_neg (by simp [hkey])]
  rw [skipGap.eq_def]
  show (if isBlank ' ' || ' ' = '/' then skipGap ' ' (c :: rest) else _) = _
  rw [if_pos hspace, hstop]

/-- The value of a written attribute. -/
theorem attributeValue?_quoted {a : Attribute} (h : a.IsPlain) (rest : Text) :
    attributeValue? ('=' :: (a.quoted ++ rest)) = some (a.quoted, ⟨'"', rest⟩) := by
  have hcut : Text.cutAt? '"' (a.value ++ '"' :: rest) = some (a.value, rest) :=
    cutAt?_append_cons h.value rest
  have hquoted : a.quoted ++ rest = '"' :: (a.value ++ '"' :: rest) := by
    simp [Attribute.quoted]
  have hequals : isBlank '=' = false := by decide
  have hquote : isBlank '"' = false := by decide
  rw [hquoted, attributeValue?]
  simp [hequals, hquote, hcut, isQuote, Attribute.quoted]

/-- A written attribute behind the space before it. -/
theorem attribute?_write {a : Attribute} (h : a.IsPlain) (rest : Text) :
    attribute? ⟨' ', a.name ++ '=' :: (a.quoted ++ rest)⟩ =
      some (a.quoted, skipGap '"' rest) := by
  obtain ⟨c, more, hname⟩ := List.exists_cons_of_ne_nil h.name.1
  have hkeys := h.name.2
  rw [hname, List.forall_mem_cons] at hkeys
  have hopens : opensAttribute ' ' = true := by decide
  obtain ⟨_, hbehind⟩ := takeWhile_append_cons
    (fun d hd => (hkeys.2 d hd).isAttributeChar) (by decide : isAttributeChar '=' = false)
    (a.quoted ++ rest)
  rw [hname, attribute?]
  simp only [List.cons_append, hopens, hkeys.1.isAttributeStart, Bool.and_self, if_true, hbehind,
    attributeValue?_quoted h]

/-- A place where a tag ends begins no attribute. -/
theorem attribute?_end (before : Char) (rest : Text) :
    attribute? ⟨before, '>' :: rest⟩ = none := by
  have hend : isAttributeStart '>' = false := by decide
  rw [attribute?]
  simp [hend]

/-- The place behind the gap before written attributes. -/
theorem skipGap_write {a : Attribute} (h : a.IsPlain) (before : Char) (rest : Text) :
    skipGap before (a.write ++ rest) = ⟨' ', a.name ++ '=' :: (a.quoted ++ rest)⟩ := by
  obtain ⟨c, more, hname⟩ := List.exists_cons_of_ne_nil h.name.1
  have hkey : IsKeyChar c := h.name.2 c (by rw [hname]; exact List.mem_cons_self)
  rw [Attribute.write, hname]
  simp only [List.cons_append, List.append_assoc]
  exact skipGap_key hkey before _

/-- Written attributes are found with their values, up to the end of the tag. -/
theorem attributesFrom_write {attributes : List Attribute} (h : ∀ a ∈ attributes, a.IsPlain)
    {count : Nat} (hcount : attributes.length ≤ count) (before : Char) (rest : Text) :
    attributesFrom count (skipGap before (attributes.flatMap (·.write) ++ '>' :: rest)) =
      (attributes.map (·.quoted), ⟨if attributes = [] then before else '"', '>' :: rest⟩) := by
  induction attributes generalizing count before with
  | nil =>
    rw [List.flatMap_nil, List.nil_append, skipGap_end]
    cases count with
    | zero => rfl
    | succ count =>
      rw [attributesFrom, attribute?_end]
      rfl
  | cons a attributes ih =>
    obtain ⟨ha, hrest⟩ := List.forall_mem_cons.mp h
    cases count with
    | zero => cases hcount
    | succ count =>
      have hcount : attributes.length ≤ count := Nat.le_of_succ_le_succ hcount
      rw [List.flatMap_cons, List.append_assoc, skipGap_write ha, attributesFrom,
        attribute?_write ha]
      simp only [ih hrest hcount]
      simp

/-! ## Tags -/

/-- The gap behind the name of a written tag, and the place behind it. -/
theorem gap_write {attributes : List Attribute} (h : ∀ a ∈ attributes, a.IsPlain) (before : Char)
    (rest : Text) :
    let behind := attributes.flatMap (·.write) ++ '>' :: rest
    Place.after before (behind.takeWhile fun c => isBlank c || c = '/')
        (behind.dropWhile fun c => isBlank c || c = '/') = skipGap before behind ∧
      (attributes = [] → (behind.takeWhile fun c => isBlank c || c = '/') = []) := by
  have hend : isBlank '>' = false := by decide
  have hspace : isBlank ' ' = true := by decide
  cases attributes with
  | nil => simp [hend, skipGap_end, Place.after]
  | cons a attributes =>
    have ha := h a List.mem_cons_self
    obtain ⟨c, more, hname⟩ := List.exists_cons_of_ne_nil ha.name.1
    have hkey : IsKeyChar c := ha.name.2 c (by rw [hname]; exact List.mem_cons_self)
    refine ⟨?_, nofun⟩
    rw [List.flatMap_cons, List.append_assoc, skipGap_write ha, Attribute.write, hname]
    simp [hspace, hkey.isBlank, hkey.ne, Place.after]

/-- Behind the name of a written tag comes what is no part of it. -/
theorem exists_behind_name (attributes : List Attribute) (rest : Text) :
    ∃ c more, attributes.flatMap (·.write) ++ '>' :: rest = c :: more ∧
      isTagNameChar c = false := by
  cases attributes with
  | nil => exact ⟨'>', rest, rfl, by decide⟩
  | cons a attributes => exact ⟨' ', _, rfl, by decide⟩

theorem length_le_flatMap_write (attributes : List Attribute) :
    attributes.length ≤ (attributes.flatMap (·.write)).length := by
  induction attributes with
  | nil => exact Nat.le_refl 0
  | cons a attributes ih =>
    have hpos : 0 < a.write.length := Nat.succ_pos _
    rw [List.flatMap_cons, List.length_append, List.length_cons]
    omega

/-- A written start tag is read back. -/
theorem startTag_write {name : Text} {attributes : List Attribute} (hname : IsLetters name)
    (h : ∀ a ∈ attributes, a.IsPlain) (rest : Text) :
    startTag ('<' :: (name ++ (attributes.flatMap (·.write) ++ '>' :: rest))) =
      .complete name (attributes.map (·.quoted)) false
        (name.length + (attributes.flatMap (·.write)).length + 2) := by
  obtain ⟨c, more, hbehind, hc⟩ := exists_behind_name attributes rest
  obtain ⟨htake, hdrop⟩ := takeWhile_append_cons
    (fun d hd => isTagNameChar_of_isAlpha (hname.2 d hd)) hc more
  rw [← hbehind] at htake hdrop
  obtain ⟨hstart, hgap⟩ := gap_write h (name.getLastD '<') rest
  have hcount : attributes.length ≤
      ('<' :: (name ++ (attributes.flatMap (·.write) ++ '>' :: rest))).length := by
    have hlength := length_le_flatMap_write attributes
    simp only [List.length_cons, List.length_append]
    omega
  have hfound := attributesFrom_write h hcount (name.getLastD '<') rest
  have hslash : ((attributes.map (·.quoted)).isEmpty &&
      decide (((attributes.flatMap (·.write) ++ '>' :: rest).takeWhile fun c =>
        isBlank c || c = '/').getLast? = some '/')) = false := by
    cases attributes with
    | nil =>
      rw [hgap rfl]
      rfl
    | cons a attributes => rfl
  have hpassed : ('<' :: (name ++ (attributes.flatMap (·.write) ++ '>' :: rest))).length -
      ('>' :: rest).length + 1 = name.length + (attributes.flatMap (·.write)).length + 2 := by
    simp only [List.length_cons, List.length_append]
    omega
  unfold startTag
  simp only [List.drop_succ_cons, List.drop_zero, htake, hdrop, hstart, hfound, hslash, hpassed]

/-- A written tag without attributes that closes itself is read back. -/
theorem startTag_selfClosing {name : Text} (hname : IsLetters name) (rest : Text) :
    startTag ('<' :: (name ++ '/' :: '>' :: rest)) = .complete name [] true (name.length + 3) := by
  obtain ⟨htake, hdrop⟩ := takeWhile_append_cons
    (fun d hd => isTagNameChar_of_isAlpha (hname.2 d hd)) (by decide : isTagNameChar '/' = false)
    ('>' :: rest)
  have hend : isBlank '>' = false := by decide
  have hlength : ('<' :: (name ++ '/' :: '>' :: rest)).length =
      (name.length + 2 + rest.length) + 1 := by
    simp only [List.length_cons, List.length_append]
    omega
  have hfound : attributesFrom ('<' :: (name ++ '/' :: '>' :: rest)).length ⟨'/', '>' :: rest⟩ =
      ([], ⟨'/', '>' :: rest⟩) := by
    rw [hlength, attributesFrom, attribute?_end]
  have hpassed : ('<' :: (name ++ '/' :: '>' :: rest)).length - ('>' :: rest).length + 1 =
      name.length + 3 := by
    simp only [List.length_cons, List.length_append]
    omega
  have hgap : ('/' :: '>' :: rest).takeWhile (fun c => isBlank c || c = '/') = ['/'] := by
    simp [hend]
  have hbehind : ('/' :: '>' :: rest).dropWhile (fun c => isBlank c || c = '/') = '>' :: rest := by
    simp [hend]
  have hplace : Place.after (name.getLastD '<') ['/'] ('>' :: rest) = ⟨'/', '>' :: rest⟩ := rfl
  unfold startTag
  simp only [List.drop_succ_cons, List.drop_zero, htake, hdrop, hgap, hbehind, hplace, hfound,
    hpassed]
  rfl

end HitListing.Markup
