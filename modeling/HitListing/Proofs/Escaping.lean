import HitListing.Markup.Escape
import HitListing.Proofs.References
import HitListing.Uri
import Mathlib.Tactic.IntervalCases

/-!
# Escaped and encoded texts

An escaped text is read back as it was, whatever follows it
(`unescape_escape_append`), and neither an escaped text nor one that is encoded
for a link holds a character by which markup could be told from text
(`isClean_escape`, `isLink_encodePath`, `isLink_encodeValue`).
-/

namespace HitListing

namespace Markup

/-- Whether a text holds no character that ends a value in quotes or a tag, or begins a tag. -/
def IsClean (t : Text) : Prop :=
  ∀ c ∈ t, c ≠ '"' ∧ c ≠ '<' ∧ c ≠ '>'

instance (t : Text) : Decidable (IsClean t) :=
  decidable_of_iff (t.all (fun c => c ≠ '"' && c ≠ '<' && c ≠ '>') = true) (by
    simp [IsClean, and_assoc])

theorem isClean_append {a b : Text} : IsClean (a ++ b) ↔ IsClean a ∧ IsClean b :=
  List.forall_mem_append

theorem isClean_cons {c : Char} {t : Text} :
    IsClean (c :: t) ↔ (c ≠ '"' ∧ c ≠ '<' ∧ c ≠ '>') ∧ IsClean t :=
  List.forall_mem_cons

/-! ## Escaping -/

theorem unescapeAfter_eq_drop (pass : Nat) (t : Text) :
    unescapeAfter pass t = unescape (t.drop pass) := by
  induction t generalizing pass with
  | nil =>
    rw [List.drop_nil]
    cases pass with
    | zero => rfl
    | succ pass => rfl
  | cons c t ih =>
    cases pass with
    | zero => rfl
    | succ pass => exact ih pass

/-- A character that begins no reference is read as itself. -/
theorem unescape_cons_of_ne {c : Char} (hc : c ≠ '&') (rest : Text) :
    unescape (c :: rest) = unescape rest >>= fun more => .ok (c :: more) := by
  rw [unescape, unescapeAfter, if_neg fun h => hc h.1]
  rfl

/-- A reference is read as what it stands for. -/
theorem unescape_reference {body shown : Text} (rest : Text) (hbody : body ≠ [])
    (hspan : referenceLength (body ++ rest) = body.length) (hmeaning : meaning body = .ok shown) :
    unescape ('&' :: (body ++ rest)) = unescape rest >>= fun more => .ok (shown ++ more) := by
  have hpos : 0 < referenceLength (body ++ rest) := by
    rw [hspan]
    exact List.length_pos_iff.mpr hbody
  rw [unescape, unescapeAfter, if_pos ⟨rfl, hpos⟩, unescapeAfter_eq_drop, hspan,
    List.take_left, List.drop_left, hmeaning]
  rfl

theorem meaning_amp : meaning "amp;" = .ok ['&'] := by
  decide +kernel

theorem meaning_lt : meaning "lt;" = .ok ['<'] := by
  decide +kernel

theorem meaning_gt : meaning "gt;" = .ok ['>'] := by
  decide +kernel

theorem meaning_quot : meaning "quot;" = .ok ['"'] := by
  decide +kernel

theorem meaning_apostrophe : meaning "#x27;" = .ok ['\''] := by
  decide +kernel

/-- An escaped character is read back, whatever follows it. -/
theorem unescape_escapeChar_append (c : Char) (rest : Text) :
    unescape (escapeChar c ++ rest) = unescape rest >>= fun more => .ok (c :: more) := by
  unfold escapeChar
  split
  case isTrue h =>
    rw [h]
    exact unescape_reference rest (by decide) rfl meaning_amp
  split
  case isTrue h =>
    rw [h]
    exact unescape_reference rest (by decide) rfl meaning_lt
  split
  case isTrue h =>
    rw [h]
    exact unescape_reference rest (by decide) rfl meaning_gt
  split
  case isTrue h =>
    rw [h]
    exact unescape_reference rest (by decide) rfl meaning_quot
  split
  case isTrue h =>
    rw [h]
    exact unescape_reference rest (by decide) rfl meaning_apostrophe
  case isFalse hamp _ _ _ _ => exact unescape_cons_of_ne hamp rest

/-- An escaped text is read back, whatever follows it. -/
theorem unescape_escape_append (t rest : Text) :
    unescape (escape t ++ rest) = unescape rest >>= fun more => .ok (t ++ more) := by
  induction t with
  | nil =>
    show unescape rest = _
    cases unescape rest with
    | error f => rfl
    | ok more => rfl
  | cons c t ih =>
    rw [escape, List.flatMap_cons, List.append_assoc, unescape_escapeChar_append]
    show unescape (escape t ++ rest) >>= _ = _
    rw [ih]
    cases unescape rest with
    | error f => rfl
    | ok more => rfl

theorem unescape_escape (t : Text) : unescape (escape t) = .ok t := by
  have h := unescape_escape_append t []
  rw [List.append_nil] at h
  rw [h]
  show Except.ok (t ++ []) = _
  rw [List.append_nil]

theorem not_hasLongReference_escape (t : Text) : ¬HasLongReference (escape t) := by
  rw [← succeeds_unescape_iff, unescape_escape]
  exact succeeds_ok t

theorem isClean_escapeChar (c : Char) : IsClean (escapeChar c) := by
  unfold escapeChar
  split
  · decide
  split
  · decide
  split
  · decide
  split
  · decide
  split
  · decide
  case isFalse _ hlt hgt hquote _ => exact isClean_cons.mpr ⟨⟨hquote, hlt, hgt⟩, nofun⟩

theorem isClean_escape (t : Text) : IsClean (escape t) := by
  intro d hd
  obtain ⟨c, _, hd⟩ := List.mem_flatMap.mp hd
  exact isClean_escapeChar c d hd

end Markup

/-! ## Encoding for links -/

namespace Uri

/-- Whether a character may stand in an encoded text. -/
def IsLinkChar (c : Char) : Prop :=
  isUnreserved c = true ∨ c = '%' ∨ c = '/' ∨ c = '+'

theorem isUnreserved_hexDigit {n : Nat} (h : n < 16) : isUnreserved (hexDigit n) = true := by
  interval_cases n <;> decide

/-- An encoded character is written in unreserved characters and percent signs. -/
theorem isUnreserved_of_mem_encodeChar {c d : Char} (hd : d ∈ encodeChar c) :
    isUnreserved d = true ∨ d = '%' := by
  unfold encodeChar at hd
  split at hd
  case isTrue hplain =>
    obtain rfl := List.mem_singleton.mp hd
    exact Or.inl hplain
  case isFalse =>
    obtain ⟨b, _, hd⟩ := List.mem_flatMap.mp hd
    have hbyte : b.toNat < 256 := b.toNat_lt
    simp only [percent, List.mem_cons, List.not_mem_nil, or_false] at hd
    rcases hd with rfl | rfl | rfl
    · exact Or.inr rfl
    · exact Or.inl (isUnreserved_hexDigit (by omega))
    · exact Or.inl (isUnreserved_hexDigit (by omega))

theorem isLinkChar_encodeChar {c d : Char} (hd : d ∈ encodeChar c) : IsLinkChar d := by
  rcases isUnreserved_of_mem_encodeChar hd with hd | hd
  · exact Or.inl hd
  · exact Or.inr (Or.inl hd)

theorem isLinkChar_encodePath {path : Text} {d : Char} (hd : d ∈ encodePath path) :
    IsLinkChar d := by
  obtain ⟨c, _, hd⟩ := List.mem_flatMap.mp hd
  split at hd
  case isTrue hslash =>
    obtain rfl := List.mem_singleton.mp hd
    exact Or.inr (Or.inr (Or.inl hslash))
  case isFalse => exact isLinkChar_encodeChar hd

theorem isLinkChar_encodeValue {value : Text} {d : Char} (hd : d ∈ encodeValue value) :
    IsLinkChar d := by
  obtain ⟨c, _, hd⟩ := List.mem_flatMap.mp hd
  split at hd
  case isTrue =>
    obtain rfl := List.mem_singleton.mp hd
    exact Or.inr (Or.inr (Or.inr rfl))
  case isFalse => exact isLinkChar_encodeChar hd

/-- No character of an encoded text is one of markup. -/
theorem IsLinkChar.ne_of_not_unreserved {c d : Char} (h : IsLinkChar c)
    (hd : isUnreserved d = false ∧ d ≠ '%' ∧ d ≠ '/' ∧ d ≠ '+') : c ≠ d := by
  rintro rfl
  rcases h with h | h | h | h
  · rw [hd.1] at h
    cases h
  · exact hd.2.1 h
  · exact hd.2.2.1 h
  · exact hd.2.2.2 h

end Uri

namespace Markup

/-- Whether a text may stand in a link as it is: it is clean and has no ampersand either. -/
def IsLink (t : Text) : Prop :=
  IsClean t ∧ '&' ∉ t

instance (t : Text) : Decidable (IsLink t) :=
  inferInstanceAs (Decidable (IsClean t ∧ '&' ∉ t))

theorem isLink_of_forall {t : Text} (h : ∀ c ∈ t, Uri.IsLinkChar c) : IsLink t := by
  constructor
  · intro c hc
    exact ⟨(h c hc).ne_of_not_unreserved (by decide), (h c hc).ne_of_not_unreserved (by decide),
      (h c hc).ne_of_not_unreserved (by decide)⟩
  · intro hamp
    exact (h '&' hamp).ne_of_not_unreserved (by decide) rfl

theorem isLink_encodePath (path : Text) : IsLink (Uri.encodePath path) :=
  isLink_of_forall fun _ => Uri.isLinkChar_encodePath

theorem isLink_encodeValue (value : Text) : IsLink (Uri.encodeValue value) :=
  isLink_of_forall fun _ => Uri.isLinkChar_encodeValue

theorem isLink_append {a b : Text} : IsLink (a ++ b) ↔ IsLink a ∧ IsLink b := by
  unfold IsLink
  rw [isClean_append, List.mem_append, not_or]
  exact and_and_and_comm

end Markup

end HitListing
