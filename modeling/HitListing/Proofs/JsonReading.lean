import HitListing.Proofs.JsonText
import HitListing.Proofs.Outcomes
import Mathlib.Data.List.TakeWhile

/-!
# How reading JSON can end

A text that cannot be read is no JSON, or it holds a number that is too long
(`failsOnlyWith_read`).

The bound on the depth of values is no reason: what is read under some bound is
read under every bound of two for each character and a little more
(`ReadsAlike`), because each reader takes something off its text before the bound
goes down twice.  So a text can be read exactly if it holds a value, however deep
that is nested (`read_eq_ok_iff`).

A value that is read can be written again: no numeral in it is longer than the
reader takes (`numeralsFit_of_read`).
-/

namespace HitListing.Json

/-! ## What can be wrong -/

/-- Whether a fault is one of those that a text can have for a reader: it is not JSON, or it has a
number that is too long. -/
def IsReadFault (f : Fault) : Prop :=
  f = .badJson ∨ f = .badValue

section Faults

variable {α : Type}

theorem failsOnlyWith_badJson : FailsOnlyWith IsReadFault (.error .badJson : Except Fault α) :=
  failsOnlyWith_error (Or.inl rfl)

theorem failsOnlyWith_readString (t : Text) : FailsOnlyWith IsReadFault (readString t) := by
  rw [readString]
  split
  · exact failsOnlyWith_ok _
  · exact failsOnlyWith_badJson

theorem failsOnlyWith_readNumber (negative : Bool) (t : Text) :
    FailsOnlyWith IsReadFault (readNumber negative t) := by
  rw [readNumber]
  split
  · exact failsOnlyWith_badJson
  · simp only
    split
    · split
      · exact failsOnlyWith_ok _
      · exact failsOnlyWith_error (Or.inr rfl)
    · exact failsOnlyWith_ok _

theorem failsOnlyWith_readAtom (t : Text) : FailsOnlyWith IsReadFault (readAtom t) := by
  rw [readAtom.eq_def]
  simp only
  split
  · exact failsOnlyWith_ok _
  · split
    · exact failsOnlyWith_readNumber _ _
    · exact failsOnlyWith_readNumber _ _

/-- Values, items and fields have no other faults, whatever the bound. -/
theorem failsOnlyWith_nested (depth : Nat) :
    (∀ t, FailsOnlyWith IsReadFault (readValue depth t)) ∧
      (∀ t, FailsOnlyWith IsReadFault (readItems depth t)) ∧
      ∀ t, FailsOnlyWith IsReadFault (readFields depth t) := by
  induction depth with
  | zero =>
    exact ⟨fun _ => failsOnlyWith_badJson, fun _ => failsOnlyWith_badJson,
      fun _ => failsOnlyWith_badJson⟩
  | succ depth ih =>
    obtain ⟨hvalue, hitems, hfields⟩ := ih
    refine ⟨fun t => ?_, fun t => ?_, fun t => ?_⟩
    · rw [readValue.eq_def]
      simp only
      split
      · exact (failsOnlyWith_readString _).bind fun _ _ => failsOnlyWith_ok _
      · split
        · exact failsOnlyWith_ok _
        · exact (hitems _).bind fun _ _ => failsOnlyWith_ok _
      · split
        · exact failsOnlyWith_ok _
        · exact (hfields _).bind fun _ _ => failsOnlyWith_ok _
      · exact failsOnlyWith_readAtom _
    · rw [readItems]
      refine (hvalue t).bind fun found _ => ?_
      obtain ⟨item, behind⟩ := found
      simp only
      split
      · exact failsOnlyWith_ok _
      · exact (hitems _).bind fun _ _ => failsOnlyWith_ok _
      · exact failsOnlyWith_badJson
    · rw [readFields.eq_def]
      simp only
      split
      · refine (failsOnlyWith_readString _).bind fun found _ => ?_
        obtain ⟨key, behind⟩ := found
        simp only
        split
        · refine (hvalue _).bind fun found _ => ?_
          obtain ⟨value, behind⟩ := found
          simp only
          split
          · exact failsOnlyWith_ok _
          · exact (hfields _).bind fun _ _ => failsOnlyWith_ok _
          · exact failsOnlyWith_badJson
        · exact failsOnlyWith_badJson
      · exact failsOnlyWith_badJson

/-- A text is no JSON, or one of its numbers is too long, or it can be read. -/
theorem failsOnlyWith_read (t : Text) : FailsOnlyWith IsReadFault (read t) := by
  rw [read]
  refine ((failsOnlyWith_nested _).1 _).bind fun found _ => ?_
  obtain ⟨value, behind⟩ := found
  simp only
  split
  · exact failsOnlyWith_ok _
  · exact failsOnlyWith_badJson

end Faults

/-! ## How deep values nest -/

section Shorter

theorem length_skipSpaces_le (t : Text) : (skipSpaces t).length ≤ t.length :=
  List.length_dropWhile_le isSpace t

theorem length_of_readUnits {t : Text} {units : List Nat} {rest : Text}
    (h : readUnits t = some (units, rest)) : rest.length < t.length := by
  fun_induction readUnits t generalizing units rest with
  | case1 => cases h
  | case2 behind =>
    cases h
    exact Nat.lt_succ_self _
  | case3 => cases h
  | case4 a b c d behind n hunit ih =>
    obtain ⟨⟨more, after⟩, hmore, heq⟩ := Option.map_eq_some_iff.mp h
    cases heq
    have hrest := ih hmore
    simp only [List.length_cons]
    omega
  | case5 => cases h
  | case6 e behind c hescape hchar ih =>
    obtain ⟨⟨more, after⟩, hmore, heq⟩ := Option.map_eq_some_iff.mp h
    cases heq
    have hrest := ih hmore
    simp only [List.length_cons]
    omega
  | case7 => cases h
  | case8 c behind _ _ _ _ ih =>
    obtain ⟨⟨more, after⟩, hmore, heq⟩ := Option.map_eq_some_iff.mp h
    cases heq
    have hrest := ih hmore
    rw [List.length_cons]
    omega

theorem length_of_readString {t s rest : Text} (h : readString t = .ok (s, rest)) :
    rest.length < t.length := by
  rw [readString] at h
  split at h
  · rename_i hunits
    cases h
    exact length_of_readUnits hunits
  · cases h

theorem length_of_readWhole? {t digits rest : Text} (h : readWhole? t = some (digits, rest)) :
    rest.length < t.length := by
  rw [readWhole?.eq_def] at h
  split at h
  · cases h
    exact Nat.lt_succ_self _
  · split at h
    · cases h
    · rename_i hdigits
      cases h
      have hsplit := congrArg List.length (t.takeWhile_append_dropWhile (p := Char.isDigit))
      rw [List.length_append] at hsplit
      have hpos : 0 < (t.takeWhile Char.isDigit).length := List.length_pos_iff.mpr hdigits
      omega

theorem length_readFraction_le (t : Text) : (readFraction t).2.length ≤ t.length := by
  rw [readFraction.eq_def]
  split
  · split
    · exact Nat.le_refl _
    · exact (List.length_dropWhile_le _ _).trans (Nat.le_succ _)
  · exact Nat.le_refl _

theorem length_of_exponentDigits? {negative : Bool} {t rest : Text} {e : Int}
    (h : exponentDigits? negative t = some (e, rest)) : rest.length ≤ t.length := by
  rw [exponentDigits?] at h
  split at h
  · cases h
  · cases h
    exact List.length_dropWhile_le _ _

theorem length_of_readExponent? {t rest : Text} {e : Int}
    (h : readExponent? t = some (e, rest)) : rest.length < t.length := by
  rw [readExponent?.eq_def] at h
  split at h
  · rename_i mark behind
    split at h
    · split at h
      · exact Nat.lt_succ_of_le ((length_of_exponentDigits? h).trans (Nat.le_succ _))
      · exact Nat.lt_succ_of_le ((length_of_exponentDigits? h).trans (Nat.le_succ _))
      · exact Nat.lt_succ_of_le (length_of_exponentDigits? h)
    · cases h
  · cases h

theorem length_of_readNumber {negative : Bool} {t rest : Text} {v : Json}
    (h : readNumber negative t = .ok (v, rest)) : rest.length < t.length := by
  rw [readNumber] at h
  split at h
  · cases h
  · rename_i whole behind hwhole
    have hlength := length_of_readWhole? hwhole
    have hfraction := length_readFraction_le behind
    simp only at h
    split at h
    · split at h
      · cases h
        omega
      · cases h
    · cases hexponent : readExponent? (readFraction behind).2 with
      | none =>
        rw [hexponent] at h
        cases h
        exact Nat.lt_of_le_of_lt hfraction hlength
      | some found =>
        obtain ⟨e, after⟩ := found
        have hafter := length_of_readExponent? hexponent
        rw [hexponent] at h
        cases h
        exact (hafter.trans_le hfraction).trans hlength

theorem length_of_stripPrefix? {start t rest : Text} (h : stripPrefix? start t = some rest)
    (hstart : start ≠ []) : rest.length < t.length := by
  rw [stripPrefix?] at h
  split at h
  · rename_i hprefix
    cases h
    have hle := (List.isPrefixOf_iff_prefix.mp hprefix).length_le
    have hpos := List.length_pos_iff.mpr hstart
    rw [List.length_drop]
    omega
  · cases h

theorem length_of_readAtom {t rest : Text} {v : Json}
    (h : readAtom t = .ok (v, rest)) : rest.length < t.length := by
  have hnames : ∀ p ∈ names, p.1 ≠ [] := by decide
  rw [readAtom.eq_def] at h
  simp only at h
  split at h
  · rename_i found hfound
    cases h
    obtain ⟨p, hp, hnamed⟩ := List.exists_of_findSome?_eq_some hfound
    obtain ⟨behind, hbehind, heq⟩ := Option.map_eq_some_iff.mp hnamed
    cases heq
    exact length_of_stripPrefix? hbehind (hnames p hp)
  · split at h
    · exact (length_of_readNumber h).trans (Nat.lt_succ_self _)
    · exact length_of_readNumber h

end Shorter

/-- Whether a reader takes something off each text that it reads under a bound, and reads it the
same under every bound of two for each character and some more. -/
def ReadsAlike {α : Type} (read : Nat → Text → Except Fault (α × Text)) (more depth : Nat) : Prop :=
  ∀ t a rest, read depth t = .ok (a, rest) →
    rest.length < t.length ∧ ∀ bound, 2 * t.length + more ≤ bound → read bound t = .ok (a, rest)

/-- Under the bound zero nothing is read, so that the other bounds are to be looked at. -/
theorem readsAlike_of_succ {α : Type} {read : Nat → Text → Except Fault (α × Text)}
    {more depth : Nat} (hmore : 0 < more) (h : ∀ t a rest, read depth t = .ok (a, rest) →
      rest.length < t.length ∧
        ∀ bound, 2 * t.length + more ≤ bound + 1 → read (bound + 1) t = .ok (a, rest)) :
    ReadsAlike read more depth := by
  intro t a rest hread
  obtain ⟨hlength, hall⟩ := h t a rest hread
  refine ⟨hlength, fun bound hbound => ?_⟩
  obtain ⟨bound, rfl⟩ : ∃ b, bound = b + 1 := ⟨bound - 1, by omega⟩
  exact hall bound hbound

/-- What stands behind an opening bracket: the closing one, or what a reader takes up to it. -/
def readBracketed {α : Type} (closing : Char) (empty : Json) (wrap : α → Json)
    (read : Text → Except Fault (α × Text)) (t : Text) : Except Fault (Json × Text) :=
  if (skipSpaces t).head? = some closing then .ok (empty, (skipSpaces t).tail)
  else read (skipSpaces t) >>= fun (a, rest) => .ok (wrap a, rest)

section Nested

variable {depth : Nat}

theorem readValue_bracketed (depth : Nat) (t : Text) :
    readValue (depth + 1) ('[' :: t) = readBracketed ']' (.arr []) .arr (readItems depth) t := by
  rw [readValue.eq_def, readBracketed]
  simp only
  split
  · rename_i hclosing
    rw [hclosing]
    rfl
  · rename_i hopen
    rw [if_neg fun h => ?_]
    · rfl
    · obtain ⟨rest, hrest⟩ := List.head?_eq_some_iff.mp h
      exact hopen rest hrest

theorem readValue_braced (depth : Nat) (t : Text) :
    readValue (depth + 1) ('\x7b' :: t) =
      readBracketed '\x7d' (.obj []) ofFields (readFields depth) t := by
  rw [readValue.eq_def, readBracketed]
  simp only
  split
  · rename_i hclosing
    rw [hclosing]
    rfl
  · rename_i hopen
    rw [if_neg fun h => ?_]
    · rfl
    · obtain ⟨rest, hrest⟩ := List.head?_eq_some_iff.mp h
      exact hopen rest hrest

theorem readBracketed_alike {α : Type} {read : Nat → Text → Except Fault (α × Text)}
    (hread : ReadsAlike read 2 depth) {closing : Char} {empty : Json} {wrap : α → Json} {t : Text}
    {v : Json} {rest : Text} (h : readBracketed closing empty wrap (read depth) t = .ok (v, rest)) :
    rest.length ≤ t.length ∧ ∀ bound, 2 * t.length + 2 ≤ bound →
      readBracketed closing empty wrap (read bound) t = .ok (v, rest) := by
  have hspaces := length_skipSpaces_le t
  rw [readBracketed] at h
  split at h
  · rename_i hclosing
    cases h
    rw [List.length_tail]
    refine ⟨by omega, fun bound hbound => ?_⟩
    rw [readBracketed, if_pos hclosing]
  · rename_i hopen
    obtain ⟨⟨a, after⟩, ha, h⟩ := exists_of_bind_eq_ok h
    cases h
    obtain ⟨hlength, hall⟩ := hread _ _ _ ha
    refine ⟨(hlength.trans_le hspaces).le, fun bound hbound => ?_⟩
    rw [readBracketed, if_neg hopen, hall bound (by omega)]
    rfl

theorem readsAlike_value (hitems : ReadsAlike readItems 2 depth)
    (hfields : ReadsAlike readFields 2 depth) : ReadsAlike readValue 1 (depth + 1) := by
  refine readsAlike_of_succ Nat.one_pos fun t v rest h => ?_
  rw [readValue.eq_def] at h
  simp only at h
  split at h
  · rename_i behind
    obtain ⟨⟨s, after⟩, hs, h⟩ := exists_of_bind_eq_ok h
    cases h
    refine ⟨(length_of_readString hs).trans (Nat.lt_succ_self _), fun bound hbound => ?_⟩
    rw [readValue.eq_def]
    simp only [hs]
    rfl
  · rename_i behind
    change readValue (depth + 1) ('[' :: behind) = _ at h
    rw [readValue_bracketed] at h
    obtain ⟨hlength, hall⟩ := readBracketed_alike hitems h
    rw [List.length_cons]
    refine ⟨Nat.lt_succ_of_le hlength, fun bound hbound => ?_⟩
    rw [readValue_bracketed]
    exact hall bound (by omega)
  · rename_i behind
    change readValue (depth + 1) ('\x7b' :: behind) = _ at h
    rw [readValue_braced] at h
    obtain ⟨hlength, hall⟩ := readBracketed_alike hfields h
    rw [List.length_cons]
    refine ⟨Nat.lt_succ_of_le hlength, fun bound hbound => ?_⟩
    rw [readValue_braced]
    exact hall bound (by omega)
  · refine ⟨length_of_readAtom h, fun bound _ => ?_⟩
    rw [readValue.eq_def]
    simp only
    exact h

theorem readsAlike_items (hvalue : ReadsAlike readValue 1 depth)
    (hitems : ReadsAlike readItems 2 depth) : ReadsAlike readItems 2 (depth + 1) := by
  refine readsAlike_of_succ Nat.two_pos fun t items rest h => ?_
  rw [readItems_succ] at h
  obtain ⟨⟨item, behind⟩, hitem, h⟩ := exists_of_bind_eq_ok h
  obtain ⟨hlength, hsame⟩ := hvalue _ _ _ hitem
  have hspaces := length_skipSpaces_le behind
  simp only at h
  split at h
  · rename_i hclosing
    cases h
    rw [hclosing, List.length_cons] at hspaces
    refine ⟨by omega, fun bound hbound => ?_⟩
    rw [readItems_succ, hsame bound (by omega)]
    simp only [bind, Except.bind, hclosing]
  · rename_i next hcomma
    obtain ⟨⟨more, after⟩, hread, h⟩ := exists_of_bind_eq_ok h
    change Except.ok (item :: more, after) = _ at h
    cases h
    obtain ⟨hmore, hall⟩ := hitems _ _ _ hread
    have hnext := length_skipSpaces_le next
    rw [hcomma, List.length_cons] at hspaces
    refine ⟨by omega, fun bound hbound => ?_⟩
    rw [readItems_succ, hsame bound (by omega)]
    simp only [bind, Except.bind, hcomma, hall bound (by omega)]
  · cases h

theorem readsAlike_fields (hvalue : ReadsAlike readValue 1 depth)
    (hfields : ReadsAlike readFields 2 depth) : ReadsAlike readFields 2 (depth + 1) := by
  refine readsAlike_of_succ Nat.two_pos fun t fields rest h => ?_
  rw [readFields.eq_def] at h
  simp only at h
  split at h
  · rename_i start
    change readFields (depth + 1) ('"' :: start) = _ at h
    rw [readFields_quote] at h
    obtain ⟨⟨key, behind⟩, hkey, h⟩ := exists_of_bind_eq_ok h
    have hstart := length_of_readString hkey
    have hspaces := length_skipSpaces_le behind
    rw [List.length_cons]
    simp only at h
    split at h
    · rename_i behindColon hcolon
      obtain ⟨⟨value, after⟩, hread, h⟩ := exists_of_bind_eq_ok h
      obtain ⟨hlength, hsame⟩ := hvalue _ _ _ hread
      have hafter := length_skipSpaces_le after
      have hcolonSpaces := length_skipSpaces_le behindColon
      rw [hcolon, List.length_cons] at hspaces
      simp only at h
      split at h
      · rename_i hclosing
        cases h
        rw [hclosing, List.length_cons] at hafter
        refine ⟨by omega, fun bound hbound => ?_⟩
        rw [readFields_quote, hkey]
        simp only [bind, Except.bind, hcolon, hsame bound (by omega), hclosing]
      · rename_i next hcomma
        obtain ⟨⟨more, last⟩, hrest, h⟩ := exists_of_bind_eq_ok h
        change Except.ok ((key, value) :: more, last) = _ at h
        cases h
        obtain ⟨hmore, hall⟩ := hfields _ _ _ hrest
        have hnext := length_skipSpaces_le next
        rw [hcomma, List.length_cons] at hafter
        refine ⟨by omega, fun bound hbound => ?_⟩
        rw [readFields_quote, hkey]
        simp only [bind, Except.bind, hcolon, hsame bound (by omega), hcomma,
          hall bound (by omega)]
      · cases h
    · cases h
  · cases h

/-- Whatever the bound, what is read under it is read under all bounds that are large enough. -/
theorem readsAlike (depth : Nat) :
    ReadsAlike readValue 1 depth ∧ ReadsAlike readItems 2 depth ∧
      ReadsAlike readFields 2 depth := by
  induction depth with
  | zero => exact ⟨nofun, nofun, nofun⟩
  | succ depth ih =>
    obtain ⟨hvalue, hitems, hfields⟩ := ih
    exact ⟨readsAlike_value hitems hfields, readsAlike_items hvalue hitems,
      readsAlike_fields hvalue hfields⟩

end Nested

/-- Whether a text holds a value and nothing else, however deep it is nested. -/
def Holds (t : Text) (v : Json) : Prop :=
  ∃ depth rest, readValue depth (skipSpaces t) = .ok (v, rest) ∧ skipSpaces rest = []

/-- Reading gives the value that a text holds: the bound that the length supplies is enough. -/
theorem read_eq_ok_iff {t : Text} {v : Json} : read t = .ok v ↔ Holds t v := by
  rw [read]
  constructor
  · intro h
    obtain ⟨⟨value, rest⟩, hvalue, h⟩ := exists_of_bind_eq_ok h
    simp only at h
    split at h
    · rename_i hend
      cases h
      exact ⟨_, rest, hvalue, hend⟩
    · cases h
  · intro h
    obtain ⟨depth, rest, hvalue, hend⟩ := h
    have hspaces := length_skipSpaces_le t
    have hbound := ((readsAlike depth).1 _ _ _ hvalue).2 (2 * t.length + 2) (by omega)
    rw [hbound]
    simp only [bind, Except.bind, hend]
    rfl

/-! ## Numerals that are read -/

theorem fieldsFit_setField {fields : List (Text × Json)} (hfields : fieldsFit fields = true)
    (key : Text) {value : Json} (hvalue : value.numeralsFit = true) :
    fieldsFit (setField fields key value) = true := by
  induction fields with
  | nil => rw [setField, fieldsFit, hvalue, fieldsFit, Bool.and_true]
  | cons field rest ih =>
    obtain ⟨k, v⟩ := field
    rw [fieldsFit, Bool.and_eq_true] at hfields
    rw [setField]
    split
    · rw [fieldsFit, hvalue, hfields.2, Bool.and_true]
    · rw [fieldsFit, hfields.1, ih hfields.2, Bool.and_true]

theorem fieldsFit_foldl_setField {written fields : List (Text × Json)}
    (hwritten : fieldsFit written = true) (hfields : fieldsFit fields = true) :
    fieldsFit (fields.foldl (fun all f => setField all f.1 f.2) written) = true := by
  induction fields generalizing written with
  | nil => exact hwritten
  | cons field rest ih =>
    rw [fieldsFit, Bool.and_eq_true] at hfields
    exact ih (fieldsFit_setField hwritten _ hfields.1) hfields.2

theorem numeralsFit_ofFields {fields : List (Text × Json)} (h : fieldsFit fields = true) :
    (ofFields fields).numeralsFit = true := by
  have hnone : fieldsFit [] = true := rfl
  exact fieldsFit_foldl_setField hnone h

theorem isDigit_of_readWhole? {t digits rest : Text} (h : readWhole? t = some (digits, rest)) :
    ∀ c ∈ digits, c.isDigit = true := by
  rw [readWhole?.eq_def] at h
  split at h
  · cases h
    exact List.forall_mem_singleton.mpr rfl
  · split at h
    · cases h
    · cases h
      exact fun c hc => List.mem_takeWhile_imp hc

theorem numeralsFit_of_readNumber {negative : Bool} {t rest : Text} {v : Json}
    (h : readNumber negative t = .ok (v, rest)) : v.numeralsFit = true := by
  rw [readNumber] at h
  split at h
  · cases h
  · rename_i whole behind hwhole
    simp only at h
    split at h
    · split at h
      · rename_i hlength
        cases h
        have hdigits := isDigit_of_readWhole? hwhole
        have hlt := ofDigitChars_lt hdigits 0
        have hpow : 10 ^ whole.length ≤ 10 ^ maxDigits :=
          Nat.pow_le_pow_right (by decide) hlength
        rw [numeralsFit_int_iff, ofDigits_filterMap_decimalValue? hdigits]
        cases negative <;> simp <;> omega
      · cases h
    · cases h
      rfl

theorem numeralsFit_of_readAtom {t rest : Text} {v : Json} (h : readAtom t = .ok (v, rest)) :
    v.numeralsFit = true := by
  have hnames : ∀ p ∈ names, p.2.numeralsFit = true := by decide
  rw [readAtom.eq_def] at h
  simp only at h
  split at h
  · rename_i found hfound
    cases h
    obtain ⟨p, hp, hnamed⟩ := List.exists_of_findSome?_eq_some hfound
    obtain ⟨behind, _, heq⟩ := Option.map_eq_some_iff.mp hnamed
    cases heq
    exact hnames p hp
  · split at h
    · exact numeralsFit_of_readNumber h
    · exact numeralsFit_of_readNumber h

/-- Values, items and fields that are read have no numeral that is too long, whatever the
bound. -/
theorem numeralsFit_nested (depth : Nat) :
    (∀ t v rest, readValue depth t = .ok (v, rest) → v.numeralsFit = true) ∧
      (∀ t items rest, readItems depth t = .ok (items, rest) → itemsFit items = true) ∧
      ∀ t fields rest, readFields depth t = .ok (fields, rest) → fieldsFit fields = true := by
  induction depth with
  | zero => exact ⟨nofun, nofun, nofun⟩
  | succ depth ih =>
    obtain ⟨hvalue, hitems, hfields⟩ := ih
    refine ⟨fun t v rest h => ?_, fun t items rest h => ?_, fun t fields rest h => ?_⟩
    · rw [readValue.eq_def] at h
      simp only at h
      split at h
      · obtain ⟨_, _, h⟩ := exists_of_bind_eq_ok h
        cases h
        rfl
      · split at h
        · cases h
          rfl
        · obtain ⟨_, hread, h⟩ := exists_of_bind_eq_ok h
          cases h
          exact hitems _ _ _ hread
      · split at h
        · cases h
          rfl
        · obtain ⟨_, hread, h⟩ := exists_of_bind_eq_ok h
          cases h
          exact numeralsFit_ofFields (hfields _ _ _ hread)
      · exact numeralsFit_of_readAtom h
    · rw [readItems_succ] at h
      obtain ⟨⟨item, behind⟩, hitem, h⟩ := exists_of_bind_eq_ok h
      simp only at h
      split at h
      · cases h
        rw [itemsFit, hvalue _ _ _ hitem]
        rfl
      · obtain ⟨_, hread, h⟩ := exists_of_bind_eq_ok h
        cases h
        rw [itemsFit, hvalue _ _ _ hitem, hitems _ _ _ hread, Bool.and_true]
      · cases h
    · rw [readFields.eq_def] at h
      simp only at h
      split at h
      · obtain ⟨⟨key, behind⟩, _, h⟩ := exists_of_bind_eq_ok h
        simp only at h
        split at h
        · obtain ⟨⟨value, after⟩, hread, h⟩ := exists_of_bind_eq_ok h
          simp only at h
          split at h
          · cases h
            rw [fieldsFit, hvalue _ _ _ hread]
            rfl
          · obtain ⟨_, hmore, h⟩ := exists_of_bind_eq_ok h
            cases h
            rw [fieldsFit, hvalue _ _ _ hread, hfields _ _ _ hmore, Bool.and_true]
          · cases h
        · cases h
      · cases h

/-- No numeral in a value that is read is too long. -/
theorem numeralsFit_of_read {t : Text} {v : Json} (h : read t = .ok v) : v.numeralsFit = true := by
  obtain ⟨_, hvalue, h⟩ := exists_of_bind_eq_ok h
  simp only at h
  split at h
  · cases h
    exact (numeralsFit_nested _).1 _ _ _ hvalue
  · cases h

theorem numeralsFit_of_ofBytes {bytes : Bytes} {v : Json} (h : ofBytes bytes = .ok v) :
    v.numeralsFit = true := by
  rw [ofBytes] at h
  split at h
  · exact numeralsFit_of_read h
  · cases h

end HitListing.Json
