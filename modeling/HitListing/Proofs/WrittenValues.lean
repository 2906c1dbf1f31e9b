import HitListing.Proofs.JsonText
import HitListing.Proofs.Outcomes

/-!
# What is read from the text of a value

If the text of a value can be read, then what is read is the value again, apart
from its doubles, and apart from fields of an object that have a later one with
the same key behind them (`isReadAs_of_read`).  Nothing is assumed of the value:
where it holds a numeral that is too long, or a rational that no double has,
nothing is read.

A text may go on behind a value.  A number is not read up to its end where more
digits follow, and then no bracket, brace or comma follows what has been read.
So a value is read up to its end if what follows ends a number, as it does in
every list and in every object (`readValue_written`).
-/

namespace HitListing.Json

/-! ## Numerals -/

section Numerals

variable {rest : Text}

/-- The digits of a numeral are read, unless a zero comes before others of them, which is read
alone. -/
theorem readWhole?_digits {whole : Text} (h : IsDigits whole)
    (hrest : ∀ c ∈ rest.head?, c.isDigit = false) :
    readWhole? (whole ++ rest) = some (whole, rest) ∨
      ∃ c more, c.isDigit = true ∧ readWhole? (whole ++ rest) = some (['0'], c :: more) := by
  obtain ⟨c, digits, rfl⟩ := List.exists_cons_of_ne_nil h.ne_nil
  by_cases hc : c = '0'
  · subst hc
    cases digits with
    | nil => exact Or.inl rfl
    | cons d digits =>
      have hd : d.isDigit = true := h.isDigit d (List.mem_cons_of_mem _ List.mem_cons_self)
      exact Or.inr ⟨d, digits ++ rest, hd, rfl⟩
  · obtain ⟨htake, hdrop⟩ := takeWhile_isDigit h.isDigit hrest
    refine Or.inl ?_
    rw [readWhole?.eq_def]
    split
    · rename_i heq
      injection heq with heq _
      exact absurd heq hc
    · rw [htake, hdrop]

theorem readFraction_fraction {fraction : Text} (h : IsFraction fraction)
    (hrest : ∀ c ∈ rest.head?, c.isDigit = false ∧ c ≠ '.') :
    readFraction (fraction ++ rest) = (fraction.tail, rest) := by
  cases h with
  | none => exact readFraction_of_head fun c hc => (hrest c hc).2
  | @digits t ht =>
    obtain ⟨htake, hdrop⟩ := takeWhile_isDigit ht.isDigit fun c hc => (hrest c hc).1
    rw [List.cons_append, readFraction, htake, hdrop, List.tail_cons]
    split
    · exact absurd rfl ht.ne_nil
    · rfl

theorem readExponent?_exponent {exponent : Text} (h : IsExponent exponent)
    (hrest : EndsNumber rest) :
    readExponent? (exponent ++ rest) = none ∧ exponent = [] ∨
      ∃ n, readExponent? (exponent ++ rest) = some (n, rest) := by
  cases h with
  | none => exact Or.inl ⟨readExponent?_of_head fun c hc => (hrest c hc).2.2, rfl⟩
  | @digits sign t hsign ht =>
    obtain ⟨htake, hdrop⟩ := takeWhile_isDigit ht.isDigit fun c hc => (hrest c hc).1
    have hdigits (negative : Bool) : ∃ n, exponentDigits? negative (t ++ rest) = some (n, rest) := by
      rw [exponentDigits?, htake, hdrop]
      split
      · exact absurd rfl ht.ne_nil
      · exact ⟨_, rfl⟩
    refine Or.inr ?_
    rcases hsign with rfl | rfl
    · exact hdigits true
    · exact hdigits false

/-- What is left behind a number is what is left behind its last part. -/
theorem eq_of_readNumber {negative : Bool} {t whole behindWhole fraction behind last left : Text}
    {v : Json} (hwhole : readWhole? t = some (whole, behindWhole))
    (hfraction : readFraction behindWhole = (fraction, behind))
    (hexponent : readExponent? behind = none ∧ last = behind ∨
      ∃ n, readExponent? behind = some (n, last))
    (h : readNumber negative t = .ok (v, left)) : left = last := by
  rw [readNumber, hwhole] at h
  simp only [hfraction] at h
  rcases hexponent with ⟨hnone, rfl⟩ | ⟨n, hsome⟩
  · rw [hnone] at h
    split at h
    · split at h <;> cases h
      rfl
    · cases h
      rfl
  · rw [hsome] at h
    split at h
    · rename_i heq
      cases heq
    · cases h
      rfl

/-- A numeral is read up to its end, or not up to the end of a number. -/
theorem eq_of_readNumber_numeral {negative : Bool} {t left : Text} {v : Json} (ht : IsNumeral t)
    (hrest : EndsNumber rest) (hleft : EndsNumber left)
    (h : readNumber negative (t ++ rest) = .ok (v, left)) : left = rest := by
  obtain @⟨whole, fraction, exponent, hwhole, hfraction, hexponent⟩ := ht
  have hbehind : ∀ c ∈ (exponent ++ rest).head?, c.isDigit = false ∧ c ≠ '.' := by
    cases hexponent with
    | none => exact fun c hc => ⟨(hrest c hc).1, (hrest c hc).2.1⟩
    | digits _ _ =>
      intro c hc
      cases hc
      decide
  have hbehindWhole : ∀ c ∈ (fraction ++ (exponent ++ rest)).head?, c.isDigit = false := by
    cases hfraction with
    | none => exact fun c hc => (hbehind c hc).1
    | digits _ =>
      intro c hc
      cases hc
      decide
  rw [List.append_assoc, List.append_assoc] at h
  rcases readWhole?_digits hwhole hbehindWhole with hread | ⟨c, more, hc, hread⟩
  · refine eq_of_readNumber hread (readFraction_fraction hfraction hbehind) ?_ h
    rcases readExponent?_exponent hexponent hrest with ⟨hnone, rfl⟩ | hsome
    · exact Or.inl ⟨hnone, rfl⟩
    · exact Or.inr hsome
  · -- more digits are left, so that no number ends there
    have hdigit {d : Char} (hd : d ∈ (c :: more).head?) {e : Char} (he : e.isDigit = false) :
        d ≠ e := by
      cases hd
      exact (ne_of_isDigit hc he).symm
    have hnone := readExponent?_of_head fun d hd => ⟨hdigit hd (e := 'e') rfl, hdigit hd (e := 'E') rfl⟩
    obtain rfl := eq_of_readNumber hread (readFraction_of_head fun d hd => hdigit hd rfl)
      (Or.inl ⟨hnone, rfl⟩) h
    have hend := (hleft c rfl).1
    rw [hc] at hend
    cases hend

/-- So is a double. -/
theorem eq_of_readAtom_writeReal {x : Binary64} {left : Text} {v : Json} (hrest : EndsNumber rest)
    (hleft : EndsNumber left) (h : readAtom (writeReal x ++ rest) = .ok (v, left)) :
    left = rest := by
  have hminus {t : Text} (ht : IsNumeral t) (h : readAtom ('-' :: t ++ rest) = .ok (v, left)) :
      left = rest := by
    obtain ⟨c, more, rfl, hc⟩ := ht.exists_cons
    rw [List.cons_append, List.cons_append, readAtom_minus hc] at h
    exact eq_of_readNumber_numeral ht hrest hleft h
  have hnamed {u : Json} (hread : readAtom (writeReal x ++ rest) = .ok (u, rest)) :
      left = rest := by
    rw [hread] at h
    cases h
    rfl
  cases x with
  | finite q =>
    change readAtom (Binary64.writeFinite q ++ rest) = _ at h
    rcases Binary64.isNumeral_writeFinite q with hnumeral | ⟨t, ht, hnumeral⟩
    · obtain ⟨c, more, heq, hc⟩ := hnumeral.exists_cons
      rw [heq] at h hnumeral
      rw [List.cons_append, readAtom_cons hc] at h
      exact eq_of_readNumber_numeral hnumeral hrest hleft h
    · rw [ht] at h
      exact hminus hnumeral h
  | negativeZero => exact hminus (.parts isDigits_zero (.digits isDigits_zero) .none) h
  | infinity negative => cases negative <;> exact hnamed rfl
  | nan => exact hnamed rfl

end Numerals

/-! ## Values -/

mutual

/-- Whether a value can be what is read from the text of another: it is the same, but for the
doubles, and an object has the last field of each key. -/
def IsReadAs : Json → Json → Prop
  | .real _, _ => True
  | .arr items, v => ∃ found, v = .arr found ∧ ItemsReadAs items found
  | .obj fields, v => ∃ found, v = ofFields found ∧ FieldsReadAs fields found
  | value, v => v = value

/-- The same for the items of two lists. -/
def ItemsReadAs : List Json → List Json → Prop
  | [], found => found = []
  | item :: items, found => ∃ v more, found = v :: more ∧ IsReadAs item v ∧ ItemsReadAs items more

/-- The same for the fields of two objects, which have the same keys. -/
def FieldsReadAs : List (Text × Json) → List (Text × Json) → Prop
  | [], found => found = []
  | (key, value) :: fields, found =>
    ∃ v more, found = (key, v) :: more ∧ IsReadAs value v ∧ FieldsReadAs fields more

end

/-- A number ends before spaces as it does before what follows them. -/
theorem EndsNumber.of_skipSpaces {t : Text} (h : EndsNumber (skipSpaces t)) : EndsNumber t := by
  cases t with
  | nil => exact endsNumber_nil
  | cons d t =>
    by_cases hd : isSpace d = true
    · refine endsNumber_cons t ?_
      simp only [isSpace, Bool.or_eq_true, decide_eq_true_eq] at hd
      rcases hd with ((rfl | rfl) | rfl) | rfl <;> decide
    · rwa [skipSpaces, List.dropWhile_cons_of_neg hd] at h

theorem endsNumber_of_skipSpaces {t rest : Text} {c : Char} (h : skipSpaces t = c :: rest)
    (hc : c.isDigit = false ∧ c ≠ '.' ∧ c ≠ 'e' ∧ c ≠ 'E') : EndsNumber t := by
  apply EndsNumber.of_skipSpaces
  rw [h]
  exact endsNumber_cons rest hc

mutual

/-- What is read from the text of a value up to the end of a number is what is read from the value,
and nothing of what follows. -/
theorem readValue_written (v : Json) (depth : Nat) {rest left : Text} {w : Json}
    (hrest : EndsNumber rest) (hleft : EndsNumber left)
    (h : readValue depth (write v ++ rest) = .ok (w, left)) : left = rest ∧ IsReadAs v w := by
  have hknown {u : Json} (hread : readValue depth (write v ++ rest) = .ok (u, rest))
      (hu : IsReadAs v u) : left = rest ∧ IsReadAs v w := by
    rw [hread] at h
    cases h
    exact ⟨rfl, hu⟩
  match depth, h with
  | depth + 1, h =>
    match v, h with
    | .null, h => exact hknown rfl rfl
    | .bool true, h => exact hknown rfl rfl
    | .bool false, h => exact hknown rfl rfl
    | .int n, h =>
      have hread : readValue (depth + 1) (write (.int n) ++ rest) = _ := readValue_ofInt depth n hrest
      rw [hread, ifFits] at h
      split at h
      · cases h
        exact ⟨rfl, rfl⟩
      · cases h
    | .real x, h =>
      have hplain : ∀ c ∈ ['-', 'N', 'I'], c ≠ '"' ∧ c ≠ '[' ∧ c ≠ '\x7b' := by simp
      obtain ⟨c, more, heq, hc⟩ := exists_writeReal_eq_cons x
      have hatom : readValue (depth + 1) (writeReal x ++ rest) = readAtom (writeReal x ++ rest) := by
        rw [heq, List.cons_append]
        rcases hc with hc | hc
        · exact readValue_digit depth hc _
        · exact readValue_cons depth (hplain c hc) _
      rw [write, hatom] at h
      exact ⟨eq_of_readAtom_writeReal hrest hleft h, trivial⟩
    | .str t, h =>
      have hstart : write (.str t) ++ rest = '"' :: (t.flatMap escapeChar ++ '"' :: rest) := by
        simp [write, writeString]
      have hread : readValue (depth + 1) ('"' :: (t.flatMap escapeChar ++ '"' :: rest)) =
          readString (t.flatMap escapeChar ++ '"' :: rest) >>=
            fun (t, rest) => .ok (.str t, rest) := rfl
      rw [hstart, hread, readString_write] at h
      cases h
      exact ⟨rfl, rfl⟩
    | .arr [], h => exact hknown rfl ⟨[], rfl, rfl⟩
    | .arr (item :: items), h =>
      have hstart : write (.arr (item :: items)) ++ rest =
          '[' :: (writeItems (item :: items) ++ ']' :: rest) := by
        simp [write]
      rw [hstart, readValue_list depth ((startsItem_writeItems item items).append _)] at h
      obtain ⟨⟨found, after⟩, hitems, h⟩ := exists_of_bind_eq_ok h
      cases h
      obtain ⟨hafter, hfound⟩ := readItems_written item items depth hitems
      exact ⟨hafter, found, rfl, hfound⟩
    | .obj [], h => exact hknown rfl ⟨[], rfl, rfl⟩
    | .obj ((key, value) :: fields), h =>
      obtain ⟨more, hfields⟩ := writeFields_eq_cons key value fields
      have hstart : write (.obj ((key, value) :: fields)) ++ rest =
          '\x7b' :: (writeFields ((key, value) :: fields) ++ '\x7d' :: rest) := by
        simp [write]
      have hread (t : Text) : readValue (depth + 1) ('\x7b' :: '"' :: t) =
          readFields depth ('"' :: t) >>= fun (fields, rest) => .ok (ofFields fields, rest) := rfl
      rw [hstart, hfields, List.cons_append, hread] at h
      obtain ⟨⟨found, after⟩, hinner, h⟩ := exists_of_bind_eq_ok h
      cases h
      rw [← List.cons_append, ← hfields] at hinner
      obtain ⟨hafter, hfound⟩ := readFields_written key value fields depth hinner
      exact ⟨hafter, found, rfl, hfound⟩

/-- The items of a list are read up to its bracket. -/
theorem readItems_written (item : Json) (items : List Json) (depth : Nat) {rest left : Text}
    {found : List Json}
    (h : readItems depth (writeItems (item :: items) ++ ']' :: rest) = .ok (found, left)) :
    left = rest ∧ ItemsReadAs (item :: items) found := by
  match depth, h with
  | depth + 1, h =>
    rw [readItems_succ] at h
    match items, h with
    | [], h =>
      obtain ⟨⟨v, after⟩, hv, h⟩ := exists_of_bind_eq_ok h
      have hend : EndsNumber (']' :: rest) := endsNumber_cons rest (by decide)
      simp only at h
      split at h
      · rename_i hafter
        cases h
        obtain ⟨rfl, hread⟩ := readValue_written item depth hend
          (endsNumber_of_skipSpaces hafter (by decide)) hv
        cases hafter
        exact ⟨rfl, v, [], rfl, hread, rfl⟩
      · rename_i hafter
        obtain ⟨rfl, _⟩ := readValue_written item depth hend
          (endsNumber_of_skipSpaces hafter (by decide)) hv
        cases hafter
      · cases h
    | next :: items, h =>
      have hstart : writeItems (item :: next :: items) ++ ']' :: rest =
          write item ++ ',' :: ' ' :: (writeItems (next :: items) ++ ']' :: rest) := by
        simp [writeItems]
      have hend (t : Text) : EndsNumber (',' :: ' ' :: t) := endsNumber_cons _ (by decide)
      have hskip : skipSpaces (' ' :: (writeItems (next :: items) ++ ']' :: rest)) =
          writeItems (next :: items) ++ ']' :: rest :=
        ((startsItem_writeItems next items).append (']' :: rest)).skipSpaces
      rw [hstart] at h
      obtain ⟨⟨v, after⟩, hv, h⟩ := exists_of_bind_eq_ok h
      simp only at h
      split at h
      · rename_i hafter
        obtain ⟨rfl, _⟩ := readValue_written item depth (hend _)
          (endsNumber_of_skipSpaces hafter (by decide)) hv
        cases hafter
      · rename_i behind hafter
        obtain ⟨rfl, hread⟩ := readValue_written item depth (hend _)
          (endsNumber_of_skipSpaces hafter (by decide)) hv
        cases hafter
        rw [hskip] at h
        obtain ⟨⟨more, last⟩, hmore, h⟩ := exists_of_bind_eq_ok h
        cases h
        obtain ⟨hlast, hitems⟩ := readItems_written next items depth hmore
        exact ⟨hlast, v, more, rfl, hread, hitems⟩
      · cases h

/-- The fields of an object are read up to its brace. -/
theorem readFields_written (key : Text) (value : Json) (fields : List (Text × Json)) (depth : Nat)
    {rest left : Text} {found : List (Text × Json)}
    (h : readFields depth (writeFields ((key, value) :: fields) ++ '\x7d' :: rest) =
      .ok (found, left)) :
    left = rest ∧ FieldsReadAs ((key, value) :: fields) found := by
  match depth, h with
  | depth + 1, h =>
    have hvalue := startsItem_write value
    match fields, h with
    | [], h =>
      have hend : EndsNumber ('\x7d' :: rest) := endsNumber_cons rest (by decide)
      rw [writeFields, List.append_assoc, readFields_field depth key (hvalue.append _)] at h
      obtain ⟨⟨v, after⟩, hv, h⟩ := exists_of_bind_eq_ok h
      simp only at h
      split at h
      · rename_i hafter
        cases h
        obtain ⟨rfl, hread⟩ := readValue_written value depth hend
          (endsNumber_of_skipSpaces hafter (by decide)) hv
        cases hafter
        exact ⟨rfl, v, [], rfl, hread, rfl⟩
      · rename_i hafter
        obtain ⟨rfl, _⟩ := readValue_written value depth hend
          (endsNumber_of_skipSpaces hafter (by decide)) hv
        cases hafter
      · cases h
    | (next, nextValue) :: fields, h =>
      have hstart : writeFields ((key, value) :: (next, nextValue) :: fields) ++ '\x7d' :: rest =
          writeString key ++ ": " ++ (write value ++ ',' :: ' ' ::
            (writeFields ((next, nextValue) :: fields) ++ '\x7d' :: rest)) := by
        simp [writeFields]
      have hend (t : Text) : EndsNumber (',' :: ' ' :: t) := endsNumber_cons _ (by decide)
      have hskip :
          skipSpaces (' ' :: (writeFields ((next, nextValue) :: fields) ++ '\x7d' :: rest)) =
            writeFields ((next, nextValue) :: fields) ++ '\x7d' :: rest := by
        obtain ⟨more, heq⟩ := writeFields_eq_cons next nextValue fields
        rw [heq]
        rfl
      rw [hstart, readFields_field depth key (hvalue.append _)] at h
      obtain ⟨⟨v, after⟩, hv, h⟩ := exists_of_bind_eq_ok h
      simp only at h
      split at h
      · rename_i hafter
        obtain ⟨rfl, _⟩ := readValue_written value depth (hend _)
          (endsNumber_of_skipSpaces hafter (by decide)) hv
        cases hafter
      · rename_i behind hafter
        obtain ⟨rfl, hread⟩ := readValue_written value depth (hend _)
          (endsNumber_of_skipSpaces hafter (by decide)) hv
        cases hafter
        rw [hskip] at h
        obtain ⟨⟨more, last⟩, hmore, h⟩ := exists_of_bind_eq_ok h
        cases h
        obtain ⟨hlast, hfields⟩ := readFields_written next nextValue fields depth hmore
        exact ⟨hlast, v, more, rfl, hread, hfields⟩
      · cases h

end

/-- What is read from the text of a value is the value, but for its doubles and repeated keys. -/
theorem isReadAs_of_read {v w : Json} (h : read (write v) = .ok w) : IsReadAs v w := by
  rw [read, (startsItem_write v).skipSpaces] at h
  obtain ⟨⟨found, left⟩, hfound, h⟩ := exists_of_bind_eq_ok h
  simp only at h
  split at h
  · rename_i hend
    cases h
    have hleft : EndsNumber left := by
      apply EndsNumber.of_skipSpaces
      rw [hend]
      exact endsNumber_nil
    rw [← List.append_nil (write v)] at hfound
    exact (readValue_written v _ endsNumber_nil hleft hfound).2
  · cases h

end HitListing.Json
