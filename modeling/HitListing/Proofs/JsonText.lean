import HitListing.Json.Shown
import HitListing.Proofs.DoubleText
import HitListing.Proofs.JsonString
import HitListing.Proofs.Numerals
import HitListing.Proofs.Utf8
import HitListing.StoredTable
import Mathlib.Algebra.Group.Nat.Defs

/-!
# Values in JSON

A value is read back from its text (`read_write`), if it holds no double and no
object with a key twice, and if no numeral in it is longer than the reader
takes.  A numeral that is too long is all that can go wrong.

The reader works with a bound on the depth.  Twice the length of what is still
to be read is enough (`readValue_write`).
-/

namespace HitListing.Json

/-! ## The values -/

mutual

/-- Whether a value holds no double, and no object with a key twice. -/
def IsSimple : Json → Prop
  | .real _ => False
  | .arr items => ItemsSimple items
  | .obj fields => (fields.map Prod.fst).Nodup ∧ FieldsSimple fields
  | _ => True

/-- Whether all items are simple. -/
def ItemsSimple : List Json → Prop
  | [] => True
  | item :: rest => IsSimple item ∧ ItemsSimple rest

/-- Whether the values of all fields are simple. -/
def FieldsSimple : List (Text × Json) → Prop
  | [] => True
  | (_, value) :: rest => IsSimple value ∧ FieldsSimple rest

end

theorem itemsSimple_iff {items : List Json} :
    ItemsSimple items ↔ ∀ item ∈ items, IsSimple item := by
  induction items with
  | nil => simp [ItemsSimple]
  | cons item items ih => rw [ItemsSimple, ih, List.forall_mem_cons]

theorem fieldsSimple_iff {fields : List (Text × Json)} :
    FieldsSimple fields ↔ ∀ field ∈ fields, IsSimple field.2 := by
  induction fields with
  | nil => simp [FieldsSimple]
  | cons field fields ih => rw [FieldsSimple, ih, List.forall_mem_cons]

theorem itemsFit_iff {items : List Json} :
    itemsFit items = true ↔ ∀ item ∈ items, numeralsFit item = true := by
  induction items with
  | nil => simp [itemsFit]
  | cons item items ih => rw [itemsFit, Bool.and_eq_true, ih, List.forall_mem_cons]

theorem fieldsFit_iff {fields : List (Text × Json)} :
    fieldsFit fields = true ↔ ∀ field ∈ fields, numeralsFit field.2 = true := by
  induction fields with
  | nil => simp [fieldsFit]
  | cons field fields ih => rw [fieldsFit, Bool.and_eq_true, ih, List.forall_mem_cons]

/-- An integer fits if it is below the power of ten that the reader's digits reach. -/
theorem numeralsFit_int_iff (n : Int) :
    numeralsFit (.int n) = true ↔ n.natAbs < 10 ^ maxDigits := by
  rw [numeralsFit, decide_eq_true_eq, Text.ofNat,
    Nat.length_toDigits_le_iff (by decide) (by decide)]

@[simp] theorem ifFits_bind {α β : Type} (fits : Bool) (result : α) (f : α → Except Fault β) :
    (ifFits fits result >>= f) = if fits then f result else .error .badValue := by
  cases fits <;> rfl

/-! ## Numbers -/

/-- Whether a numeral ends before a text: the text does not go on with it. -/
def EndsNumber (rest : Text) : Prop :=
  ∀ c ∈ rest.head?, c.isDigit = false ∧ c ≠ '.' ∧ c ≠ 'e' ∧ c ≠ 'E'

theorem endsNumber_nil : EndsNumber [] := by
  simp [EndsNumber]

theorem endsNumber_cons {c : Char} (rest : Text)
    (hc : c.isDigit = false ∧ c ≠ '.' ∧ c ≠ 'e' ∧ c ≠ 'E') : EndsNumber (c :: rest) := by
  intro d hd
  obtain rfl : c = d := by simpa using hd
  exact hc

theorem takeWhile_isDigit {digits rest : Text} (hdigits : ∀ c ∈ digits, c.isDigit = true)
    (hrest : ∀ c ∈ rest.head?, c.isDigit = false) :
    (digits ++ rest).takeWhile Char.isDigit = digits ∧
      (digits ++ rest).dropWhile Char.isDigit = rest := by
  rw [List.takeWhile_append_of_pos hdigits, List.dropWhile_append_of_pos hdigits]
  cases rest with
  | nil => simp
  | cons c rest =>
    have hc : ¬c.isDigit = true := by simp [hrest c rfl]
    rw [List.takeWhile_cons_of_neg hc, List.dropWhile_cons_of_neg hc, List.append_nil]
    exact ⟨rfl, rfl⟩

/-- The digits of a number begin with a digit, which is no zero if the number is none. -/
theorem exists_ofNat_eq_cons (n : Nat) :
    ∃ c digits, Text.ofNat n = c :: digits ∧ c.isDigit = true ∧ (0 < n → c ≠ '0') := by
  have hdigit : ∀ d : Fin 10, (d : Nat).digitChar.isDigit = true ∧
      (0 < (d : Nat) → (d : Nat).digitChar ≠ '0') := by decide
  rw [Text.ofNat]
  induction n using Nat.strongRecOn with
  | _ n ih =>
    by_cases hsmall : n < 10
    · rw [Nat.toDigits_of_lt_base hsmall]
      obtain ⟨hc, hzero⟩ := hdigit ⟨n, hsmall⟩
      exact ⟨_, [], rfl, hc, hzero⟩
    · obtain ⟨c, digits, heq, hc, hzero⟩ := ih (n / 10) (by omega)
      rw [Nat.toDigits_of_base_le (by decide) (by omega), heq]
      exact ⟨c, _, rfl, hc, fun _ => hzero (by omega)⟩

theorem readWhole?_ofNat (n : Nat) {rest : Text} (hrest : EndsNumber rest) :
    readWhole? (Text.ofNat n ++ rest) = some (Text.ofNat n, rest) := by
  rcases Nat.eq_zero_or_pos n with rfl | hn
  · rfl
  · obtain ⟨htake, hdrop⟩ := takeWhile_isDigit (fun c => Text.isDigit_of_mem_ofNat (n := n))
      fun c hc => (hrest c hc).1
    obtain ⟨c, digits, heq, _, hzero⟩ := exists_ofNat_eq_cons n
    rw [heq] at htake hdrop ⊢
    rw [readWhole?.eq_def]
    split
    · rename_i behind h
      injection h with h _
      exact absurd h (hzero hn)
    · rw [htake, hdrop]

theorem readFraction_of_head {rest : Text} (h : ∀ c ∈ rest.head?, c ≠ '.') :
    readFraction rest = ([], rest) := by
  rw [readFraction.eq_def]
  split
  · exact absurd rfl (h '.' rfl)
  · rfl

theorem readExponent?_of_head {rest : Text} (h : ∀ c ∈ rest.head?, c ≠ 'e' ∧ c ≠ 'E') :
    readExponent? rest = none := by
  rw [readExponent?.eq_def]
  split
  · rename_i c behind
    obtain ⟨hsmall, hcapital⟩ := h c rfl
    exact if_neg (not_or.mpr ⟨hsmall, hcapital⟩)
  · rfl

/-- The digits of a number read as that number with its sign. -/
theorem readNumber_ofNat (negative : Bool) (n : Nat) {rest : Text} (hrest : EndsNumber rest) :
    readNumber negative (Text.ofNat n ++ rest) =
      ifFits ((Text.ofNat n).length ≤ maxDigits)
        (.int (if negative then -(n : Int) else n), rest) := by
  have hfraction := readFraction_of_head fun c hc => (hrest c hc).2.1
  have hexponent := readExponent?_of_head fun c hc => (hrest c hc).2.2
  rw [readNumber, readWhole?_ofNat n hrest]
  simp only [hfraction, hexponent, Text.ofDigits_ofNat, ifFits, decide_eq_true_eq]

/-! ## Values without parts -/

theorem stripPrefix?_cons_of_ne {a c : Char} (start t : Text) (h : a ≠ c) :
    stripPrefix? (a :: start) (c :: t) = none := by
  rw [stripPrefix?, if_neg]
  simp [List.isPrefixOf, h]

theorem ne_of_isDigit {a c : Char} (hc : c.isDigit = true) (ha : a.isDigit = false) : a ≠ c := by
  rintro rfl
  rw [ha] at hc
  cases hc

theorem names_findSome?_eq_none {t : Text}
    (h : ∀ field ∈ names, stripPrefix? field.1 t = none) :
    (names.findSome? fun (name, value) => (stripPrefix? name t).map fun rest => (value, rest)) =
      none := by
  rw [List.findSome?_eq_none_iff]
  intro field hfield
  rw [Option.map_eq_none_iff]
  exact h field hfield

/-- A text that begins with a digit begins with no name. -/
theorem readAtom_cons {c : Char} (hc : c.isDigit = true) (rest : Text) :
    readAtom (c :: rest) = readNumber false (c :: rest) := by
  have hnames : ∀ field ∈ names, stripPrefix? field.1 (c :: rest) = none := by
    intro field hfield
    simp only [names, List.mem_cons, List.not_mem_nil, or_false] at hfield
    rcases hfield with rfl | rfl | rfl | rfl | rfl | rfl <;>
      exact stripPrefix?_cons_of_ne _ _ (ne_of_isDigit hc rfl)
  rw [readAtom.eq_def]
  simp only [names_findSome?_eq_none hnames]
  split
  · rename_i h
    injection h with h _
    exact absurd h.symm (ne_of_isDigit hc rfl)
  · rfl

/-- Neither does one that begins with a minus and a digit. -/
theorem readAtom_minus {c : Char} (hc : c.isDigit = true) (rest : Text) :
    readAtom ('-' :: c :: rest) = readNumber true (c :: rest) := by
  have hnames : ∀ field ∈ names, stripPrefix? field.1 ('-' :: c :: rest) = none := by
    intro field hfield
    simp only [names, List.mem_cons, List.not_mem_nil, or_false] at hfield
    rcases hfield with rfl | rfl | rfl | rfl | rfl | rfl
    case inr.inr.inr.inr.inr =>
      have hne : 'I' ≠ c := ne_of_isDigit hc rfl
      rw [stripPrefix?, if_neg]
      simp [List.isPrefixOf, hne]
    all_goals exact stripPrefix?_cons_of_ne _ _ (by decide)
  rw [readAtom.eq_def]
  simp only [names_findSome?_eq_none hnames]

theorem readAtom_ofInt (n : Int) {rest : Text} (hrest : EndsNumber rest) :
    readAtom (Text.ofInt n ++ rest) = ifFits (numeralsFit (.int n)) (.int n, rest) := by
  cases n with
  | ofNat n =>
    obtain ⟨c, digits, heq, hc, _⟩ := exists_ofNat_eq_cons n
    have hread := readNumber_ofNat false n hrest
    rw [Text.ofInt, numeralsFit, heq, List.cons_append, readAtom_cons hc]
    rw [heq, List.cons_append] at hread
    rw [hread]
    simp [heq]
  | negSucc n =>
    obtain ⟨c, digits, heq, hc, _⟩ := exists_ofNat_eq_cons (n + 1)
    have hread := readNumber_ofNat true (n + 1) hrest
    rw [Text.ofInt, numeralsFit, heq, List.cons_append, List.cons_append, readAtom_minus hc]
    rw [heq, List.cons_append] at hread
    have habs : (Int.negSucc n).natAbs = n + 1 := rfl
    rw [hread, habs, heq]
    rfl

/-! ## Lists and objects -/

/-- Whether a text begins with neither a space nor a closing bracket. -/
def StartsItem (t : Text) : Prop :=
  ∃ c rest, t = c :: rest ∧ isSpace c = false ∧ c ≠ ']'

theorem StartsItem.append {t : Text} (h : StartsItem t) (rest : Text) : StartsItem (t ++ rest) := by
  obtain ⟨c, tail, rfl, hc⟩ := h
  exact ⟨c, tail ++ rest, rfl, hc⟩

theorem StartsItem.skipSpaces {t : Text} (h : StartsItem t) : skipSpaces t = t := by
  obtain ⟨c, rest, rfl, hspace, _⟩ := h
  exact List.dropWhile_cons_of_neg (by simp [hspace])

theorem startsItem_of_isDigit {c : Char} (hc : c.isDigit = true) (rest : Text) :
    StartsItem (c :: rest) := by
  refine ⟨c, rest, rfl, ?_, (ne_of_isDigit hc rfl).symm⟩
  have h1 : c ≠ ' ' := (ne_of_isDigit hc rfl).symm
  have h2 : c ≠ '\t' := (ne_of_isDigit hc rfl).symm
  have h3 : c ≠ '\n' := (ne_of_isDigit hc rfl).symm
  have h4 : c ≠ '\r' := (ne_of_isDigit hc rfl).symm
  simp [isSpace, h1, h2, h3, h4]

/-- A double begins with a digit, with a minus, or with the name that it goes by. -/
theorem exists_writeReal_eq_cons (x : Binary64) :
    ∃ c rest, writeReal x = c :: rest ∧ (c.isDigit = true ∨ c ∈ ['-', 'N', 'I']) := by
  have hnamed {c : Char} {rest : Text} (hc : c ∈ ['-', 'N', 'I']) :
      ∃ d behind, c :: rest = d :: behind ∧ (d.isDigit = true ∨ d ∈ ['-', 'N', 'I']) :=
    ⟨c, rest, rfl, Or.inr hc⟩
  cases x with
  | finite q =>
    rcases Binary64.isNumeral_writeFinite q with hnumeral | ⟨t, ht, _⟩
    · obtain ⟨c, rest, heq, hc⟩ := hnumeral.exists_cons
      exact ⟨c, rest, heq, Or.inl hc⟩
    · exact ⟨'-', t, ht, Or.inr (by decide)⟩
  | negativeZero => exact hnamed (by decide)
  | infinity negative => cases negative <;> exact hnamed (by decide)
  | nan => exact hnamed (by decide)

/-- A value is written from its first character on. -/
theorem startsItem_write (v : Json) : StartsItem (write v) := by
  have hstart {c : Char} {rest : Text} (hc : isSpace c = false ∧ c ≠ ']') :
      StartsItem (c :: rest) := ⟨c, rest, rfl, hc⟩
  cases v with
  | null => exact hstart (by decide)
  | bool b => cases b <;> exact hstart (by decide)
  | int n =>
    cases n with
    | ofNat n =>
      obtain ⟨c, digits, heq, hc, _⟩ := exists_ofNat_eq_cons n
      rw [write, Text.ofInt, heq]
      exact startsItem_of_isDigit hc digits
    | negSucc n => exact hstart (by decide)
  | real x =>
    have hnames : ∀ c ∈ ['-', 'N', 'I'], isSpace c = false ∧ c ≠ ']' := by simp [isSpace]
    obtain ⟨c, rest, heq, hc⟩ := exists_writeReal_eq_cons x
    rw [write, heq]
    rcases hc with hc | hc
    · exact startsItem_of_isDigit hc rest
    · exact hstart (hnames c hc)
  | str t => exact hstart (by decide)
  | arr items => exact hstart (by decide)
  | obj fields => exact hstart (by decide)

theorem write_length_pos (v : Json) : 0 < (write v).length := by
  obtain ⟨c, rest, heq, _⟩ := startsItem_write v
  rw [heq]
  exact Nat.succ_pos _

theorem startsItem_writeItems (item : Json) (items : List Json) :
    StartsItem (writeItems (item :: items)) := by
  cases items with
  | nil => exact startsItem_write item
  | cons next items =>
    rw [writeItems]
    · exact ((startsItem_write item).append _).append _
    · exact nofun

theorem readValue_bracket (depth : Nat) (t : Text) :
    readValue (depth + 1) ('[' :: t) =
      match skipSpaces t with
      | ']' :: rest => .ok (.arr [], rest)
      | rest => readItems depth rest >>= fun (items, rest) => .ok (.arr items, rest) := rfl

/-- A list that is not empty is read item by item. -/
theorem readValue_list (depth : Nat) {t : Text} (ht : StartsItem t) :
    readValue (depth + 1) ('[' :: t) =
      readItems depth t >>= fun (items, rest) => .ok (.arr items, rest) := by
  obtain ⟨c, rest, rfl, hspace, hbracket⟩ := ht
  have hskip : skipSpaces (c :: rest) = c :: rest :=
    List.dropWhile_cons_of_neg (by simp [hspace])
  rw [readValue_bracket, hskip]
  split
  · rename_i h
    injection h with h _
    exact absurd h hbracket
  · rfl

theorem readItems_succ (depth : Nat) (t : Text) :
    readItems (depth + 1) t = readValue depth t >>= fun (item, rest) =>
      match skipSpaces rest with
      | ']' :: rest => .ok ([item], rest)
      | ',' :: rest =>
        readItems depth (skipSpaces rest) >>= fun (items, rest) => .ok (item :: items, rest)
      | _ => .error .badJson := rfl

theorem readFields_quote (depth : Nat) (t : Text) :
    readFields (depth + 1) ('"' :: t) =
      readString t >>= fun (key, rest) =>
        match skipSpaces rest with
        | ':' :: rest =>
          readValue depth (skipSpaces rest) >>= fun (value, rest) =>
            match skipSpaces rest with
            | '\x7d' :: rest => .ok ([(key, value)], rest)
            | ',' :: rest =>
              readFields depth (skipSpaces rest) >>= fun (fields, rest) =>
                .ok ((key, value) :: fields, rest)
            | _ => .error .badJson
        | _ => .error .badJson := rfl

/-- A field is read as its key and then its value, which a space may stand before. -/
theorem readFields_field (depth : Nat) (key : Text) {t : Text} (ht : StartsItem t) :
    readFields (depth + 1) (writeString key ++ ": " ++ t) =
      readValue depth t >>= fun (value, rest) =>
        match skipSpaces rest with
        | '\x7d' :: rest => .ok ([(key, value)], rest)
        | ',' :: rest =>
          readFields depth (skipSpaces rest) >>= fun (fields, rest) =>
            .ok ((key, value) :: fields, rest)
        | _ => .error .badJson := by
  have hstart : writeString key ++ ": " ++ t =
      '"' :: (key.flatMap escapeChar ++ '"' :: ':' :: ' ' :: t) := by
    simp [writeString]
  have hcolon : skipSpaces (':' :: ' ' :: t) = ':' :: ' ' :: t := rfl
  have hspace : skipSpaces (' ' :: t) = t := ht.skipSpaces
  rw [hstart, readFields_quote, readString_write]
  simp only [bind, Except.bind, hcolon, hspace]

theorem setField_eq_append {fields : List (Text × Json)} {key : Text}
    (h : key ∉ fields.map Prod.fst) (value : Json) :
    setField fields key value = fields ++ [(key, value)] := by
  induction fields with
  | nil => rfl
  | cons field fields ih =>
    rw [List.map_cons, List.mem_cons, not_or] at h
    rw [setField, if_neg (Ne.symm h.1), ih h.2]
    rfl

theorem foldl_setField (before : List (Text × Json)) {fields : List (Text × Json)}
    (h : ((before ++ fields).map Prod.fst).Nodup) :
    fields.foldl (fun all (k, v) => setField all k v) before = before ++ fields := by
  induction fields generalizing before with
  | nil => simp
  | cons field fields ih =>
    obtain ⟨key, value⟩ := field
    have hkey : key ∉ before.map Prod.fst := by
      rw [List.map_append, List.nodup_append] at h
      intro hmem
      exact h.2.2 key hmem key (by simp) rfl
    rw [List.foldl_cons]
    simp only
    rw [setField_eq_append hkey, ih _ (by simpa using h), List.append_assoc, List.singleton_append]

/-- Fields with distinct keys make the object with these fields. -/
theorem ofFields_eq {fields : List (Text × Json)} (h : (fields.map Prod.fst).Nodup) :
    ofFields fields = .obj fields := by
  rw [ofFields, foldl_setField [] h, List.nil_append]

/-! ## Values -/

/-- What begins with no quote and no opening bracket is no string, no list and no object. -/
theorem readValue_cons (depth : Nat) {c : Char} (hc : c ≠ '"' ∧ c ≠ '[' ∧ c ≠ '\x7b')
    (rest : Text) : readValue (depth + 1) (c :: rest) = readAtom (c :: rest) := by
  obtain ⟨hquote, hbracket, hbrace⟩ := hc
  rw [readValue.eq_def]
  simp only
  split
  · rename_i h
    injection h with h _
    exact absurd h hquote
  · rename_i h
    injection h with h _
    exact absurd h hbracket
  · rename_i h
    injection h with h _
    exact absurd h hbrace
  · rfl

theorem readValue_digit (depth : Nat) {c : Char} (hc : c.isDigit = true) (rest : Text) :
    readValue (depth + 1) (c :: rest) = readAtom (c :: rest) :=
  readValue_cons depth
    ⟨(ne_of_isDigit hc rfl).symm, (ne_of_isDigit hc rfl).symm, (ne_of_isDigit hc rfl).symm⟩ rest

theorem readValue_ofInt (depth n) {rest : Text} (hrest : EndsNumber rest) :
    readValue (depth + 1) (Text.ofInt n ++ rest) =
      ifFits (numeralsFit (.int n)) (.int n, rest) := by
  rw [← readAtom_ofInt n hrest]
  cases n with
  | ofNat n =>
    obtain ⟨c, digits, heq, hc, _⟩ := exists_ofNat_eq_cons n
    rw [Text.ofInt, heq]
    exact readValue_digit depth hc _
  | negSucc n => rfl

theorem writeFields_eq_cons (key : Text) (value : Json) (fields : List (Text × Json)) :
    ∃ rest, writeFields ((key, value) :: fields) = '"' :: rest := by
  cases fields with
  | nil => exact ⟨_, rfl⟩
  | cons next fields => exact ⟨_, rfl⟩

mutual

/-- A value is read from its text, whatever follows, if the bound leaves two for
every character. -/
theorem readValue_write (v : Json) (depth : Nat) {rest : Text} (hv : IsSimple v)
    (hrest : EndsNumber rest) (hdepth : 2 * (write v).length ≤ depth) :
    readValue depth (write v ++ rest) = ifFits (numeralsFit v) (v, rest) := by
  have hpos := write_length_pos v
  match depth, hdepth with
  | 0, _ => omega
  | depth + 1, hdepth =>
    match v with
    | .null => rfl
    | .bool true => rfl
    | .bool false => rfl
    | .int n => exact readValue_ofInt depth n hrest
    | .real x => exact absurd hv (by simp [IsSimple])
    | .str t =>
      have hstart : write (.str t) ++ rest = '"' :: (t.flatMap escapeChar ++ '"' :: rest) := by
        simp [write, writeString]
      have hread : readValue (depth + 1) ('"' :: (t.flatMap escapeChar ++ '"' :: rest)) =
          readString (t.flatMap escapeChar ++ '"' :: rest) >>=
            fun (t, rest) => .ok (.str t, rest) := rfl
      rw [hstart, hread, readString_write]
      rfl
    | .arr [] => rfl
    | .arr (item :: items) =>
      have hstart : write (.arr (item :: items)) ++ rest =
          '[' :: (writeItems (item :: items) ++ ']' :: rest) := by
        simp [write]
      rw [IsSimple] at hv
      rw [write, List.length_append, List.length_cons, List.length_singleton] at hdepth
      rw [hstart, readValue_list depth ((startsItem_writeItems item items).append _),
        readItems_write item items depth hv (by omega), ifFits_bind]
      rfl
    | .obj [] => rfl
    | .obj ((key, value) :: fields) =>
      obtain ⟨rest', hfields⟩ := writeFields_eq_cons key value fields
      have hstart : write (.obj ((key, value) :: fields)) ++ rest =
          '\x7b' :: (writeFields ((key, value) :: fields) ++ '\x7d' :: rest) := by
        simp [write]
      have hread (t : Text) : readValue (depth + 1) ('\x7b' :: '"' :: t) =
          readFields depth ('"' :: t) >>= fun (fields, rest) => .ok (ofFields fields, rest) := rfl
      rw [IsSimple] at hv
      rw [write, List.length_append, List.length_cons, List.length_singleton] at hdepth
      have hinner := readFields_write key value fields depth rest hv.2 (by omega)
      rw [hfields, List.cons_append] at hinner
      rw [hstart, hfields, List.cons_append, hread, hinner, ifFits_bind]
      simp only [ofFields_eq hv.1, numeralsFit, ifFits]
      rfl

/-- The items of a list are read up to its bracket. -/
theorem readItems_write (item : Json) (items : List Json) (depth : Nat) {rest : Text}
    (h : ItemsSimple (item :: items))
    (hdepth : 2 * (writeItems (item :: items)).length + 1 ≤ depth) :
    readItems depth (writeItems (item :: items) ++ ']' :: rest) =
      ifFits (itemsFit (item :: items)) (item :: items, rest) := by
  match depth, hdepth with
  | depth + 1, hdepth =>
    rw [ItemsSimple] at h
    match items with
    | [] =>
      have hbracket : EndsNumber (']' :: rest) := endsNumber_cons rest (by decide)
      rw [writeItems] at hdepth ⊢
      rw [readItems_succ, readValue_write item depth h.1 hbracket (by omega), ifFits_bind]
      simp only [itemsFit, Bool.and_true, ifFits]
      rfl
    | next :: items =>
      have hend (t : Text) : EndsNumber (',' :: ' ' :: t) := endsNumber_cons _ (by decide)
      have hstart : writeItems (item :: next :: items) ++ ']' :: rest =
          write item ++ ',' :: ' ' :: (writeItems (next :: items) ++ ']' :: rest) := by
        simp [writeItems]
      have hnext := (startsItem_writeItems next items).append (']' :: rest)
      have hskip : skipSpaces (' ' :: (writeItems (next :: items) ++ ']' :: rest)) =
          writeItems (next :: items) ++ ']' :: rest := hnext.skipSpaces
      have hlength : (writeItems (item :: next :: items)).length =
          (write item).length + ((writeItems (next :: items)).length + 2) := by
        simp [writeItems]
      have hpos := write_length_pos item
      rw [hstart, readItems_succ, readValue_write item depth h.1 (hend _) (by omega), ifFits_bind,
        itemsFit]
      cases numeralsFit item with
      | false => rfl
      | true =>
        have hcomma (t : Text) : skipSpaces (',' :: t) = ',' :: t := rfl
        rw [if_pos rfl]
        simp only [hcomma, hskip]
        rw [readItems_write next items depth h.2 (by omega), ifFits_bind, Bool.true_and]
        rfl

/-- The fields of an object are read up to its brace. -/
theorem readFields_write (key : Text) (value : Json) (fields : List (Text × Json)) (depth : Nat)
    (rest : Text) (h : FieldsSimple ((key, value) :: fields))
    (hdepth : 2 * (writeFields ((key, value) :: fields)).length + 1 ≤ depth) :
    readFields depth (writeFields ((key, value) :: fields) ++ '\x7d' :: rest) =
      ifFits (fieldsFit ((key, value) :: fields)) ((key, value) :: fields, rest) := by
  match depth, hdepth with
  | depth + 1, hdepth =>
    rw [FieldsSimple] at h
    have hvalue := startsItem_write value
    have hpos := write_length_pos value
    match fields with
    | [] =>
      have hbrace : EndsNumber ('\x7d' :: rest) := endsNumber_cons rest (by decide)
      have hlength : (writeFields [(key, value)]).length =
          (writeString key).length + 2 + (write value).length := by
        rw [writeFields, List.length_append, List.length_append]
        rfl
      rw [writeFields, List.append_assoc, readFields_field depth key (hvalue.append _),
        readValue_write value depth h.1 hbrace (by omega), ifFits_bind]
      simp only [fieldsFit, Bool.and_true, ifFits]
      rfl
    | (next, nextValue) :: fields =>
      have hend (t : Text) : EndsNumber (',' :: ' ' :: t) := endsNumber_cons _ (by decide)
      have hstart : writeFields ((key, value) :: (next, nextValue) :: fields) ++ '\x7d' :: rest =
          writeString key ++ ": " ++ (write value ++ ',' :: ' ' ::
            (writeFields ((next, nextValue) :: fields) ++ '\x7d' :: rest)) := by
        simp [writeFields]
      have hskip :
          skipSpaces (' ' :: (writeFields ((next, nextValue) :: fields) ++ '\x7d' :: rest)) =
            writeFields ((next, nextValue) :: fields) ++ '\x7d' :: rest := by
        obtain ⟨rest', heq⟩ := writeFields_eq_cons next nextValue fields
        rw [heq]
        rfl
      have hlength : (writeFields ((key, value) :: (next, nextValue) :: fields)).length =
          (writeString key).length + 2 + (write value).length + 2 +
            (writeFields ((next, nextValue) :: fields)).length := by
        rw [writeFields, List.length_append, List.length_append, List.length_append,
          List.length_append]
        · rfl
        · exact nofun
      rw [hstart, readFields_field depth key (hvalue.append _),
        readValue_write value depth h.1 (hend _) (by omega), ifFits_bind, fieldsFit]
      cases numeralsFit value with
      | false => rfl
      | true =>
        have hcomma (t : Text) : skipSpaces (',' :: t) = ',' :: t := rfl
        rw [if_pos rfl]
        simp only [hcomma, hskip]
        rw [readFields_write next nextValue fields depth rest h.2 (by omega), ifFits_bind,
          Bool.true_and]
        rfl

end

/-- A value is read back from its text, if its numerals fit. -/
theorem read_write {v : Json} (hv : IsSimple v) : read (write v) = ifFits (numeralsFit v) v := by
  have hread := readValue_write v (2 * (write v).length + 2) hv endsNumber_nil (by omega)
  rw [List.append_nil] at hread
  rw [read, (startsItem_write v).skipSpaces, hread, ifFits_bind]
  cases numeralsFit v <;> rfl

/-- A value is read back from the bytes of its text, if its numerals fit. -/
theorem ofBytes_encode_write {v : Json} (hv : IsSimple v) :
    Json.ofBytes (Utf8.encode (write v)) = ifFits (numeralsFit v) v := by
  rw [Json.ofBytes, Utf8.decode?_encode]
  exact read_write hv

end HitListing.Json
