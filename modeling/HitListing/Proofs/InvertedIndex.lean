import HitListing.Proofs.JsonText
import HitListing.Proofs.Positions
import HitListing.Proofs.ValueOrder

/-!
# The stored index of a text

The bytes that the positions of a text are stored as hold two tables, and these
are the inverted index of the text: the lines that hold a word under their
numbers, and the words of the whole text with the numbers of their lines
(`Positions.exists_isInvertedIndex`).

The bytes are read back if no line number has more digits than the reader takes.
-/

namespace HitListing

/-- Whether two tables are the inverted index of a text: its words in lower case with the numbers
of their lines, and the lines that hold a word. -/
structure IsInvertedIndex (t : Text) (terms lines : List (Text × Json)) : Prop where
  distinctTerms : (terms.map Prod.fst).Nodup
  distinctLines : (lines.map Prod.fst).Nodup
  /-- A line stands as it is under its number, if it holds a word. -/
  mem_lines : ∀ key value, (key, value) ∈ lines ↔
    ∃ n line, key = Text.ofNat n ∧ value = .str line ∧ IsIndexLine t n line ∧ words line ≠ []
  /-- The words are those of the text as a whole. -/
  mem_terms : ∀ word, word ∈ terms.map Prod.fst ↔ word ∈ (words t).map lower
  /-- A word has the numbers of all lines that it is a word of, in order. -/
  numbers : ∀ word value, (word, value) ∈ terms → ∃ numbers : List Nat,
    value = .arr (numbers.map Json.ofNat) ∧ numbers.Pairwise (· < ·) ∧
      ∀ n, n ∈ numbers ↔ ∃ line, IsIndexLine t n line ∧ word ∈ (words line).map lower
  /-- The numbers of all words together are those of the lines. -/
  occurs_iff : ∀ n, (∃ word numbers, (word, Json.arr numbers) ∈ terms ∧ Json.ofNat n ∈ numbers) ↔
    Text.ofNat n ∈ lines.map Prod.fst

namespace Positions

/-! ## Reading the tables back -/

/-- The stored tables hold lists, numbers and texts, and no key twice. -/
theorem isSimple_toJson (t : Text) : (ofText t).toJson.IsSimple := by
  have hterms : Json.FieldsSimple (ofText t).termFields := by
    rw [Json.fieldsSimple_iff]
    rintro ⟨word, value⟩ hfield
    obtain ⟨_, rfl⟩ := mem_termFields.mp hfield
    rw [Json.IsSimple, Json.itemsSimple_iff, List.forall_mem_map]
    intro n _
    trivial
  have hlines : Json.FieldsSimple (ofText t).lineFields := by
    rw [Json.fieldsSimple_iff]
    rintro ⟨key, value⟩ hfield
    obtain ⟨n, line, _, rfl, _⟩ := mem_lineFields.mp hfield
    trivial
  have hdistinct {fields : List (Text × Json)} (h : fields.Pairwise fun a b => a.1 ≠ b.1) :
      (fields.map Prod.fst).Nodup := List.pairwise_map.mpr h
  rw [toJson_eq]
  have hnames : ["terms".toList, "lines".toList].Nodup := by decide
  exact ⟨hnames, ⟨hdistinct (termFields_distinct t), hterms⟩,
    ⟨hdistinct (lineFields_distinct t), hlines⟩, trivial⟩

/-- The stored numerals are the numbers of the lines that hold a word. -/
theorem numeralsFit_toJson_iff (t : Text) :
    (ofText t).toJson.numeralsFit = true ↔
      ∀ n line, IsIndexLine t n line → words line ≠ [] → n < 10 ^ maxDigits := by
  -- the lines are stored as texts, so that only the terms hold numerals
  have hlines : Json.fieldsFit (ofText t).lineFields = true := by
    rw [Json.fieldsFit_iff]
    rintro ⟨key, value⟩ hfield
    obtain ⟨n, line, _, rfl, _⟩ := mem_lineFields.mp hfield
    rfl
  have hfields : (ofText t).toJson.numeralsFit = Json.fieldsFit (ofText t).termFields := by
    rw [toJson_eq, Json.numeralsFit, Json.fieldsFit, Json.fieldsFit, Json.fieldsFit,
      Json.numeralsFit, Json.numeralsFit, hlines, Bool.true_and, Bool.and_true]
  rw [hfields, Json.fieldsFit_iff]
  constructor
  · intro h n line hline hne
    obtain ⟨word, hn⟩ := exists_mem_lineNumbers_iff.mpr ⟨line, hline, hne⟩
    have hfit := h _ (mem_termFields.mpr ⟨List.ne_nil_of_mem hn, rfl⟩)
    rw [Json.numeralsFit, Json.itemsFit_iff, List.forall_mem_map] at hfit
    exact (Json.numeralsFit_int_iff n).mp (hfit n hn)
  · rintro h ⟨word, value⟩ hfield
    obtain ⟨_, rfl⟩ := mem_termFields.mp hfield
    rw [Json.numeralsFit, Json.itemsFit_iff, List.forall_mem_map]
    intro n hn
    obtain ⟨line, hline, hne⟩ := exists_mem_lineNumbers_iff.mp ⟨word, hn⟩
    exact (Json.numeralsFit_int_iff n).mpr (h n line hline hne)

/-- The index of a text is read back with its two tables. -/
theorem ofBytes_encode {t : Text} (h : (indexLines t).length < 10 ^ maxDigits) :
    Json.ofBytes (ofText t).encode = .ok (ofText t).toJson := by
  have hfits : (ofText t).toJson.numeralsFit = true := by
    rw [numeralsFit_toJson_iff]
    exact fun n line hline _ => Nat.lt_of_le_of_lt hline.le_length h
  rw [encode, Json.ofBytes_encode_write (isSimple_toJson t), hfits]
  rfl

/-! ## The tables -/

/-- The tables that are stored are the inverted index. -/
theorem isInvertedIndex_ofText (t : Text) :
    IsInvertedIndex t (ofText t).termFields (ofText t).lineFields where
  distinctTerms := List.pairwise_map.mpr (termFields_distinct t)
  distinctLines := List.pairwise_map.mpr (lineFields_distinct t)
  mem_lines key value := mem_lineFields
  mem_terms word := mem_keys_termFields
  numbers word value hfield := by
    obtain ⟨_, rfl⟩ := mem_termFields.mp hfield
    exact ⟨lineNumbers t word, rfl, lineNumbers_pairwise t word, fun n => mem_lineNumbers⟩
  occurs_iff n := by
    rw [List.mem_map]
    constructor
    · intro h
      obtain ⟨word, numbers, hfield, hn⟩ := h
      obtain ⟨_, hvalue⟩ := mem_termFields.mp hfield
      obtain rfl := Json.arr.inj hvalue
      obtain ⟨k, hk, hsame⟩ := List.mem_map.mp hn
      obtain rfl : k = n := Int.ofNat.inj (Json.int.inj hsame)
      obtain ⟨line, hline, hne⟩ := exists_mem_lineNumbers_iff.mp ⟨word, hk⟩
      exact ⟨_, mem_lineFields.mpr ⟨k, line, rfl, rfl, hline, hne⟩, rfl⟩
    · intro h
      obtain ⟨⟨key, value⟩, hfield, hkey⟩ := h
      obtain ⟨k, line, rfl, rfl, hline, hne⟩ := mem_lineFields.mp hfield
      obtain rfl := Text.ofNat_injective hkey
      obtain ⟨word, hn⟩ := exists_mem_lineNumbers_iff.mpr ⟨line, hline, hne⟩
      exact ⟨word, _, mem_termFields.mpr ⟨List.ne_nil_of_mem hn, rfl⟩,
        List.mem_map_of_mem (f := Json.ofNat) hn⟩

/-- The stored bytes of a text hold its inverted index, and are read back as that unless a line
that holds a word has a number of too many digits. -/
theorem exists_isInvertedIndex (t : Text) :
    ∃ terms lines, IsInvertedIndex t terms lines ∧
      (Json.ofBytes (ofText t).encode =
          .ok (.obj [("terms", .obj terms), ("lines", .obj lines)]) ↔
        ∀ n line, IsIndexLine t n line → words line ≠ [] → n < 10 ^ maxDigits) := by
  refine ⟨(ofText t).termFields, (ofText t).lineFields, isInvertedIndex_ofText t, ?_⟩
  rw [← toJson_eq, encode, Json.ofBytes_encode_write (isSimple_toJson t),
    ← numeralsFit_toJson_iff]
  cases (ofText t).toJson.numeralsFit <;> simp [Json.ifFits]

end Positions

end HitListing
