import HitListing.Proofs.JsonAscii
import HitListing.Proofs.TableRows

/-!
# Stored tables are read back

A definition table that is stored and read back is the same table
(`Definitions.deserialize_serialize`), its rows by line included, and so is a
scope table (`Scopes.deserialize_serialize`), unless one of their numerals is
longer than the reader takes.  What is stored is ASCII.
-/

namespace HitListing

/-- A list of rows is read back item by item. -/
theorem Json.ofBytes_encode_rows {α : Type} {toJson : α → Json} {rows : List α}
    (hsimple : ∀ row ∈ rows, (toJson row).IsSimple)
    (hfits : ∀ row ∈ rows, (toJson row).numeralsFit = true) :
    Json.ofBytes (Utf8.encode (Json.arr (rows.map toJson)).write) =
      .ok (.arr (rows.map toJson)) := by
  have hsimple' : IsSimple (.arr (rows.map toJson)) := by
    rw [IsSimple, itemsSimple_iff, List.forall_mem_map]
    exact hsimple
  have hfits' : numeralsFit (.arr (rows.map toJson)) = true := by
    rw [numeralsFit, itemsFit_iff, List.forall_mem_map]
    exact hfits
  rw [ofBytes_encode_write hsimple', hfits']
  rfl

/-- A list of rows is stored in ASCII. -/
theorem Json.isAscii_write_rows {α : Type} {toJson : α → Json} {rows : List α}
    (hsimple : ∀ row ∈ rows, (toJson row).IsSimple) :
    (Json.arr (rows.map toJson)).write.IsAscii := by
  apply isAscii_write
  rw [IsSimple, itemsSimple_iff, List.forall_mem_map]
  exact hsimple

/-! ## Definition tables -/

namespace Definition

/-- Whether a definition can be stored and read back: its line can be a key, and its members hold
no double, no key twice and no numeral that is too long. -/
structure IsStorable (d : Definition) : Prop where
  line : d.line.isScalar = true
  simple : d.toJson.IsSimple
  fits : d.toJson.numeralsFit = true

theorem ofJson_toJson (d : Definition) : ofJson d.toJson = .ok d := rfl

/-- A regular definition can be stored, unless its line number is too long. -/
theorem IsRegular.isStorable {d : Definition} (h : d.IsRegular)
    (hfits : d.toJson.numeralsFit = true) : d.IsStorable := by
  obtain ⟨⟨n, hline⟩, ⟨symbol, hsymbol⟩, ⟨type, htype⟩, text, htext⟩ := h
  have hkeys : (["line", "symbol", "type", "text"].map String.toList).Nodup := by decide
  refine ⟨by rw [hline]; rfl, ?_, hfits⟩
  rw [toJson, hline, hsymbol, htype, htext]
  exact ⟨hkeys, trivial, trivial, trivial, trivial, trivial⟩

end Definition

namespace Definitions

/-- Rows whose lines can be keys make a table. -/
theorem exists_ofRows {rows : List Definition} (h : ∀ d ∈ rows, d.line.isScalar = true) :
    ∃ table, ofRows rows = .ok table ∧ table.rows = rows := by
  have hlines : rows.find? (fun row => !row.line.isScalar) = none := by
    rw [List.find?_eq_none]
    intro d hd
    simp [h d hd]
  refine ⟨⟨rows, rows.foldl (fun index row => insertByLine row index) []⟩, ?_, rfl⟩
  rw [ofRows, hlines]

/-- A stored table is read back as it was. -/
theorem deserialize_serialize {rows : List Definition} {table : Definitions}
    (htable : ofRows rows = .ok table) (h : ∀ d ∈ rows, d.IsStorable) :
    deserialize (Utf8.encode table.serialize) = .ok table := by
  obtain ⟨same, hsame, hrows⟩ := exists_ofRows fun d hd => (h d hd).line
  obtain rfl : same = table := Except.ok.inj (hsame.symm.trans htable)
  have hread : Json.ofBytes (Utf8.encode same.serialize) = .ok (.arr (rows.map (·.toJson))) := by
    rw [serialize, hrows]
    exact Json.ofBytes_encode_rows (fun d hd => (h d hd).simple) fun d hd => (h d hd).fits
  have hparts : (rows.map (·.toJson)).mapM Definition.ofJson = .ok rows :=
    mapM_map_eq_self rows Definition.ofJson_toJson
  rw [deserialize, hread]
  simp only [bind, Except.bind, hparts, htable]
  rfl

/-- A stored table is read back with all its rows. -/
theorem exists_deserialize_serialize {table : Definitions} (h : ∀ d ∈ table.rows, d.IsStorable) :
    ∃ stored, deserialize (Utf8.encode table.serialize) = .ok stored ∧
      stored.rows = table.rows := by
  obtain ⟨stored, hstored, hrows⟩ := exists_ofRows fun d hd => (h d hd).line
  have hbytes : stored.serialize = table.serialize := by
    rw [serialize, serialize, hrows]
  exact ⟨stored, hbytes ▸ deserialize_serialize hstored h, hrows⟩

end Definitions

/-! ## Scope tables -/

namespace Scope

/-- Whether a scope can be stored and read back: its members hold no double, no key twice and no
numeral that is too long. -/
structure IsStorable (s : Scope) : Prop where
  simple : s.toJson.IsSimple
  fits : s.toJson.numeralsFit = true

theorem ofJson_toJson (s : Scope) : ofJson s.toJson = .ok s := rfl

/-- A regular scope can be stored, unless one of its line numbers is too long. -/
theorem IsRegular.isStorable {s : Scope} (h : s.IsRegular)
    (hfits : s.toJson.numeralsFit = true) : s.IsStorable := by
  obtain ⟨⟨first, hfirst⟩, ⟨last, hlast⟩, ⟨name, hname⟩, ⟨qualifier, hqualifier⟩,
    signature, hsignature⟩ := h
  have hkeys : (["line_from", "line_to", "name", "namespace", "signature"].map
    String.toList).Nodup := by decide
  refine ⟨?_, hfits⟩
  rw [toJson, hfirst, hlast, hname, hqualifier, hsignature]
  exact ⟨hkeys, trivial, trivial, trivial, trivial, trivial, trivial⟩

end Scope

/-- A stored table is read back as it was. -/
theorem Scopes.deserialize_serialize {table : Scopes} (h : ∀ s ∈ table.rows, s.IsStorable) :
    deserialize (Utf8.encode table.serialize) = .ok table := by
  have hread : Json.ofBytes (Utf8.encode table.serialize) =
      .ok (.arr (table.rows.map (·.toJson))) :=
    Json.ofBytes_encode_rows (fun s hs => (h s hs).simple) fun s hs => (h s hs).fits
  have hparts : (table.rows.map (·.toJson)).mapM Scope.ofJson = .ok table.rows :=
    mapM_map_eq_self table.rows Scope.ofJson_toJson
  rw [deserialize, hread]
  simp only [bind, Except.bind, hparts]
  rfl

/-! ## Both tables -/

/-- Tables of whole line numbers and texts survive storage.  However the definition table was
built, the table that is read back is the table itself, with the same rows in the same order and
by line, so that it gives the same answers and is stored as the same bytes again.  All bytes are
ASCII. -/
theorem tables_survive_storage {rows : List Definition} {scopes : List Scope}
    (hrows : ∀ d ∈ rows, d.IsRegular ∧ d.toJson.numeralsFit = true)
    (hscopes : ∀ s ∈ scopes, s.IsRegular ∧ s.toJson.numeralsFit = true) :
    (∃ table, Definitions.ofRows rows = .ok table ∧ table.rows = rows ∧
      rows.foldl (fun (table : Definitions) row => (table.add row).1) .empty = table ∧
      Definitions.deserialize (Utf8.encode table.serialize) = .ok table ∧
      ∀ b ∈ Utf8.encode table.serialize, b < 0x80) ∧
    Scopes.deserialize (Utf8.encode (Scopes.mk scopes).serialize) = .ok ⟨scopes⟩ ∧
      ∀ b ∈ Utf8.encode (Scopes.mk scopes).serialize, b < 0x80 := by
  have hrows' : ∀ d ∈ rows, d.IsStorable := fun d hd => (hrows d hd).1.isStorable (hrows d hd).2
  have hscopes' : ∀ s ∈ scopes, s.IsStorable :=
    fun s hs => (hscopes s hs).1.isStorable (hscopes s hs).2
  refine ⟨?_, Scopes.deserialize_serialize hscopes', ?_⟩
  · obtain ⟨table, htable, hsame⟩ := Definitions.exists_ofRows fun d hd => (hrows' d hd).line
    refine ⟨table, htable, hsame, Definitions.foldl_add_eq htable,
      Definitions.deserialize_serialize htable hrows', fun b hb => ?_⟩
    rw [Definitions.serialize, hsame] at hb
    exact Utf8.lt_of_mem_encode (Json.isAscii_write_rows fun d hd => (hrows' d hd).simple) hb
  · intro b hb
    exact Utf8.lt_of_mem_encode (Json.isAscii_write_rows fun s hs => (hscopes' s hs).simple) hb

/-- Definitions with long and negative line numbers and with characters that are escaped. -/
def escapedRows : List Definition :=
  [⟨.int (-3), .str "say \"hi\"", .str "a\\b", .str "\x00\n"⟩,
    ⟨.int 1180591620717411303424, .str "É", .str "\u2028", .str "😀"⟩]

/-- A scope with such line numbers. -/
def escapedScopes : List Scope :=
  [⟨.int (-1), .int 1180591620717411303424, .str "É", .str [], .str "(\"\")"⟩]

theorem tables_survive_storage_escapedRows :
    (∀ d ∈ escapedRows, d.IsRegular ∧ d.toJson.numeralsFit = true) ∧
    (∀ s ∈ escapedScopes, s.IsRegular ∧ s.toJson.numeralsFit = true) ∧
    (∃ table, Definitions.ofRows escapedRows = .ok table ∧
      Definitions.deserialize (Utf8.encode table.serialize) = .ok table) ∧
    Scopes.deserialize (Utf8.encode (Scopes.mk escapedScopes).serialize) = .ok ⟨escapedScopes⟩ := by
  have hrows : ∀ d ∈ escapedRows, d.IsRegular ∧ d.toJson.numeralsFit = true := by
    simp only [escapedRows, List.forall_mem_cons]
    exact ⟨⟨⟨⟨_, rfl⟩, ⟨_, rfl⟩, ⟨_, rfl⟩, _, rfl⟩, by decide⟩,
      ⟨⟨⟨_, rfl⟩, ⟨_, rfl⟩, ⟨_, rfl⟩, _, rfl⟩, by decide⟩, nofun⟩
  have hscopes : ∀ s ∈ escapedScopes, s.IsRegular ∧ s.toJson.numeralsFit = true := by
    simp only [escapedScopes, List.forall_mem_cons]
    exact ⟨⟨⟨⟨_, rfl⟩, ⟨_, rfl⟩, ⟨_, rfl⟩, ⟨_, rfl⟩, _, rfl⟩, by decide⟩, nofun⟩
  obtain ⟨⟨table, htable, _, _, hread, _⟩, hscopesRead, _⟩ :=
    tables_survive_storage hrows hscopes
  exact ⟨hrows, hscopes, ⟨table, htable, hread⟩, hscopesRead⟩

end HitListing
