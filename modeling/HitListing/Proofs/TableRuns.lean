import HitListing.Proofs.AcceptedTables
import HitListing.Proofs.WrittenValues

/-!
# Definition tables over time

A definition table is made of rows or read from a stored field.  Then rows are
added to it, and it is stored and read back, any number of times.

Its rows by line never drift apart from its list (`Definitions.IsMirrored.run`):
they do not in a new table, and no change can part them.  So a table always
answers with those of its rows that are asked for, if its lines are whole numbers
and its symbols texts (`Definitions.definitionsOf_run`).  Its types and texts may
be values of any kind, since a table that is read back has its lines and symbols
again whatever stands beside them (`Definitions.forall₂_of_reload`).
-/

namespace HitListing

namespace Definition

/-- Whether a definition has a whole number for its line and a text for its symbol. -/
def IsPlaced (d : Definition) : Prop :=
  (∃ n, d.line = .int n) ∧ ∃ t, d.symbol = .str t

/-- Whether a definition is on a line and defines one of some symbols, whatever their case. -/
def isWanted (d : Definition) (line : Int) (symbols : List Text) : Bool :=
  match d.symbol with
  | .str symbol => d.line = .int line && (symbols.map lower).contains (lower symbol)
  | _ => false

/-- Whether a definition can be what is read from the text of another. -/
structure IsReadAs (d e : Definition) : Prop where
  line : Json.IsReadAs d.line e.line
  symbol : Json.IsReadAs d.symbol e.symbol
  type : Json.IsReadAs d.type e.type
  text : Json.IsReadAs d.text e.text

/-- Whole numbers and texts are read as they were written. -/
theorem IsPlaced.of_isReadAs {d e : Definition} (h : d.IsPlaced) (he : d.IsReadAs e) :
    e.IsPlaced := by
  obtain ⟨⟨n, hline⟩, symbol, hsymbol⟩ := h
  have hline' := he.line
  have hsymbol' := he.symbol
  rw [hline] at hline'
  rw [hsymbol] at hsymbol'
  exact ⟨⟨n, hline'⟩, symbol, hsymbol'⟩

theorem isPlaced_of_forall₂ {rows found : List Definition} (h : List.Forall₂ IsReadAs rows found)
    (hrows : ∀ row ∈ rows, row.IsPlaced) : ∀ row ∈ found, row.IsPlaced := by
  induction h with
  | nil => exact hrows
  | cons hrow _ ih =>
    obtain ⟨hfirst, hrest⟩ := List.forall_mem_cons.mp hrows
    exact List.forall_mem_cons.mpr ⟨hfirst.of_isReadAs hrow, ih hrest⟩

theorem isReadAs_of_ofJson {d e : Definition} {row : Json} (hrow : Json.IsReadAs d.toJson row)
    (h : ofJson row = .ok e) : d.IsReadAs e := by
  obtain ⟨_, rfl, line, _, rfl, hline, symbol, _, rfl, hsymbol, type, _, rfl, htype, text, _, rfl,
    htext, rfl⟩ := hrow
  have hkeys : (["line", "symbol", "type", "text"].map String.toList).Nodup := by decide
  have hfields : Json.ofFields [("line", line), ("symbol", symbol), ("type", type),
      ("text", text)] = .obj [("line", line), ("symbol", symbol), ("type", type), ("text", text)] :=
    Json.ofFields_eq hkeys
  rw [hfields] at h
  cases h
  exact ⟨hline, hsymbol, htype, htext⟩

end Definition

namespace Definitions

variable {table : Definitions}

/-! ## Reading back -/

/-- The rows of a table that is read back are the rows that were stored, one by one. -/
theorem forall₂_of_reload {stored : Definitions}
    (h : deserialize (Utf8.encode table.serialize) = .ok stored) :
    List.Forall₂ Definition.IsReadAs table.rows stored.rows := by
  have hrows : ∀ (rows : List Definition) (items : List Json) (found : List Definition),
      Json.ItemsReadAs (rows.map (·.toJson)) items → items.mapM Definition.ofJson = .ok found →
      List.Forall₂ Definition.IsReadAs rows found := by
    -- the items that are read and the rows made of them go along the rows that were stored
    intro rows
    induction rows with
    | nil =>
      rintro items found rfl h
      cases h
      exact .nil
    | cons row rows ih =>
      rintro items found ⟨item, items, rfl, hitem, hitems⟩ h
      rw [List.mapM_cons] at h
      obtain ⟨first, hfirst, h⟩ := exists_of_bind_eq_ok h
      obtain ⟨rest, hrest, h⟩ := exists_of_bind_eq_ok h
      cases h
      exact .cons (Definition.isReadAs_of_ofJson hitem hfirst) (ih items rest hitems hrest)
  rw [deserialize_eq, Json.ofBytes, Utf8.decode?_encode] at h
  obtain ⟨v, hv, h⟩ := exists_of_bind_eq_ok h
  obtain ⟨items, rfl, hitems⟩ := Json.isReadAs_of_read hv
  exact hrows table.rows items stored.rows hitems (ofItems_eq_ok_iff.mp h).1

/-! ## Answers -/

/-- A table whose rows by line are those of its list answers with the rows that are asked for. -/
theorem IsMirrored.definitionsOf_eq (h : table.IsMirrored)
    (hrows : ∀ row ∈ table.rows, row.IsPlaced) (line : Int) (symbols : List Text) :
    table.definitionsOf (.int line) (symbols.map .str) =
      .ok (table.rows.filter (·.isWanted line symbols)) := by
  have hline := h.onLine_eq (.int line) rfl
  have hsymbols : ∀ row ∈ table.onLine (.int line), ∃ t, row.symbol = .str t := by
    intro row hrow
    rw [hline] at hrow
    exact (hrows row (List.mem_of_mem_filter hrow)).2
  rw [definitionsOf_map_str, ofLowered_eq_of_symbols rfl hsymbols, hline, List.filter_filter]
  congr 1
  refine List.filter_congr fun row hrow => ?_
  obtain ⟨⟨n, hn⟩, symbol, hsymbol⟩ := hrows row hrow
  simp [Definition.isWanted, hn, hsymbol, Json.text?, Bool.and_comm]

/-! ## Runs -/

/-- Whether a table is a new one: it is made of rows, or is that of a stored field. -/
inductive IsNew (table : Definitions) : Prop
  | ofRows {rows : List Definition} (h : ofRows rows = .ok table)
  | ofField {field : Option Bytes} (h : ofField field = .ok table)

/-- What is done to a table. -/
inductive Change where
  /-- A row is added. -/
  | add (row : Definition)
  /-- The table is stored and read back. -/
  | reload

/-- Whether a row that is added has a whole number for its line and a text for its symbol. -/
def Change.IsPlaced : Change → Prop
  | add row => row.IsPlaced
  | reload => True

/-- The table after a change.  If it cannot be read back it stays what it was. -/
def apply (table : Definitions) : Change → Definitions
  | .add row => (table.add row).1
  | .reload =>
    match deserialize (Utf8.encode table.serialize) with
    | .ok stored => stored
    | .error _ => table

/-- The table after changes one after another. -/
def run (table : Definitions) (changes : List Change) : Definitions :=
  changes.foldl apply table

theorem IsNew.isMirrored (h : table.IsNew) : table.IsMirrored := by
  cases h with
  | ofRows h => exact isMirrored_of_ofRows h
  | ofField h => exact isMirrored_of_ofField h

theorem IsMirrored.apply (h : table.IsMirrored) (change : Change) :
    (table.apply change).IsMirrored := by
  cases change with
  | add row => exact h.add row
  | reload =>
    rw [Definitions.apply]
    split
    · rename_i stored hstored
      have hfield : ofField (some (Utf8.encode table.serialize)) = .ok stored := hstored
      exact isMirrored_of_ofField hfield
    · exact h

theorem isPlaced_apply (h : ∀ row ∈ table.rows, row.IsPlaced) {change : Change}
    (hchange : change.IsPlaced) : ∀ row ∈ (table.apply change).rows, row.IsPlaced := by
  cases change with
  | add row =>
    have hadd : (table.apply (.add row)).rows = table.rows ++ [row] := by
      rw [apply, add]
      split <;> rfl
    rw [hadd, List.forall_mem_append, List.forall_mem_singleton]
    exact ⟨h, hchange⟩
  | reload =>
    rw [apply]
    split
    · rename_i stored hstored
      exact Definition.isPlaced_of_forall₂ (forall₂_of_reload hstored) h
    · exact h

theorem IsMirrored.run (h : table.IsMirrored) (changes : List Change) :
    (table.run changes).IsMirrored := by
  induction changes generalizing table with
  | nil => exact h
  | cons change changes ih => exact ih (h.apply change)

theorem isPlaced_run (h : ∀ row ∈ table.rows, row.IsPlaced) {changes : List Change}
    (hchanges : ∀ change ∈ changes, change.IsPlaced) :
    ∀ row ∈ (table.run changes).rows, row.IsPlaced := by
  induction changes generalizing table with
  | nil => exact h
  | cons change changes ih =>
    obtain ⟨hchange, hrest⟩ := List.forall_mem_cons.mp hchanges
    exact ih (isPlaced_apply h hchange) hrest

/-- After any changes of a new table, the definitions of some symbols on a line are the rows of the
table with this line whose symbol is one of these in lower case: in order, and with those that are
repeated. -/
theorem definitionsOf_run {start : Definitions} (hstart : start.IsNew)
    (hrows : ∀ row ∈ start.rows, row.IsPlaced) {changes : List Change}
    (hchanges : ∀ change ∈ changes, change.IsPlaced) (line : Int) (symbols : List Text) :
    (start.run changes).definitionsOf (.int line) (symbols.map .str) =
      .ok ((start.run changes).rows.filter (·.isWanted line symbols)) :=
  (hstart.isMirrored.run changes).definitionsOf_eq (isPlaced_run hrows hchanges) line symbols

/-- A table with one row. -/
def parserTable : Definitions :=
  ⟨[⟨.int 4, .str "Parse", .str "method", .str ""⟩],
    [(.int 4, [⟨.int 4, .str "Parse", .str "method", .str ""⟩])]⟩

/-- Rows are added before, between and after two readings, and the first row once more. -/
def parserChanges : List Change :=
  [.add ⟨.int 4, .str "count", .str "local", .null⟩, .reload,
    .add ⟨.int 4, .str "PARSE", .str "macro", .str ""⟩,
    .add ⟨.int 5, .str "parse", .str "local", .str ""⟩, .reload,
    .add ⟨.int 4, .str "Parse", .str "method", .str ""⟩]

theorem definitionsOf_run_parserChanges :
    ofRows parserTable.rows = .ok parserTable ∧
    (parserTable.run parserChanges).definitionsOf (.int 4) [.str "pARSE", .str "other"] =
      .ok [⟨.int 4, .str "Parse", .str "method", .str ""⟩,
        ⟨.int 4, .str "PARSE", .str "macro", .str ""⟩,
        ⟨.int 4, .str "Parse", .str "method", .str ""⟩] := by
  have hstart : ofRows parserTable.rows = .ok parserTable := rfl
  have hrows : ∀ row ∈ parserTable.rows, row.IsPlaced :=
    List.forall_mem_singleton.mpr ⟨⟨4, rfl⟩, _, rfl⟩
  have hchanges : ∀ change ∈ parserChanges, change.IsPlaced := by
    simp [parserChanges, Change.IsPlaced, Definition.IsPlaced]
  have hfound := definitionsOf_run (.ofRows hstart) hrows hchanges 4 ["pARSE", "other"]
  exact ⟨hstart, hfound.trans (congrArg Except.ok (by decide +kernel))⟩

end Definitions

end HitListing
