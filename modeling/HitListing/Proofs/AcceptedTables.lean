import HitListing.Proofs.JsonReading
import HitListing.Proofs.Positions
import HitListing.Proofs.StoredRows
import HitListing.Proofs.Utf8

/-!
# Which stored tables are accepted

The bytes of a definition or a scope table are accepted exactly if they are a
text in UTF-8 that holds a list, and each item of the list fits: it is an object
with all the keys that a row must have and no key that it may not have, and the
line of a definition is neither a list nor an object.  Then the rows are those
items in order.  Whatever else is stored, the fault is one of a value without a
meaning (`deserialize_acceptsExactly`).

Both kinds of rows have a form, so that which objects fit is said once
(`RowForm.map_fields?_eq_ok_iff`), as is how a list of items is found in bytes
(`acceptsExactly_of_items`).
-/

namespace HitListing

/-! ## Steps for all items -/

section Items

variable {ε α β : Type} {f : α → Except ε β} {items : List α}

/-- Steps for all items give what each of them gives, in order. -/
theorem forall₂_of_mapM {rows : List β} (h : items.mapM f = .ok rows) :
    List.Forall₂ (fun row item => f item = .ok row) rows items := by
  induction items generalizing rows with
  | nil =>
    cases h
    exact .nil
  | cons item items ih =>
    rw [List.mapM_cons] at h
    obtain ⟨row, hrow, h⟩ := exists_of_bind_eq_ok h
    obtain ⟨more, hmore, h⟩ := exists_of_bind_eq_ok h
    cases h
    exact .cons hrow (ih hmore)

/-- Steps for all items give results of some kind exactly if each of them gives one. -/
theorem exists_mapM_iff {P : β → Prop} :
    (∃ rows, items.mapM f = .ok rows ∧ ∀ row ∈ rows, P row) ↔
      ∀ item ∈ items, ∃ row, f item = .ok row ∧ P row := by
  induction items with
  | nil => exact iff_of_true ⟨[], rfl, nofun⟩ nofun
  | cons item items ih =>
    rw [List.forall_mem_cons, ← ih]
    constructor
    · intro h
      obtain ⟨rows, h, hrows⟩ := h
      rw [List.mapM_cons] at h
      obtain ⟨row, hrow, h⟩ := exists_of_bind_eq_ok h
      obtain ⟨more, hmore, h⟩ := exists_of_bind_eq_ok h
      cases h
      obtain ⟨hP, hrest⟩ := List.forall_mem_cons.mp hrows
      exact ⟨⟨row, hrow, hP⟩, more, hmore, hrest⟩
    · intro h
      obtain ⟨⟨row, hrow, hP⟩, more, hmore, hrest⟩ := h
      refine ⟨row :: more, ?_, List.forall_mem_cons.mpr ⟨hP, hrest⟩⟩
      rw [List.mapM_cons, hrow, hmore]
      rfl

end Items

/-! ## Rows -/

/-- Whether fields have all of some keys, and beyond them none but some others. -/
structure HasKeys (required optional : List Text) (fields : List (Text × Json)) : Prop where
  complete : ∀ key ∈ required, ∃ field ∈ fields, key = field.1
  known : ∀ field ∈ fields, field.1 ∈ required ∨ field.1 ∈ optional

namespace RowForm

variable {form : RowForm}

theorem keyProblem?_eq_none_iff {key : Text} :
    form.keyProblem? key = none ↔ key ≠ "self".toList ∧ key ∈ form.keys := by
  rw [keyProblem?]
  split
  · rename_i hself
    exact iff_of_false nofun fun h => h.1 hself
  · rename_i hself
    rw [← List.contains_iff_mem]
    split
    · rename_i hkey
      exact iff_of_true rfl ⟨hself, hkey⟩
    · rename_i hkey
      exact iff_of_false nofun fun h => hkey h.2

/-- A row fits a form exactly if it is an object that has the keys of the form; `self` must be none
of these. -/
theorem fields?_eq_ok_iff (hself : "self".toList ∉ form.keys) {row : Json}
    {fields : List (Text × Json)} :
    form.fields? row = .ok fields ↔
      row = .obj fields ∧ HasKeys form.required form.optional fields := by
  cases row with
  | obj found =>
    have hknown : (found.findSome? fun field => form.keyProblem? field.1) = none ↔
        ∀ field ∈ found, field.1 ∈ form.required ∨ field.1 ∈ form.optional := by
      rw [List.findSome?_eq_none_iff]
      refine forall₂_congr fun field _ => ?_
      rw [keyProblem?_eq_none_iff, keys, List.mem_append]
      refine and_iff_right_of_imp fun hkey heq => hself ?_
      rw [← heq]
      exact List.mem_append.mpr hkey
    have hcomplete : (form.required.filter fun key => (Json.lookup key found).isNone) = [] ↔
        ∀ key ∈ form.required, ∃ field ∈ found, key = field.1 := by
      rw [List.filter_eq_nil_iff]
      refine forall₂_congr fun key _ => ?_
      rw [Option.isNone_iff_eq_none, Json.lookup_eq_none_iff]
      push Not
      rfl
    rw [fields?, Json.obj.injEq]
    split
    · rename_i problem hproblem
      refine iff_of_false nofun fun h => ?_
      obtain ⟨rfl, hkeys⟩ := h
      cases (hknown.mpr hkeys.known).symm.trans hproblem
    · rename_i hproblem
      split
      · rename_i hmissing
        rw [Except.ok.injEq]
        refine iff_self_and.mpr fun heq => ?_
        rw [← heq]
        exact ⟨hcomplete.mp hmissing, hknown.mp hproblem⟩
      · rename_i hmissing
        refine iff_of_false nofun fun h => ?_
        obtain ⟨rfl, hkeys⟩ := h
        exact hmissing (hcomplete.mpr hkeys.complete)
  | null | bool | int | real | str | arr =>
    refine iff_of_false nofun fun h => ?_
    cases h.1

/-- What is made of the fields of a row is made of an object that has the keys of the form. -/
theorem map_fields?_eq_ok_iff {α : Type} (hself : "self".toList ∉ form.keys)
    {make : List (Text × Json) → α} {row : Json} {a : α} :
    (form.fields? row).map make = .ok a ↔ ∃ fields, row = .obj fields ∧
      HasKeys form.required form.optional fields ∧ make fields = a := by
  constructor
  · intro h
    cases hfields : form.fields? row with
    | error problem =>
      rw [hfields] at h
      cases h
    | ok fields =>
      rw [hfields] at h
      obtain ⟨rfl, hkeys⟩ := (fields?_eq_ok_iff hself).mp hfields
      exact ⟨fields, rfl, hkeys, Except.ok.inj h⟩
  · intro h
    obtain ⟨fields, rfl, hkeys, rfl⟩ := h
    rw [(fields?_eq_ok_iff hself).mpr ⟨rfl, hkeys⟩]
    rfl

/-- A required key has its value. -/
theorem lookup_eq_value {required optional : List Text} {fields : List (Text × Json)}
    (h : HasKeys required optional fields) {key : Text} (hkey : key ∈ required) :
    Json.lookup key fields = some (value fields key) := by
  rw [value]
  cases hlookup : Json.lookup key fields with
  | some found => rfl
  | none =>
    obtain ⟨field, hfield, heq⟩ := h.complete key hkey
    exact absurd heq (Json.lookup_eq_none_iff.mp hlookup field hfield)

theorem value_of_lookup {fields : List (Text × Json)} {key : Text} {v : Json}
    (h : Json.lookup key fields = some v) : value fields key = v := by
  rw [value, h]
  rfl

end RowForm

namespace Definition

/-- Whether a value is an object with the keys of a definition and a line that can be a key. -/
def FitsRow (row : Json) : Prop :=
  ∃ fields, row = .obj fields ∧ HasKeys ["line", "symbol", "type"] ["text"] fields ∧
    ∃ line, Json.lookup "line" fields = some line ∧ line.isScalar = true

/-- Whether a definition has the members of an object, and an empty text where there is none. -/
structure HasMembers (d : Definition) (fields : List (Text × Json)) : Prop where
  line : Json.lookup "line" fields = some d.line
  symbol : Json.lookup "symbol" fields = some d.symbol
  type : Json.lookup "type" fields = some d.type
  text : (Json.lookup "text" fields).getD (.str []) = d.text

/-- Whether a definition is that of a row. -/
def IsOfRow (d : Definition) (row : Json) : Prop :=
  ∃ fields, row = .obj fields ∧ d.HasMembers fields

theorem self_not_mem_keys : "self".toList ∉ form.keys := by
  decide

theorem isOfRow_of_ofJson {row : Json} {d : Definition} (h : ofJson row = .ok d) :
    d.IsOfRow row := by
  obtain ⟨fields, hrow, hkeys, rfl⟩ := (RowForm.map_fields?_eq_ok_iff self_not_mem_keys).mp h
  exact ⟨fields, hrow, RowForm.lookup_eq_value hkeys (by decide),
    RowForm.lookup_eq_value hkeys (by decide), RowForm.lookup_eq_value hkeys (by decide), rfl⟩

theorem fitsRow_iff {row : Json} :
    FitsRow row ↔ ∃ d, ofJson row = .ok d ∧ d.line.isScalar = true := by
  constructor
  · intro h
    obtain ⟨fields, rfl, hkeys, line, hline, hscalar⟩ := h
    refine ⟨_, (RowForm.map_fields?_eq_ok_iff self_not_mem_keys).mpr ⟨fields, rfl, hkeys, rfl⟩, ?_⟩
    rw [← RowForm.value_of_lookup hline] at hscalar
    exact hscalar
  · intro h
    obtain ⟨d, hd, hscalar⟩ := h
    obtain ⟨fields, hrow, hkeys, rfl⟩ := (RowForm.map_fields?_eq_ok_iff self_not_mem_keys).mp hd
    exact ⟨fields, hrow, hkeys, _, RowForm.lookup_eq_value hkeys (by decide), hscalar⟩

end Definition

namespace Scope

/-- Whether a value is an object with the keys of a scope. -/
def FitsRow (row : Json) : Prop :=
  ∃ fields, row = .obj fields ∧
    HasKeys ["line_from", "line_to", "name"] ["namespace", "signature"] fields

/-- Whether a scope has the members of an object, and empty texts where there are none. -/
structure HasMembers (s : Scope) (fields : List (Text × Json)) : Prop where
  lineFrom : Json.lookup "line_from" fields = some s.lineFrom
  lineTo : Json.lookup "line_to" fields = some s.lineTo
  name : Json.lookup "name" fields = some s.name
  qualifier : (Json.lookup "namespace" fields).getD (.str []) = s.qualifier
  signature : (Json.lookup "signature" fields).getD (.str []) = s.signature

/-- Whether a scope is that of a row. -/
def IsOfRow (s : Scope) (row : Json) : Prop :=
  ∃ fields, row = .obj fields ∧ s.HasMembers fields

theorem self_not_mem_keys : "self".toList ∉ form.keys := by
  decide

theorem isOfRow_of_ofJson {row : Json} {s : Scope} (h : ofJson row = .ok s) : s.IsOfRow row := by
  obtain ⟨fields, hrow, hkeys, rfl⟩ := (RowForm.map_fields?_eq_ok_iff self_not_mem_keys).mp h
  exact ⟨fields, hrow, RowForm.lookup_eq_value hkeys (by decide),
    RowForm.lookup_eq_value hkeys (by decide), RowForm.lookup_eq_value hkeys (by decide), rfl, rfl⟩

theorem fitsRow_iff {row : Json} : FitsRow row ↔ ∃ s, ofJson row = .ok s := by
  constructor
  · intro h
    obtain ⟨fields, rfl, hkeys⟩ := h
    exact ⟨_, (RowForm.map_fields?_eq_ok_iff self_not_mem_keys).mpr ⟨fields, rfl, hkeys, rfl⟩⟩
  · intro h
    obtain ⟨s, hs⟩ := h
    obtain ⟨fields, hrow, hkeys, _⟩ := (RowForm.map_fields?_eq_ok_iff self_not_mem_keys).mp hs
    exact ⟨fields, hrow, hkeys⟩

end Scope

/-! ## Tables -/

/-- Whether bytes are a text in UTF-8 that holds a list. -/
def HoldsList (bytes : Bytes) (items : List Json) : Prop :=
  ∃ t, bytes = Utf8.encode t ∧ Json.Holds t (.arr items)

/-- Whether a reader of tables accepts the lists of items that fit and nothing else, takes each item
for a row, and has no other faults than those of values without a meaning. -/
structure AcceptsExactly {α ρ : Type} (read : Bytes → Except Fault α) (rowsOf : α → List ρ)
    (fits : Json → Prop) (isRow : ρ → Json → Prop) : Prop where
  succeeds_iff (bytes : Bytes) :
    Succeeds (read bytes) ↔ ∃ items, HoldsList bytes items ∧ ∀ item ∈ items, fits item
  rows (bytes : Bytes) (table : α) : read bytes = .ok table →
    ∃ items, HoldsList bytes items ∧ List.Forall₂ isRow (rowsOf table) items
  failsOnlyWith (bytes : Bytes) : FailsOnlyWith (·.isValueFault = true) (read bytes)

theorem Json.ofBytes_eq_ok_iff {bytes : Bytes} {v : Json} :
    ofBytes bytes = .ok v ↔ ∃ t, bytes = Utf8.encode t ∧ Holds t v := by
  rw [ofBytes]
  constructor
  · intro h
    split at h
    · rename_i t ht
      exact ⟨t, Utf8.decode?_eq_some_iff.mp ht, read_eq_ok_iff.mp h⟩
    · cases h
  · intro h
    obtain ⟨t, rfl, ht⟩ := h
    rw [Utf8.decode?_encode]
    exact read_eq_ok_iff.mpr ht

theorem Json.failsOnlyWith_ofBytes (bytes : Bytes) :
    FailsOnlyWith (·.isValueFault = true) (ofBytes bytes) := by
  rw [ofBytes]
  split
  · intro f hf
    rcases failsOnlyWith_read _ f hf with rfl | rfl
    · rfl
    · rfl
  · exact failsOnlyWith_error rfl

/-- A reader of tables that goes through the items of a list accepts what this accepts. -/
theorem acceptsExactly_of_items {α ρ : Type} {read : Bytes → Except Fault α} {rowsOf : α → List ρ}
    {fits : Json → Prop} {isRow : ρ → Json → Prop} {build : List Json → Except Fault α}
    {notList : Fault} (hnotList : notList.isValueFault = true)
    (hread : ∀ bytes, read bytes = Json.ofBytes bytes >>= fun v =>
      match v with
      | .arr items => build items
      | _ => .error notList)
    (hbuild : ∀ items, Succeeds (build items) ↔ ∀ item ∈ items, fits item)
    (hrows : ∀ items table, build items = .ok table → List.Forall₂ isRow (rowsOf table) items)
    (hfaults : ∀ items, FailsOnlyWith (·.isValueFault = true) (build items)) :
    AcceptsExactly read rowsOf fits isRow := by
  have hok (bytes : Bytes) (table : α) :
      read bytes = .ok table ↔ ∃ items, HoldsList bytes items ∧ build items = .ok table := by
    rw [hread]
    constructor
    · intro h
      obtain ⟨v, hv, h⟩ := exists_of_bind_eq_ok h
      split at h
      · exact ⟨_, Json.ofBytes_eq_ok_iff.mp hv, h⟩
      · cases h
    · intro h
      obtain ⟨items, hitems, h⟩ := h
      rw [Json.ofBytes_eq_ok_iff.mpr hitems]
      exact h
  refine ⟨fun bytes => ?_, fun bytes table h => ?_, fun bytes => ?_⟩
  · simp only [← hbuild]
    constructor
    · intro h
      obtain ⟨table, htable⟩ := h
      obtain ⟨items, hitems, h⟩ := (hok bytes table).mp htable
      exact ⟨items, hitems, table, h⟩
    · intro h
      obtain ⟨items, hitems, table, h⟩ := h
      exact ⟨table, (hok bytes table).mpr ⟨items, hitems, h⟩⟩
  · obtain ⟨items, hitems, h⟩ := (hok bytes table).mp h
    exact ⟨items, hitems, hrows items table h⟩
  · rw [hread]
    refine (Json.failsOnlyWith_ofBytes bytes).bind fun v _ => ?_
    split
    · exact hfaults _
    · exact failsOnlyWith_error hnotList

namespace Definitions

/-- The table of the items of a list. -/
def ofItems (items : List Json) : Except Fault Definitions :=
  match items.mapM Definition.ofJson with
  | .error problem => .error (.badDefinition problem)
  | .ok rows =>
    match ofRows rows with
    | .error line => .error (.badDefinition (unhashableProblem line))
    | .ok table => .ok table

theorem deserialize_eq (bytes : Bytes) :
    deserialize bytes = Json.ofBytes bytes >>= fun v =>
      match v with
      | .arr items => ofItems items
      | _ => .error .definitionsNotList := rfl

theorem ofItems_eq_ok_iff {items : List Json} {table : Definitions} :
    ofItems items = .ok table ↔
      items.mapM Definition.ofJson = .ok table.rows ∧ ofRows table.rows = .ok table := by
  rw [ofItems]
  constructor
  · intro h
    split at h
    · cases h
    · rename_i rows hitems
      split at h
      · cases h
      · rename_i found hrows
        cases h
        have hsame : table.rows = rows := congrArg Definitions.rows (rows_of_ofRows hrows).1
        rw [hsame]
        exact ⟨hitems, hrows⟩
  · intro h
    obtain ⟨hitems, hrows⟩ := h
    rw [hitems]
    simp only [hrows]

/-- A list is taken for a table exactly if each item fits. -/
theorem succeeds_ofItems_iff {items : List Json} :
    Succeeds (ofItems items) ↔ ∀ item ∈ items, Definition.FitsRow item := by
  simp only [Definition.fitsRow_iff]
  rw [← exists_mapM_iff]
  constructor
  · intro h
    obtain ⟨table, htable⟩ := h
    obtain ⟨hitems, hrows⟩ := ofItems_eq_ok_iff.mp htable
    exact ⟨table.rows, hitems, (rows_of_ofRows hrows).2⟩
  · intro h
    obtain ⟨rows, hitems, hscalar⟩ := h
    obtain ⟨table, htable, rfl⟩ := exists_ofRows hscalar
    exact ⟨table, ofItems_eq_ok_iff.mpr ⟨hitems, htable⟩⟩

theorem failsOnlyWith_ofItems (items : List Json) :
    FailsOnlyWith (·.isValueFault = true) (ofItems items) := by
  rw [ofItems]
  split
  · exact failsOnlyWith_error rfl
  · split
    · exact failsOnlyWith_error rfl
    · exact failsOnlyWith_ok _

end Definitions

namespace Scopes

/-- The table of the items of a list. -/
def ofItems (items : List Json) : Except Fault Scopes :=
  match items.mapM Scope.ofJson with
  | .error problem => .error (.badScope problem)
  | .ok rows => .ok ⟨rows⟩

theorem deserialize_eq (bytes : Bytes) :
    deserialize bytes = Json.ofBytes bytes >>= fun v =>
      match v with
      | .arr items => ofItems items
      | _ => .error .scopesNotList := rfl

theorem ofItems_eq_ok_iff {items : List Json} {table : Scopes} :
    ofItems items = .ok table ↔ items.mapM Scope.ofJson = .ok table.rows := by
  rw [ofItems]
  split
  · rename_i hitems
    rw [hitems]
    exact iff_of_false nofun nofun
  · rename_i rows hitems
    rw [hitems, Except.ok.injEq, Except.ok.injEq]
    constructor
    · rintro rfl
      rfl
    · rintro rfl
      rfl

/-- A list is taken for a table exactly if each item fits. -/
theorem succeeds_ofItems_iff {items : List Json} :
    Succeeds (ofItems items) ↔ ∀ item ∈ items, Scope.FitsRow item := by
  have hall : (∃ rows, items.mapM Scope.ofJson = .ok rows ∧ ∀ row ∈ rows, True) ↔
      ∀ item ∈ items, ∃ row, Scope.ofJson item = .ok row ∧ True := exists_mapM_iff
  simp only [implies_true, and_true] at hall
  simp only [Scope.fitsRow_iff, ← hall]
  constructor
  · intro h
    obtain ⟨table, htable⟩ := h
    exact ⟨table.rows, ofItems_eq_ok_iff.mp htable⟩
  · intro h
    obtain ⟨rows, hrows⟩ := h
    exact ⟨⟨rows⟩, ofItems_eq_ok_iff.mpr hrows⟩

theorem failsOnlyWith_ofItems (items : List Json) :
    FailsOnlyWith (·.isValueFault = true) (ofItems items) := by
  rw [ofItems]
  split
  · exact failsOnlyWith_error rfl
  · exact failsOnlyWith_ok _

end Scopes

/-- Tables of definitions and of scopes are accepted exactly if they are stored as lists of objects
with the right keys, and a definition with a line that can be a key.  They have the rows of the
list, and all else is a fault of a value without a meaning. -/
theorem deserialize_acceptsExactly :
    AcceptsExactly Definitions.deserialize Definitions.rows Definition.FitsRow Definition.IsOfRow ∧
      AcceptsExactly Scopes.deserialize Scopes.rows Scope.FitsRow Scope.IsOfRow := by
  constructor
  · refine acceptsExactly_of_items rfl Definitions.deserialize_eq
      (fun items => Definitions.succeeds_ofItems_iff) (fun items table h => ?_)
      Definitions.failsOnlyWith_ofItems
    exact (forall₂_of_mapM (Definitions.ofItems_eq_ok_iff.mp h).1).imp
      fun _ _ => Definition.isOfRow_of_ofJson
  · refine acceptsExactly_of_items rfl Scopes.deserialize_eq
      (fun items => Scopes.succeeds_ofItems_iff) (fun items table h => ?_)
      Scopes.failsOnlyWith_ofItems
    exact (forall₂_of_mapM (Scopes.ofItems_eq_ok_iff.mp h)).imp
      fun _ _ => Scope.isOfRow_of_ofJson

end HitListing
