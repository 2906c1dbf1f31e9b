import HitListing.Definitions
import HitListing.Proofs.Outcomes
import HitListing.Proofs.ValueOrder
import HitListing.Scopes

/-!
# Tables with regular rows

A definition table has its rows twice, as a list and by line.  The rows of each
line are those of the list that have this line, in order: that is true of the
empty table, and stays true when a row is added (`Definitions.IsMirrored`).

A row is regular if its lines are whole numbers and its other members texts.
With regular rows a definition table always answers, with a part of the rows of
the line asked for (`Definitions.ofLowered_eq`), and a scope table answers for
every line that is a number, and for no other unless it is empty
(`Scopes.exists_scopeAt`, `Scopes.not_succeeds_scopeAt`).
-/

namespace HitListing

/-- Whether a definition has a whole number for its line and texts elsewhere. -/
def Definition.IsRegular (d : Definition) : Prop :=
  (∃ n, d.line = .int n) ∧ (∃ t, d.symbol = .str t) ∧ (∃ t, d.type = .str t) ∧
    ∃ t, d.text = .str t

/-- Whether a scope has whole numbers for its lines and texts elsewhere. -/
def Scope.IsRegular (s : Scope) : Prop :=
  (∃ n, s.lineFrom = .int n) ∧ (∃ n, s.lineTo = .int n) ∧ (∃ t, s.name = .str t) ∧
    (∃ t, s.qualifier = .str t) ∧ ∃ t, s.signature = .str t

/-! ## Definitions -/

namespace Definitions

/-- Whether the rows that a table has by line are rows of the table. -/
def IsIndexed (table : Definitions) : Prop :=
  ∀ entry ∈ table.byLine, ∀ row ∈ entry.2, row ∈ table.rows

theorem mem_insertByLine {row r : Definition} {index : List (Json × List Definition)}
    {entry : Json × List Definition} (h : entry ∈ insertByLine row index) (hr : r ∈ entry.2) :
    r = row ∨ ∃ old ∈ index, r ∈ old.2 := by
  induction index with
  | nil =>
    obtain rfl := List.mem_singleton.mp h
    exact Or.inl (List.mem_singleton.mp hr)
  | cons first index ih =>
    obtain ⟨line, found⟩ := first
    rw [insertByLine] at h
    split at h
    · rcases List.mem_cons.mp h with rfl | h
      · rcases List.mem_append.mp hr with hr | hr
        · exact Or.inr ⟨(line, found), List.mem_cons_self, hr⟩
        · exact Or.inl (List.mem_singleton.mp hr)
      · exact Or.inr ⟨entry, List.mem_cons_of_mem _ h, hr⟩
    · rcases List.mem_cons.mp h with rfl | h
      · exact Or.inr ⟨(line, found), List.mem_cons_self, hr⟩
      · rcases ih h with heq | ⟨old, hold, hr⟩
        · exact Or.inl heq
        · exact Or.inr ⟨old, List.mem_cons_of_mem _ hold, hr⟩

/-- A table that is made of rows has these rows, and their lines can be keys. -/
theorem rows_of_ofRows {rows : List Definition} {table : Definitions}
    (h : ofRows rows = .ok table) :
    table = ⟨rows, rows.foldl (fun index row => insertByLine row index) []⟩ ∧
      ∀ row ∈ rows, row.line.isScalar = true := by
  rw [ofRows] at h
  split at h
  · cases h
  · rename_i hlines
    cases h
    rw [List.find?_eq_none] at hlines
    exact ⟨rfl, fun row hrow => by simpa using hlines row hrow⟩

/-- Adding rows one after another to an empty table makes the table of these rows. -/
theorem foldl_add_eq {rows : List Definition} {table : Definitions}
    (h : ofRows rows = .ok table) :
    rows.foldl (fun (table : Definitions) row => (table.add row).1) empty = table := by
  -- the rows added so far and their lines change along the list
  have hfold : ∀ (rest before : List Definition) (index : List (Json × List Definition)),
      (∀ d ∈ rest, d.line.isScalar = true) →
      rest.foldl (fun (table : Definitions) row => (table.add row).1) ⟨before, index⟩ =
        ⟨before ++ rest, rest.foldl (fun index row => insertByLine row index) index⟩ := by
    intro rest
    induction rest with
    | nil => simp
    | cons row rest ih =>
      intro before index hlines
      obtain ⟨hrow, hrest⟩ := List.forall_mem_cons.mp hlines
      have hadd : ((⟨before, index⟩ : Definitions).add row).1 =
          ⟨before ++ [row], insertByLine row index⟩ := by
        rw [add, if_pos hrow]
      rw [List.foldl_cons, hadd, ih _ _ hrest, List.append_assoc]
      rfl
  obtain ⟨rfl, hlines⟩ := rows_of_ofRows h
  exact hfold rows [] [] hlines

/-- What is true of the empty table and stays true when a row is added is true of every table that
is made of rows. -/
theorem ofRows_induction {P : Definitions → Prop} (hempty : P empty)
    (hadd : ∀ (table : Definitions) (row : Definition), P table → P (table.add row).1)
    {rows : List Definition} {table : Definitions} (h : ofRows rows = .ok table) : P table := by
  rw [← foldl_add_eq h]
  exact List.foldlRecOn rows _ hempty fun table htable row _ => hadd table row htable

theorem IsIndexed.add {table : Definitions} (h : table.IsIndexed) (row : Definition) :
    (table.add row).1.IsIndexed := by
  rw [Definitions.add]
  split
  · intro entry hentry r hr
    rcases mem_insertByLine hentry hr with rfl | ⟨old, hold, hr⟩
    · exact List.mem_append_right _ List.mem_cons_self
    · exact List.mem_append_left _ (h old hold r hr)
  · exact fun entry hentry r hr => List.mem_append_left _ (h entry hentry r hr)

theorem isIndexed_of_ofRows {rows : List Definition} {table : Definitions}
    (h : ofRows rows = .ok table) : table.IsIndexed :=
  ofRows_induction nofun (fun _ row htable => htable.add row) h

/-- The tables that are stored are made of their rows. -/
theorem ofRows_of_ofField {field : Option Bytes} {table : Definitions}
    (h : ofField field = .ok table) : ofRows table.rows = .ok table := by
  cases field with
  | none =>
    cases h
    rfl
  | some bytes =>
    change deserialize bytes = .ok table at h
    rw [deserialize] at h
    cases hread : Json.ofBytes bytes with
    | error e =>
      rw [hread] at h
      cases h
    | ok v =>
      rw [hread] at h
      cases v with
      | arr items =>
        simp only [bind, Except.bind] at h
        split at h
        · cases h
        · split at h
          · cases h
          · rename_i rows _ _ found hrows
            cases h
            have hfound : table.rows = rows := congrArg Definitions.rows (rows_of_ofRows hrows).1
            rw [hfound]
            exact hrows
      | _ => cases h

/-- The tables that are stored have only their own rows by line. -/
theorem isIndexed_of_ofField {field : Option Bytes} {table : Definitions}
    (h : ofField field = .ok table) : table.IsIndexed :=
  isIndexed_of_ofRows (ofRows_of_ofField h)

/-! ### The rows of a line -/

section OnLine

variable {row : Definition} {line : Json}

/-- A row that is indexed joins the rows of its line. -/
theorem onLine_insertByLine (rows : List Definition) {index : List (Json × List Definition)}
    (hkeys : ∀ entry ∈ index, entry.1.isScalar = true) (hrow : row.line.isScalar = true)
    (hline : line.isScalar = true) :
    onLine ⟨rows, insertByLine row index⟩ line =
      onLine ⟨rows, index⟩ line ++ if Json.same row.line line then [row] else [] := by
  induction index with
  | nil =>
    cases hown : Json.same row.line line <;> simp [insertByLine, onLine, hown]
  | cons entry index ih =>
    obtain ⟨key, found⟩ := entry
    obtain ⟨hkey, hrest⟩ := List.forall_mem_cons.mp hkeys
    have hsame := Json.same_iff_scalarKey hkey hrow
    have hfound := Json.same_iff_scalarKey hkey hline
    have hjoins := Json.same_iff_scalarKey hrow hline
    simp only at hsame hfound
    have ih := ih hrest
    rw [onLine, onLine] at ih
    rw [insertByLine, onLine, onLine]
    by_cases hfirst : Json.same key line = true
    · by_cases hown : Json.same key row.line = true
      · have hjoin : Json.same row.line line = true :=
          hjoins.mpr ((hsame.mp hown).symm.trans (hfound.mp hfirst))
        simp [hown, hfirst, hjoin]
      · have hjoin : ¬Json.same row.line line = true := by
          intro h
          exact hown (hsame.mpr ((hfound.mp hfirst).trans (hjoins.mp h).symm))
        simp [hown, hfirst, hjoin]
    · by_cases hown : Json.same key row.line = true
      · have hjoin : ¬Json.same row.line line = true := by
          intro h
          exact hfirst (hfound.mpr ((hsame.mp hown).trans (hjoins.mp h)))
        simp [hown, hfirst, hjoin]
      · rw [if_neg hown, List.find?_cons_of_neg (by simpa using hfirst),
          List.find?_cons_of_neg (by simpa using hfirst)]
        exact ih

theorem isScalar_of_mem_insertByLine {index : List (Json × List Definition)}
    (hkeys : ∀ entry ∈ index, entry.1.isScalar = true) (hrow : row.line.isScalar = true) :
    ∀ entry ∈ insertByLine row index, entry.1.isScalar = true := by
  induction index with
  | nil => simpa [insertByLine] using hrow
  | cons first index ih =>
    obtain ⟨hfirst, hrest⟩ := List.forall_mem_cons.mp hkeys
    rw [insertByLine]
    split
    · exact List.forall_mem_cons.mpr ⟨hfirst, hrest⟩
    · exact List.forall_mem_cons.mpr ⟨hfirst, ih hrest⟩

end OnLine

/-- Whether the rows of each line are the rows that have this line, in the order of the table. -/
structure IsMirrored (table : Definitions) : Prop where
  keys : ∀ entry ∈ table.byLine, entry.1.isScalar = true
  onLine_eq : ∀ line : Json, line.isScalar = true →
    table.onLine line = table.rows.filter fun row => Json.same row.line line

theorem isMirrored_empty : empty.IsMirrored :=
  ⟨nofun, fun _ _ => rfl⟩

/-- A row that is added joins both the list and its line.  If its line cannot be a key it joins the
list alone, and is on no line that is. -/
theorem IsMirrored.add {table : Definitions} (h : table.IsMirrored) (row : Definition) :
    (table.add row).1.IsMirrored := by
  rw [Definitions.add]
  split
  · rename_i hrow
    refine ⟨isScalar_of_mem_insertByLine h.keys hrow, fun line hline => ?_⟩
    have hfound : onLine ⟨table.rows ++ [row], table.byLine⟩ line =
        table.rows.filter fun row => Json.same row.line line := h.onLine_eq line hline
    rw [onLine_insertByLine _ h.keys hrow hline, hfound, List.filter_append, List.filter_cons]
    rfl
  · rename_i hrow
    refine ⟨h.keys, fun line hline => ?_⟩
    have hother : Json.same row.line line = false :=
      Json.same_eq_false_of_isScalar (Bool.eq_false_iff.mpr hrow) hline
    rw [List.filter_append, List.filter_cons_of_neg (by simp [hother]), List.filter_nil,
      List.append_nil]
    exact h.onLine_eq line hline

theorem isMirrored_of_ofRows {rows : List Definition} {table : Definitions}
    (h : ofRows rows = .ok table) : table.IsMirrored :=
  ofRows_induction isMirrored_empty (fun _ row htable => htable.add row) h

theorem isMirrored_of_ofField {field : Option Bytes} {table : Definitions}
    (h : ofField field = .ok table) : table.IsMirrored :=
  isMirrored_of_ofRows (ofRows_of_ofField h)

/-- The rows of a line are the rows with that line, in order. -/
theorem onLine_eq_filter {rows : List Definition} {table : Definitions}
    (h : ofRows rows = .ok table) {line : Json} (hline : line.isScalar = true) :
    table.onLine line = rows.filter fun row => Json.same row.line line := by
  rw [(isMirrored_of_ofRows h).onLine_eq line hline, (rows_of_ofRows h).1]

variable {table : Definitions}

theorem mem_rows_of_mem_onLine (hindex : table.IsIndexed) {line : Json} {row : Definition}
    (h : row ∈ table.onLine line) : row ∈ table.rows := by
  change row ∈ ((table.byLine.find? fun entry => Json.same entry.1 line).map (·.2)).getD [] at h
  cases hfind : table.byLine.find? fun entry => Json.same entry.1 line with
  | none =>
    rw [hfind] at h
    cases h
  | some entry =>
    rw [hfind] at h
    exact hindex entry (List.mem_of_find?_eq_some hfind) row h

/-- A table answers for a line that can be a key if the symbols on it are texts. -/
theorem ofLowered_eq_of_symbols {line : Json} (hline : line.isScalar = true)
    (hsymbols : ∀ row ∈ table.onLine line, ∃ t, row.symbol = .str t) (wanted : List Text) :
    table.ofLowered line wanted = .ok ((table.onLine line).filter fun row =>
      wanted.contains (lower ((row.symbol.text?).getD []))) := by
  rw [ofLowered, if_neg (by simp [hline])]
  refine filterM_eq_filter fun row hrow => ?_
  obtain ⟨symbol, hsymbol⟩ := hsymbols row hrow
  rw [Definition.lowerSymbol, hsymbol]
  rfl

/-- With regular rows a table answers for every line that can be a key. -/
theorem ofLowered_eq (hindex : table.IsIndexed) (hrows : ∀ row ∈ table.rows, row.IsRegular)
    {line : Json} (hline : line.isScalar = true) (wanted : List Text) :
    table.ofLowered line wanted = .ok ((table.onLine line).filter fun row =>
      wanted.contains (lower ((row.symbol.text?).getD []))) :=
  ofLowered_eq_of_symbols hline
    (fun row hrow => (hrows row (mem_rows_of_mem_onLine hindex hrow)).2.1) wanted

/-- Symbols that are texts are looked up in lower case. -/
theorem definitionsOf_map_str (table : Definitions) (line : Json) (symbols : List Text) :
    table.definitionsOf line (symbols.map .str) = table.ofLowered line (symbols.map lower) := by
  have hlower (f : Json → Except Fault Text) (hf : ∀ t, f (.str t) = .ok (lower t)) :
      (symbols.map Json.str).mapM f = .ok (symbols.map lower) := by
    induction symbols with
    | nil => rfl
    | cons symbol symbols ih =>
      rw [List.map_cons, List.mapM_cons, hf, ih]
      rfl
  rw [definitionsOf, hlower _ fun _ => rfl]
  rfl

end Definitions

/-! ## Scopes -/

namespace Json

/-- Numbers compare with numbers. -/
theorem succeeds_le {a b : Json} (ha : a.magnitude?.isSome = true)
    (hb : b.magnitude?.isSome = true) : Succeeds (a.le b) := by
  cases a <;> simp only [magnitude?, Option.isSome_none, Bool.false_eq_true] at ha <;>
    cases b <;> simp only [magnitude?, Option.isSome_none, Bool.false_eq_true] at hb <;>
    exact succeeds_ok _

/-- Numbers compare with nothing else. -/
theorem not_succeeds_le_of_int {n : Int} {b : Json} (hb : b.magnitude?.isSome = false) :
    ¬Succeeds (le (.int n) b) := by
  cases b <;> simp only [magnitude?, Option.isSome_some, Bool.true_eq_false] at hb <;>
    exact not_succeeds_error _

end Json

namespace Scope

variable {s : Scope} {line : Json}

theorem succeeds_contains (hs : s.IsRegular) (hline : line.magnitude?.isSome = true) :
    Succeeds (s.contains line) := by
  obtain ⟨⟨first, hfirst⟩, ⟨last, hlast⟩, _⟩ := hs
  obtain ⟨below, hbelow⟩ := Json.succeeds_le (a := .int first) rfl hline
  rw [contains, hfirst, hlast, succeeds_bind_iff]
  refine ⟨below, hbelow, ?_⟩
  split
  · exact Json.succeeds_le hline rfl
  · exact succeeds_ok _

theorem not_succeeds_contains (hs : s.IsRegular) (hline : line.magnitude?.isSome = false) :
    ¬Succeeds (s.contains line) := by
  obtain ⟨⟨first, hfirst⟩, _⟩ := hs
  rw [contains, hfirst, succeeds_bind_iff]
  intro h
  obtain ⟨below, hbelow, _⟩ := h
  exact Json.not_succeeds_le_of_int hline ⟨below, hbelow⟩

theorem exists_extent (hs : s.IsRegular) : ∃ n, s.extent = .ok (.int n) := by
  obtain ⟨⟨first, hfirst⟩, ⟨last, hlast⟩, _⟩ := hs
  refine ⟨last - first, ?_⟩
  rw [extent, hfirst, hlast]
  rfl

end Scope

namespace Scopes

theorem innermost_cons (line : Json) (best : Option Scope) (s : Scope) (rest : List Scope) :
    innermost line best (s :: rest) = s.contains line >>= fun inside =>
      if inside then
        match best with
        | none => innermost line (some s) rest
        | some b => s.extent >>= fun m => b.extent >>= fun n => m.lt n >>= fun smaller =>
          if smaller then innermost line (some s) rest else innermost line best rest
      else innermost line best rest := rfl

/-- Among regular scopes there is an innermost one for every number, or none contains it. -/
theorem exists_innermost {line : Json} (hline : line.magnitude?.isSome = true)
    {rows : List Scope} (hrows : ∀ s ∈ rows, s.IsRegular) {best : Option Scope}
    (hbest : ∀ s ∈ best, s.IsRegular) :
    ∃ found, innermost line best rows = .ok found ∧ ∀ s ∈ found, s.IsRegular := by
  induction rows generalizing best with
  | nil => exact ⟨best, rfl, hbest⟩
  | cons s rows ih =>
    have hs := hrows s List.mem_cons_self
    have hrest : ∀ r ∈ rows, r.IsRegular := fun r hr => hrows r (List.mem_cons_of_mem _ hr)
    have hsome : ∀ r ∈ some s, r.IsRegular := by
      intro r hr
      cases hr
      exact hs
    obtain ⟨inside, hinside⟩ := Scope.succeeds_contains hs hline
    rw [innermost_cons, hinside]
    cases inside with
    | false => exact ih hrest hbest
    | true =>
      cases best with
      | none => exact ih hrest hsome
      | some b =>
        obtain ⟨m, hm⟩ := Scope.exists_extent hs
        obtain ⟨n, hn⟩ := Scope.exists_extent (hbest b rfl)
        simp only [bind, Except.bind, if_true, hm, hn, Json.lt_int]
        split
        · exact ih hrest hsome
        · exact ih hrest hbest

/-- A table with regular rows answers for every number, and if it is empty for everything. -/
theorem exists_scopeAt {table : Scopes} (hrows : ∀ s ∈ table.rows, s.IsRegular) {line : Json}
    (hline : table.rows ≠ [] → line.magnitude?.isSome = true) :
    ∃ found, table.scopeAt line = .ok found ∧ ∀ s ∈ found, s.IsRegular := by
  unfold scopeAt
  by_cases hempty : table.rows = []
  · rw [hempty]
    exact ⟨none, rfl, nofun⟩
  · exact exists_innermost (hline hempty) hrows nofun

/-- Otherwise it does not. -/
theorem not_succeeds_scopeAt {table : Scopes} (hrows : ∀ s ∈ table.rows, s.IsRegular)
    (hne : table.rows ≠ []) {line : Json} (hline : line.magnitude?.isSome = false) :
    ¬Succeeds (table.scopeAt line) := by
  obtain ⟨s, rows, hlist⟩ := List.exists_cons_of_ne_nil hne
  have hs := hrows s (by rw [hlist]; exact List.mem_cons_self)
  rw [scopeAt, hlist, innermost_cons, succeeds_bind_iff]
  intro h
  obtain ⟨inside, hinside, _⟩ := h
  exact Scope.not_succeeds_contains hs hline ⟨inside, hinside⟩

end Scopes

end HitListing
