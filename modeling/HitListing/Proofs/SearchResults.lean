import HitListing.Proofs.FilledStore
import HitListing.Proofs.InvertedIndex
import HitListing.Proofs.StoredRows
import HitListing.Search

/-!
# What a search finds

A store is filled with documents whose blobs are made from a text and from a
definition table.  A search then finds exactly the documents that hold every
word of the query (`Search.search_filled`), by their paths: whatever way the
blobs have gone, words are those of the whole path and the whole text, and
symbols are those of the whole table.
-/

namespace HitListing

/-- A document before its blobs are made. -/
structure SourceDocument where
  path : Option Text
  genre : Option Text
  date : Option Text
  scopes : Option Bytes
  /-- What the positions are made of, if there are any. -/
  text : Option Text
  definitions : Option Definitions

namespace SourceDocument

/-- The fields that are stored of a document. -/
def toNew (d : SourceDocument) : NewDocument where
  path := d.path
  genre := d.genre
  date := d.date
  tags := d.definitions.map fun table => Utf8.encode table.serialize
  scopes := d.scopes
  positions := d.text.map fun t => (Positions.ofText t).encode

/-- Whether the blobs of a document can be read back: the symbols of its table are texts, its rows
can be stored, and the number of its lines is a numeral that the reader takes. -/
structure IsStorable (d : SourceDocument) : Prop where
  rows : ∀ table ∈ d.definitions, ∀ row ∈ table.rows, row.IsStorable ∧ ∃ t, row.symbol = .str t
  lines : ∀ t ∈ d.text, (indexLines t).length < 10 ^ maxDigits

/-- The symbols that a document defines. -/
def symbols (d : SourceDocument) : List Text :=
  (d.definitions.map fun table => table.rows.filterMap (·.symbol.text?)).getD []

/-- The terms that a document holds: its symbols, or the words of its path and of its text. -/
def terms (d : SourceDocument) (defSearch : Bool) : List Text :=
  if defSearch then d.symbols.map lower
  else (words (d.path.getD []) ++ words (d.text.getD [])).map lower

/-- Whether a document holds every word of a query. -/
def Answers (d : SourceDocument) (query : Text) (defSearch : Bool) : Prop :=
  ∀ word ∈ words query, lower word ∈ d.terms defSearch

instance (d : SourceDocument) (query : Text) (defSearch : Bool) :
    Decidable (d.Answers query defSearch) := by
  unfold Answers
  infer_instance

end SourceDocument

/-! ## The terms of a document -/

/-- The symbols of a table of texts in lower case. -/
theorem Definitions.exists_lowerSymbols {table : Definitions}
    (h : ∀ row ∈ table.rows, ∃ t, row.symbol = .str t) :
    ∃ found, table.lowerSymbols = .ok found ∧
      ∀ w, w ∈ found ↔ w ∈ (table.rows.filterMap (·.symbol.text?)).map lower := by
  have hscalar : ∀ v ∈ table.rows.map (·.symbol), v.isScalar = true := by
    rw [List.forall_mem_map]
    intro row hrow
    obtain ⟨t, ht⟩ := h row hrow
    rw [ht]
    rfl
  have hsymbols : table.symbols = .ok (Json.distinct (table.rows.map (·.symbol))) := by
    rw [symbols, if_pos]
    rw [List.all_eq_true]
    intro row hrow
    exact hscalar _ (List.mem_map_of_mem hrow)
  have htexts : ∀ v ∈ Json.distinct (table.rows.map (·.symbol)), ∃ t, v = .str t := by
    intro v hv
    obtain ⟨row, hrow, rfl⟩ := List.mem_map.mp (Json.mem_of_mem_distinct hv)
    exact h row hrow
  refine ⟨(Json.distinct (table.rows.map (·.symbol))).map fun v => lower (v.text?.getD []), ?_, ?_⟩
  · rw [lowerSymbols, hsymbols]
    apply mapM_eq_map
    intro v hv
    obtain ⟨t, rfl⟩ := htexts v hv
    rfl
  · intro w
    rw [List.mem_map, List.mem_map]
    constructor
    · intro hw
      obtain ⟨v, hv, rfl⟩ := hw
      obtain ⟨t, rfl⟩ := htexts v hv
      obtain ⟨row, hrow, hsymbol⟩ := List.mem_map.mp (Json.mem_of_mem_distinct hv)
      exact ⟨t, List.mem_filterMap.mpr ⟨row, hrow, by rw [hsymbol]; rfl⟩, rfl⟩
    · intro hw
      obtain ⟨t, ht, rfl⟩ := hw
      obtain ⟨row, hrow, ht⟩ := List.mem_filterMap.mp ht
      -- of equal symbols the set keeps one, which has the same text
      obtain ⟨v, hv, hkey⟩ := Json.exists_mem_distinct hscalar (List.mem_map_of_mem hrow)
      have htext : v.text? = row.symbol.text? := (Prod.mk.inj hkey).2
      exact ⟨v, hv, by rw [htext, ht]; rfl⟩

namespace Search

/-- The stored words of a text. -/
theorem exists_storedTerms {t : Text} (h : (indexLines t).length < 10 ^ maxDigits) :
    ∃ found, storedTerms (some (Positions.ofText t).encode) = .ok found ∧
      ∀ w, w ∈ found ↔ w ∈ (words t).map lower := by
  have hkeys : ((Positions.ofText t).termFields.map fun field => Json.str field.1).all
      Json.isScalar = true := by
    rw [List.all_map, List.all_eq_true]
    intro field _
    rfl
  have htexts : ((Positions.ofText t).termFields.map fun field => Json.str field.1).filterMap
      Json.text? = (Positions.ofText t).termFields.map Prod.fst := by
    rw [List.filterMap_map, ← List.filterMap_eq_map]
    rfl
  refine ⟨(Positions.ofText t).termFields.map Prod.fst, ?_, fun w => Positions.mem_keys_termFields⟩
  rw [storedTerms, Positions.ofBytes_encode h, Positions.toJson_eq, ← htexts]
  exact if_pos hkeys

/-- What a stored document holds. -/
theorem exists_termsOf {d : SourceDocument} (h : d.IsStorable) (id : Int) (defSearch : Bool) :
    ∃ found, termsOf (d.toNew.toRow id).toHit defSearch = .ok found ∧
      ∀ w, w ∈ found ↔ w ∈ d.terms defSearch := by
  unfold termsOf SourceDocument.terms
  cases defSearch with
  | true =>
    have htags : (d.toNew.toRow id).toHit.tags =
        d.definitions.map fun table => Utf8.encode table.serialize := rfl
    rw [if_pos rfl, if_pos rfl, htags, SourceDocument.symbols]
    cases htable : d.definitions with
    | none => exact ⟨[], rfl, fun w => Iff.rfl⟩
    | some table =>
      have hrows := h.rows table htable
      obtain ⟨stored, hstored, hsame⟩ :=
        Definitions.exists_deserialize_serialize fun row hrow => (hrows row hrow).1
      have htexts : ∀ row ∈ stored.rows, ∃ t, row.symbol = .str t := by
        rw [hsame]
        exact fun row hrow => (hrows row hrow).2
      obtain ⟨found, hfound, hmem⟩ := Definitions.exists_lowerSymbols htexts
      rw [hsame] at hmem
      refine ⟨found, ?_, hmem⟩
      rw [Option.map_some, Definitions.ofField, hstored]
      exact hfound
  | false =>
    have hpositions : (d.toNew.toRow id).toHit.positions =
        d.text.map fun t => (Positions.ofText t).encode := rfl
    have hpath : (d.toNew.toRow id).toHit.path = d.path := rfl
    rw [if_neg Bool.false_ne_true, if_neg Bool.false_ne_true, hpositions, hpath]
    cases htext : d.text with
    | none =>
      refine ⟨(words (d.path.getD [])).map lower ++ [], rfl, ?_⟩
      intro w
      rw [Option.getD_none, words_nil, List.append_nil, List.append_nil]
    | some t =>
      obtain ⟨found, hfound, hmem⟩ := exists_storedTerms (h.lines t htext)
      refine ⟨(words (d.path.getD [])).map lower ++ found, ?_, ?_⟩
      · rw [Option.map_some, hfound]
        rfl
      · intro w
        rw [List.mem_append, hmem, List.map_append, List.mem_append]
        rfl

/-- Whether a stored document answers a query can be said. -/
theorem answers_toRow {d : SourceDocument} (h : d.IsStorable) (id : Int) (query : Text)
    (defSearch : Bool) :
    answers (Query.parse query defSearch) (d.toNew.toRow id).toHit =
      .ok (decide (d.Answers query defSearch)) := by
  obtain ⟨found, hfound, hmem⟩ := exists_termsOf h id defSearch
  have hall : ((words query).map lower).all found.contains =
      decide (d.Answers query defSearch) := by
    rw [Bool.eq_iff_iff, List.all_map, List.all_eq_true, decide_eq_true_eq]
    simp only [Function.comp_apply, List.contains_iff_mem, hmem]
    rfl
  rw [← hall]
  show (termsOf _ defSearch >>= _) = _
  rw [hfound]
  rfl

/-! ## The documents found -/

/-- The path of the document with an id, if it has one. -/
def pathOf (documents : List SourceDocument) (id : Int) : Option Text :=
  documents[(id - 1).toNat]?.bind (·.path)

/-- The rows of the documents that answer a query, in order. -/
def foundRows (documents : List SourceDocument) (query : Text) (defSearch : Bool) : List Row :=
  ((Store.filledRows (documents.map (·.toNew))).mergeSort Store.rowLe).filter fun row =>
    answers (Query.parse query defSearch) row.toHit = .ok true

section Found

variable {documents : List SourceDocument} {query : Text} {defSearch : Bool}

theorem mem_filledRows {row : Row} :
    row ∈ Store.filledRows (documents.map (·.toNew)) ↔
      ∃ (n : Nat) (d : SourceDocument), documents[n]? = some d ∧ row = d.toNew.toRow (n + 1) := by
  rw [Store.mem_filledRows]
  simp only [List.getElem?_map, Option.map_eq_some_iff]
  constructor
  · intro h
    obtain ⟨n, _, ⟨d, hd, rfl⟩, rfl⟩ := h
    exact ⟨n, d, hd, rfl⟩
  · intro h
    obtain ⟨n, d, hd, rfl⟩ := h
    exact ⟨n, d.toNew, ⟨d, hd, rfl⟩, rfl⟩

/-- A search for some terms gives the ids of the rows found. -/
theorem search_eq (h : ∀ d ∈ documents, d.IsStorable) (hquery : words query ≠ []) :
    search (.ready (Store.filledRows (documents.map (·.toNew)))) (Query.parse query defSearch) =
      .ok ((foundRows documents query defSearch).map (·.id)) := by
  have hterms : (Query.parse query defSearch).terms.isEmpty = false := by
    rw [Query.parse, List.isEmpty_eq_false_iff, ne_eq, List.map_eq_nil_iff]
    exact hquery
  have hanswers : ∀ hit ∈ ((Store.filledRows (documents.map (·.toNew))).mergeSort
      Store.rowLe).map (·.toHit), answers (Query.parse query defSearch) hit =
        .ok (decide (answers (Query.parse query defSearch) hit = .ok true)) := by
    intro hit hhit
    obtain ⟨row, hrow, rfl⟩ := List.mem_map.mp hhit
    obtain ⟨n, d, hd, rfl⟩ := mem_filledRows.mp (List.mem_mergeSort.mp hrow)
    rw [answers_toRow (h d (List.mem_of_getElem? hd))]
    cases decide (d.Answers query defSearch) with
    | true => rfl
    | false => rfl
  rw [search, hterms, if_neg Bool.false_ne_true]
  show ((((Store.filledRows (documents.map (·.toNew))).mergeSort Store.rowLe).map
    (·.toHit)).filterM _ >>= fun found => Except.ok (found.map fun hit : Hit => hit.id)) = _
  rw [filterM_eq_filter hanswers, List.filter_map]
  show Except.ok _ = _
  rw [List.map_map]
  rfl

/-- The rows found are those of the documents that answer. -/
theorem mem_foundRows (h : ∀ d ∈ documents, d.IsStorable) {row : Row} :
    row ∈ foundRows documents query defSearch ↔
      ∃ (n : Nat) (d : SourceDocument), documents[n]? = some d ∧ row = d.toNew.toRow (n + 1) ∧
        d.Answers query defSearch := by
  rw [foundRows, List.mem_filter, List.mem_mergeSort, mem_filledRows, decide_eq_true_eq]
  constructor
  · intro hrow
    obtain ⟨⟨n, d, hd, rfl⟩, hanswer⟩ := hrow
    rw [answers_toRow (h d (List.mem_of_getElem? hd))] at hanswer
    exact ⟨n, d, hd, rfl, of_decide_eq_true (Except.ok.inj hanswer)⟩
  · intro hrow
    obtain ⟨n, d, hd, rfl, hanswer⟩ := hrow
    refine ⟨⟨n, d, hd, rfl⟩, ?_⟩
    rw [answers_toRow (h d (List.mem_of_getElem? hd)), decide_eq_true hanswer]

/-- The row of a document is found under the path of its id. -/
theorem pathOf_id {row : Row} (h : row ∈ foundRows documents query defSearch) :
    pathOf documents row.id = row.path := by
  obtain ⟨n, d, hd, rfl⟩ := mem_filledRows.mp (List.mem_mergeSort.mp (List.mem_filter.mp h).1)
  have hplace : ((d.toNew.toRow (n + 1)).id - 1).toNat = n := by
    show ((n : Int) + 1 - 1).toNat = n
    omega
  rw [pathOf, hplace, hd]
  rfl

/-- Different rows have different ids. -/
theorem foundRows_pairwise_ne (documents : List SourceDocument) (query : Text)
    (defSearch : Bool) :
    (foundRows documents query defSearch).Pairwise fun a b => a.id ≠ b.id := by
  have hids : ((Store.filledRows (documents.map (·.toNew))).map (·.id)).Nodup :=
    List.pairwise_map.mpr ((Store.filledRows_pairwise _).imp fun hab => ne_of_lt hab)
  have hsorted : (((Store.filledRows (documents.map (·.toNew))).mergeSort Store.rowLe).map
      (·.id)).Nodup :=
    ((List.mergeSort_perm _ _).map _).nodup_iff.mpr hids
  exact (List.pairwise_map.mp hsorted).filter _

/-- The rows found stand in the order of their paths, and with the same path in that of their
ids. -/
theorem foundRows_pairwise (documents : List SourceDocument) (query : Text) (defSearch : Bool) :
    (foundRows documents query defSearch).Pairwise fun a b =>
      Store.pathLe a.path b.path = true ∧ (a.path = b.path → a.id < b.id) := by
  have hle : (foundRows documents query defSearch).Pairwise fun a b => Store.rowLe a b = true :=
    (Store.pairwise_mergeSort_rowLe _).filter _
  refine (hle.and (foundRows_pairwise_ne documents query defSearch)).imp ?_
  intro a b h
  obtain ⟨hrow, hne⟩ := h
  obtain ⟨hpath, hid⟩ := (Store.rowLe_iff a b).mp hrow
  refine ⟨hpath, ?_⟩
  intro hsame
  have := hid hsame
  omega

/-- The paths found, up to their order. -/
theorem map_path_foundRows_perm (h : ∀ d ∈ documents, d.IsStorable) :
    ((foundRows documents query defSearch).map (·.path)).Perm
      ((documents.filter fun d => d.Answers query defSearch).map (·.path)) := by
  have hunsorted : ∀ start : Nat,
      ((((documents.map (·.toNew)).zipIdx start).map fun p => p.1.toRow (p.2 : Nat)).filter
        fun row => answers (Query.parse query defSearch) row.toHit = .ok true).map (·.path) =
      (documents.filter fun d => d.Answers query defSearch).map (·.path) := by
    induction documents with
    | nil =>
      intro start
      rfl
    | cons d documents ih =>
      intro start
      obtain ⟨hd, hrest⟩ := List.forall_mem_cons.mp h
      have hanswer := answers_toRow hd start query defSearch
      rw [List.map_cons, List.zipIdx_cons, List.map_cons]
      by_cases hholds : d.Answers query defSearch
      · rw [decide_eq_true hholds] at hanswer
        rw [List.filter_cons_of_pos (by simpa using hanswer),
          List.filter_cons_of_pos (by simpa using hholds), List.map_cons, List.map_cons,
          ih hrest (start + 1)]
        rfl
      · rw [decide_eq_false hholds] at hanswer
        rw [List.filter_cons_of_neg (by simp [hanswer]),
          List.filter_cons_of_neg (by simpa using hholds), ih hrest (start + 1)]
  rw [← hunsorted 1]
  exact ((List.mergeSort_perm _ _).filter _).map _

/-- The paths found do not depend on the order in which the documents were added. -/
theorem map_path_foundRows_eq {others : List SourceDocument} (h : ∀ d ∈ documents, d.IsStorable)
    (hperm : others.Perm documents) :
    (foundRows others query defSearch).map (·.path) =
      (foundRows documents query defSearch).map (·.path) := by
  have hothers : ∀ d ∈ others, d.IsStorable := fun d hd => h d (hperm.mem_iff.mp hd)
  have hsorted : ∀ documents : List SourceDocument,
      ((foundRows documents query defSearch).map (·.path)).Pairwise
        fun p q => Store.pathLe p q = true := by
    intro documents
    rw [List.pairwise_map]
    exact (foundRows_pairwise documents query defSearch).imp And.left
  apply List.Perm.eq_of_pairwise _ (hsorted others) (hsorted documents)
  · exact (map_path_foundRows_perm hothers).trans
      (((hperm.filter _).map _).trans (map_path_foundRows_perm h).symm)
  · intro p q _ _
    exact Store.pathLe_antisymm

/-- The paths under the ids found are those of the rows found. -/
theorem map_pathOf_ids (documents : List SourceDocument) (query : Text) (defSearch : Bool) :
    ((foundRows documents query defSearch).map (·.id)).map (pathOf documents) =
      (foundRows documents query defSearch).map (·.path) := by
  rw [List.map_map]
  apply List.map_congr_left
  intro row hrow
  exact pathOf_id hrow

end Found

/-- What a search finds in a store that has been filled with documents. -/
theorem search_filled (documents : List SourceDocument) (h : ∀ d ∈ documents, d.IsStorable)
    (query : Text) (defSearch : Bool) :
    ∃ s ids, Store.empty.addAll (documents.map (·.toNew)) = .ok s ∧
      search s (Query.parse query defSearch) = .ok ids ∧
      (words query = [] → ids = []) ∧
      (words query ≠ [] →
        ids.Nodup ∧
        (∀ id, id ∈ ids ↔ ∃ (n : Nat) (d : SourceDocument),
          documents[n]? = some d ∧ id = n + 1 ∧ d.Answers query defSearch) ∧
        ids.Pairwise fun a b =>
          Store.pathLe (pathOf documents a) (pathOf documents b) = true ∧
            (pathOf documents a = pathOf documents b → a < b)) ∧
      ∀ others, others.Perm documents → ∃ s' ids',
        Store.empty.addAll (others.map (·.toNew)) = .ok s' ∧
          search s' (Query.parse query defSearch) = .ok ids' ∧
          ids'.map (pathOf others) = ids.map (pathOf documents) := by
  by_cases hquery : words query = []
  · have hnone : ∀ s, search s (Query.parse query defSearch) = .ok [] := by
      intro s
      rw [search, Query.parse, hquery]
      rfl
    refine ⟨_, [], Store.addAll_empty _, hnone _, fun _ => rfl, fun hne => absurd hquery hne, ?_⟩
    intro others _
    exact ⟨_, [], Store.addAll_empty _, hnone _, rfl⟩
  · refine ⟨_, _, Store.addAll_empty _, search_eq h hquery, fun hnone => absurd hnone hquery, ?_,
      ?_⟩
    · intro _
      refine ⟨?_, ?_, ?_⟩
      · exact List.pairwise_map.mpr (foundRows_pairwise_ne documents query defSearch)
      · intro id
        rw [List.mem_map]
        constructor
        · intro hid
          obtain ⟨row, hrow, rfl⟩ := hid
          obtain ⟨n, d, hd, rfl, hanswer⟩ := (mem_foundRows h).mp hrow
          exact ⟨n, d, hd, rfl, hanswer⟩
        · intro hid
          obtain ⟨n, d, hd, rfl, hanswer⟩ := hid
          exact ⟨d.toNew.toRow (n + 1), (mem_foundRows h).mpr ⟨n, d, hd, rfl, hanswer⟩, rfl⟩
      · rw [List.pairwise_map]
        apply (foundRows_pairwise documents query defSearch).imp_of_mem
        intro a b ha hb hab
        rw [pathOf_id ha, pathOf_id hb]
        exact hab
    · intro others hperm
      have hothers : ∀ d ∈ others, d.IsStorable := fun d hd => h d (hperm.mem_iff.mp hd)
      refine ⟨_, _, Store.addAll_empty _, search_eq hothers hquery, ?_⟩
      rw [map_pathOf_ids, map_pathOf_ids, map_path_foundRows_eq h hperm]

/-- A document with a text, and one with a definition. -/
def twoDocuments : List SourceDocument :=
  [⟨some "b.c".toList, some "p".toList, none, none, some "int foo;\nfoo = 1;\n".toList, none⟩,
    ⟨some "a/foo.c".toList, some "p".toList, none, none, none,
      some ⟨[⟨.int 1, .str "Foo".toList, .str "function".toList, .str []⟩], []⟩⟩]

theorem isStorable_twoDocuments : ∀ d ∈ twoDocuments, d.IsStorable := by
  intro d hd
  rcases List.mem_cons.mp hd with rfl | hd
  · refine ⟨nofun, ?_⟩
    intro t ht
    obtain rfl := Option.some.inj ht
    have hlines : (indexLines "int foo;\nfoo = 1;\n".toList).length < 10 ^ 1 := by decide
    exact Nat.lt_of_lt_of_le hlines (Nat.pow_le_pow_right (by decide) (by decide))
  · obtain rfl := List.mem_singleton.mp hd
    refine ⟨?_, nofun⟩
    intro table htable row hrow
    obtain rfl := Option.some.inj htable
    obtain rfl := List.mem_singleton.mp hrow
    have hkeys : (["line", "symbol", "type", "text"].map String.toList).Nodup := by decide
    exact ⟨⟨rfl, ⟨hkeys, trivial, trivial, trivial, trivial, trivial⟩, by decide⟩, _, rfl⟩

/-- The case of these documents: a search for a word of the text of one and of the path of the
other. -/
theorem search_filled_twoDocuments :
    (∀ d ∈ twoDocuments, d.IsStorable) ∧
      ∃ s ids, Store.empty.addAll (twoDocuments.map (·.toNew)) = .ok s ∧
        search s (Query.parse "FOO" false) = .ok ids ∧
        ∀ id, id ∈ ids ↔ ∃ (n : Nat) (d : SourceDocument),
          twoDocuments[n]? = some d ∧ id = n + 1 ∧ d.Answers "FOO" false := by
  obtain ⟨s, ids, hs, hids, _, hfound, _⟩ :=
    search_filled twoDocuments isStorable_twoDocuments "FOO" false
  have hquery : words "FOO" ≠ [] := by decide
  exact ⟨isStorable_twoDocuments, s, ids, hs, hids, (hfound hquery).2.1⟩

end Search

end HitListing
