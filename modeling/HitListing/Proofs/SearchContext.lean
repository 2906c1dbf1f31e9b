import HitListing.Proofs.InvertedIndex
import HitListing.Proofs.QueryWords
import HitListing.Proofs.SearchResults
import HitListing.Proofs.ShownLines
import HitListing.Proofs.StoredFaults
import HitListing.Proofs.StoreRuns

/-!
# Search and context agree

A search looks at the symbols and the words of a document, a context at the
matches on each line, at the definitions by line and at a limit.  Still no
document that is found has an empty context
(`StoredContext.exists_lines_of_search`): what the search has found stands on
some line, this line is one of those that the positions give, and it is chosen.

The lines that are shown are known exactly (`StoredContext.render_eq_take`).
-/

namespace HitListing

/-! ## Documents that are found -/

namespace Search

/-- A document that is found answers the query, which has some term. -/
theorem answers_of_mem_search {s : Store} {live : List Row} (hstore : s.Holds live) {row : Row}
    (hrow : row ∈ live) {query : Query} {ids : List Int} (h : search s query = .ok ids)
    (hid : row.id ∈ ids) : query.terms ≠ [] ∧ answers query row.toHit = .ok true := by
  rw [search] at h
  split at h
  · cases h
    cases hid
  · rename_i hterms
    obtain ⟨hits, hlist, hperm, _⟩ := hstore.list
    rw [hlist] at h
    change (hits.filterM (answers query) >>= fun found => Except.ok (found.map (·.id))) = _ at h
    obtain ⟨found, hfound, h⟩ := exists_of_bind_eq_ok h
    cases h
    obtain ⟨hit, hhit, hsame⟩ := List.mem_map.mp hid
    obtain ⟨hlisted, hanswers⟩ := (mem_of_filterM hfound).mp hhit
    obtain ⟨other, hother, rfl⟩ := List.mem_map.mp (hperm.mem_iff.mp hlisted)
    -- both are what the store has under the id
    have hid : other.id = row.id := hsame
    have hget := hstore.get_live other hother
    rw [hid, hstore.get_live row hrow] at hget
    rw [Except.ok.inj hget]
    exact ⟨by simpa using hterms, hanswers⟩

/-- A document that answers a query holds all of its terms. -/
theorem exists_termsOf_of_answers {query : Query} {hit : Hit} (h : answers query hit = .ok true) :
    ∃ found, termsOf hit query.defSearch = .ok found ∧ ∀ term ∈ query.terms, term ∈ found := by
  obtain ⟨found, hfound, h⟩ := exists_of_bind_eq_ok h
  refine ⟨found, hfound, fun term hterm => ?_⟩
  have hall := List.all_eq_true.mp (Except.ok.inj h) term hterm
  simpa using hall

end Search

/-! ## Hits with the positions of their file -/

/-- Whether a hit is as it is stored for a file with a text: it has the date of the file and the
positions of the text, and its tables are read as these, each symbol a word of the line that it is
defined on. -/
structure Hit.IsOf (hit : Hit) (tree : FileTree) (root : Path) (path t : Text)
    (definitions : Definitions) (scopes : Scopes) : Prop where
  path_eq : hit.path = some path
  date : ∃ date, hit.date = some date ∧ TextFile.modifiedDate tree root path = .ok (some date)
  positions_eq : hit.positions = some (Positions.ofText t).encode
  lines : (indexLines t).length < 10 ^ maxDigits
  tables : hit.HasTables definitions scopes
  symbols : ∀ d ∈ definitions.rows, ∃ (n : Nat) (line symbol : Text), d.line = .int n ∧
    d.symbol = .str symbol ∧ IsIndexLine t n line ∧ symbol ∈ words line

namespace StoredContext

section Render

variable {hit : Hit} {tree : FileTree} {root : Path} {path t : Text} {definitions : Definitions}
  {scopes : Scopes} {c : SourceContext} {xrefBase moreBase : Text} {tabSize : Int}

/-- The context of such a hit shows the first lines of its text that are chosen, and a link if
there are more. -/
theorem render_eq_take (hhit : hit.IsOf tree root path t definitions scopes)
    (htab : tabSize < tabSizeBound) {room : Nat}
    (hroom : c.limit = room) :
    let v : FileView := ⟨path, xrefBase, moreBase, some definitions, some scopes, tabSize⟩
    let chosen := (matchingLines t c.terms).filterMap (c.shownLine? v)
    render c tree root hit xrefBase moreBase tabSize = .ok (.fragment
      ((chosen.take room).flatMap (·.markup v.link) ++
        if room < chosen.length then c.moreLink v else [])) := by
  intro v chosen
  obtain ⟨date, hdate, hfile⟩ := hhit.date
  have htables : tables? (Positions.ofText t).encode =
      some (.obj (Positions.ofText t).termFields, .obj (Positions.ofText t).lineFields) := by
    rw [tables?, Positions.ofBytes_encode hhit.lines]
    rfl
  have hv : v.IsRegular := hhit.tables.isRegular path xrefBase moreBase tabSize
  have hroom : c.limit = (0 + room : Nat) := by omega
  have hnumbers : ∀ p ∈ matchingLines t c.terms, p.2 < 10 ^ maxDigits := fun p hp =>
    Nat.lt_of_le_of_lt (mem_matchingLines.mp hp).1.le_length hhit.lines
  have hlines := SourceContext.renderFrom_eq_take hv htab hnumbers hroom
  rw [render_of_date hhit.path_eq hhit.positions_eq hdate hfile htables, numbers_ofText,
    hhit.tables.definitions_eq, hhit.tables.scopes_eq]
  simp only [bind, Except.bind, filterMap_line?_ofText, SourceContext.renderLines]
  rw [hlines]
  rfl

/-- A line that is shown is a line of the text, with the number that it is shown under. -/
theorem isIndexLine_of_shown {v : FileView} {wanted : Terms} {room : Nat} {s : ContextLine}
    (hs : s ∈ ((matchingLines t wanted).filterMap (c.shownLine? v)).take room) :
    IsIndexLine t s.number s.line ∧ c.shownLine? v (s.line, s.number) = some s := by
  obtain ⟨⟨line, n⟩, hline, hshown⟩ := List.mem_filterMap.mp (List.mem_of_mem_take hs)
  obtain ⟨hnumber, htext, _⟩ := SourceContext.of_shownLine?_eq_some hshown
  rw [hnumber, htext]
  exact ⟨(mem_matchingLines.mp hline).1, hshown⟩

/-- If there is room for a line, and some line of the text is chosen, then some line is shown. -/
theorem shown_ne_nil {v : FileView} {room : Nat} (hroom : 1 ≤ room) {n : Nat} {line : Text}
    (hline : IsIndexLine t n line) (hmatched : c.terms.matched line ≠ [])
    (hchosen : ∃ s, c.shownLine? v (line, n) = some s) :
    ((matchingLines t c.terms).filterMap (c.shownLine? v)).take room ≠ [] := by
  obtain ⟨s, hs⟩ := hchosen
  have hmem : s ∈ (matchingLines t c.terms).filterMap (c.shownLine? v) :=
    List.mem_filterMap.mpr ⟨(line, n), mem_matchingLines.mpr ⟨hline, hmatched⟩, hs⟩
  rw [ne_eq, List.take_eq_nil_iff, not_or]
  exact ⟨by omega, List.ne_nil_of_mem hmem⟩

end Render

/-- Whether a context is made of lines, and at least one: lines of a text with a property, and
perhaps the link to all lines behind them. -/
def HasLines (c : SourceContext) (v : FileView) (t : Text) (P : ContextLine → Prop) :
    StoredContext → Prop
  | .fragment markup => ∃ shown more, markup = shown.flatMap (·.markup v.link) ++ more ∧
      (more = [] ∨ more = c.moreLink v) ∧ shown ≠ [] ∧
      ∀ s ∈ shown, IsIndexLine t s.number s.line ∧ P s
  | .needsFallback _ => False

section Search

variable {tree : FileTree} {root : Path} {path t : Text} {definitions : Definitions}
  {scopes : Scopes} {hit : Hit}

/-- If some line of the text is chosen, the context shows lines, and only such as are chosen. -/
theorem exists_hasLines (hhit : hit.IsOf tree root path t definitions scopes) {c : SourceContext}
    (hlimit : 1 ≤ c.limit) {tabSize : Int} (htab : tabSize < tabSizeBound)
    (xrefBase moreBase : Text) {P : ContextLine → Prop} :
    let v : FileView := ⟨path, xrefBase, moreBase, some definitions, some scopes, tabSize⟩
    (∃ n line, IsIndexLine t n line ∧ c.terms.matched line ≠ [] ∧
      ∃ s, c.shownLine? v (line, n) = some s) →
    (∀ s, c.shownLine? v (s.line, s.number) = some s → P s) →
    ∃ context, render c tree root hit xrefBase moreBase tabSize = .ok context ∧
      context.HasLines c v t P := by
  intro v hchosen hP
  obtain ⟨n, line, hline, hmatched, hchosen⟩ := hchosen
  have hroom : c.limit = (c.limit.toNat : Nat) := by omega
  refine ⟨_, render_eq_take hhit htab hroom, _, _, rfl, ?_,
    shown_ne_nil (by omega) hline hmatched hchosen, ?_⟩
  · split
    · exact Or.inr rfl
    · exact Or.inl rfl
  · intro s hs
    obtain ⟨hline, hshown⟩ := isIndexLine_of_shown hs
    exact ⟨hline, hP s hshown⟩

/-- If terms name a definition on some line, a definition search for them shows lines, each with
the type of the first definition that they name on it. -/
theorem exists_hasLines_of_isNamedOn (hhit : hit.IsOf tree root path t definitions scopes)
    {terms : List Text} (hterms : ∀ w, w ∈ (Terms.ofList terms).all ↔ w ∈ terms)
    {d : Definition} (hd : d ∈ definitions.rows) {n : Nat} {line : Text}
    (hindex : IsIndexLine t n line) (hnames : d.IsNamedOn terms n line)
    {limit tabSize : Int} (hlimit : 1 ≤ limit) (htab : tabSize < tabSizeBound)
    (xrefBase moreBase : Text) :
    let v : FileView := ⟨path, xrefBase, moreBase, some definitions, some scopes, tabSize⟩
    let c : SourceContext := ⟨.ofList terms, true, limit⟩
    ∃ context, render c tree root hit xrefBase moreBase tabSize = .ok context ∧
      context.HasLines c v t (·.HasTypeOf definitions.rows terms) := by
  intro v c
  have hv : v.IsRegular := hhit.tables.isRegular path xrefBase moreBase tabSize
  have hmade := Definitions.ofRows_of_ofField hhit.tables.definitions_eq
  have hline : c.lineTerms = .ofList terms := SourceContext.lineTerms_ofList terms true limit
  refine exists_hasLines hhit hlimit htab xrefBase moreBase ⟨n, line, hindex, ?_, ?_⟩
    fun s hs => ?_
  · obtain ⟨_, symbol, _, hterm, hword⟩ := hnames
    exact Terms.matched_ne_nil_iff.mpr ⟨_, (hterms _).mpr hterm, hword⟩
  · apply SourceContext.exists_shownLine?_of_isNamedOn hv htab rfl hmade hd
    rw [hline, Definition.isNamedOn_congr hterms]
    exact hnames
  · have htype := SourceContext.hasTypeOf_of_shownLine? rfl hmade
      hhit.tables.definitions_regular rfl hs
    rw [hline, ContextLine.hasTypeOf_congr hterms] at htype
    exact htype

/-- If some term is a word of the text, a plain search for the terms shows lines, each with a term
in bold. -/
theorem exists_hasLines_of_mem_words (hhit : hit.IsOf tree root path t definitions scopes)
    {terms : List Text} (hterms : ∀ w, w ∈ (Terms.ofList terms).all ↔ w ∈ terms)
    {term : Text} (hterm : term ∈ terms) (hword : term ∈ (words t).map lower)
    {limit tabSize : Int} (hlimit : 1 ≤ limit) (htab : tabSize < tabSizeBound)
    (xrefBase moreBase : Text) :
    let v : FileView := ⟨path, xrefBase, moreBase, some definitions, some scopes, tabSize⟩
    let c : SourceContext := ⟨.ofList terms, false, limit⟩
    ∃ context, render c tree root hit xrefBase moreBase tabSize = .ok context ∧
      context.HasLines c v t (·.HasBold terms) := by
  intro v c
  have hv : v.IsRegular := hhit.tables.isRegular path xrefBase moreBase tabSize
  have hline : c.lineTerms = .ofList terms := SourceContext.lineTerms_ofList terms false limit
  obtain ⟨n, hn⟩ := List.exists_mem_of_ne_nil _ (Positions.lineNumbers_ne_nil_iff.mpr hword)
  obtain ⟨line, hindex, hin⟩ := mem_lineNumbers.mp hn
  have hmatched : c.terms.matched line ≠ [] :=
    Terms.matched_ne_nil_iff.mpr ⟨term, (hterms term).mpr hterm, hin⟩
  have hnumber : (Json.int n).isScalar = true := rfl
  -- the line is chosen whatever definitions are on it
  obtain ⟨found, hfound, hregular⟩ :=
    SourceContext.exists_definitionsOn hv hnumber (c.lineTerms.matched line)
  refine exists_hasLines hhit hlimit htab xrefBase moreBase ⟨n, line, hindex, hmatched, ?_⟩
    fun s hs => ?_
  · refine SourceContext.exists_shownLine? hv htab (p := (line, n)) ?_ hfound hregular nofun
    rw [hline]
    exact hmatched
  · obtain ⟨word, hword, hterm, hbold⟩ := SourceContext.hasBold_of_shownLine? hs
    rw [hline, hterms] at hterm
    exact ⟨word, hword, hterm, hbold⟩

/-- A definition search that finds a document has a definition to show on some line of it. -/
theorem exists_isNamedOn_of_search {s : Store} {live : List Row} {row : Row}
    (hstore : s.Holds live) (hrow : row ∈ live)
    (hhit : row.toHit.IsOf tree root path t definitions scopes) {q : Text} {ids : List Int}
    (h : Search.search s (Query.parse q true) = .ok ids) (hid : row.id ∈ ids) :
    ∃ d ∈ definitions.rows, ∃ n line, IsIndexLine t n line ∧
      d.IsNamedOn (Query.parse q true).terms n line := by
  obtain ⟨hne, hanswers⟩ := Search.answers_of_mem_search hstore hrow h hid
  obtain ⟨found, hfound, hall⟩ := Search.exists_termsOf_of_answers hanswers
  obtain ⟨term, hterm⟩ := List.exists_mem_of_ne_nil _ hne
  have htexts : ∀ d ∈ definitions.rows, ∃ symbol, d.symbol = .str symbol := fun d hd =>
    (hhit.tables.definitions_regular d hd).2.1
  obtain ⟨symbols, hsymbols, hmem⟩ := Definitions.exists_lowerSymbols htexts
  have hterms : Search.termsOf row.toHit true = .ok symbols := by
    rw [Search.termsOf, if_pos rfl, hhit.tables.definitions_eq]
    exact hsymbols
  obtain rfl : found = symbols := Except.ok.inj (hfound.symm.trans hterms)
  obtain ⟨symbol, hsymbol, rfl⟩ := List.mem_map.mp ((hmem term).mp (hall term hterm))
  obtain ⟨d, hd, htext⟩ := List.mem_filterMap.mp hsymbol
  obtain ⟨n, line, word, hline, hword, hindex, hin⟩ := hhit.symbols d hd
  rw [hword] at htext
  obtain rfl : word = symbol := Option.some.inj htext
  exact ⟨d, hd, n, line, hindex, hline, word, hword, hterm, List.mem_map_of_mem hin⟩

/-- A document that a definition search finds has context lines, each with the type of the first
definition that a term of the query names on it.  A document with a term of the query in its text
has context lines for a plain search, whether or not the search finds it, each with a term in
bold.  All this is so for every tab width that is accepted (`tabSizeBound`); with a wider one no
line can be shown. -/
theorem exists_lines_of_search {s : Store} {live : List Row} {row : Row} (hstore : s.Holds live)
    (hrow : row ∈ live) (hhit : row.toHit.IsOf tree root path t definitions scopes) (q : Text)
    {limit tabSize : Int} (hlimit : 1 ≤ limit) (htab : tabSize < tabSizeBound)
    (xrefBase moreBase : Text) :
    let v : FileView := ⟨path, xrefBase, moreBase, some definitions, some scopes, tabSize⟩
    let terms := (Query.parse q true).terms
    let contextOf := fun defSearch => (⟨.ofList terms, defSearch, limit⟩ : SourceContext)
    (∀ ids, Search.search s (Query.parse q true) = .ok ids → row.id ∈ ids →
      ∃ context, render (contextOf true) tree root row.toHit xrefBase moreBase tabSize =
          .ok context ∧
        context.HasLines (contextOf true) v t (·.HasTypeOf definitions.rows terms)) ∧
    ((∃ term ∈ terms, term ∈ (words t).map lower) →
      ∃ context, render (contextOf false) tree root row.toHit xrefBase moreBase tabSize =
          .ok context ∧
        context.HasLines (contextOf false) v t (·.HasBold terms)) := by
  intro v terms contextOf
  have hterms : ∀ w, w ∈ (Terms.ofList terms).all ↔ w ∈ terms := fun w => Terms.mem_ofList_parse
  constructor
  · intro ids hsearch hid
    obtain ⟨d, hd, n, line, hindex, hnames⟩ :=
      exists_isNamedOn_of_search hstore hrow hhit hsearch hid
    exact exists_hasLines_of_isNamedOn hhit hterms hd hindex hnames hlimit htab xrefBase moreBase
  · intro h
    obtain ⟨term, hterm, hword⟩ := h
    exact exists_hasLines_of_mem_words hhit hterms hterm hword hlimit htab xrefBase moreBase

end Search

/-! ### A file with one definition -/

/-- The definition in a file of two lines. -/
def oneDefinition : Definitions :=
  let foo : Definition := ⟨.int 1, .str "foo".toList, .str "variable".toList, .str []⟩
  ⟨[foo], [(.int 1, [foo])]⟩

/-- A scope around both lines. -/
def oneScope : Scopes :=
  ⟨[⟨.int 1, .int 2, .str "all".toList, .str [], .str []⟩]⟩

/-- That file as it is stored. -/
def definedRow : Row where
  id := 1
  path := some "a.c".toList
  genre := some Genre.plain.code
  date := some "19700101000000000".toList
  tags := some (Utf8.encode oneDefinition.serialize)
  scopes := some (Utf8.encode oneScope.serialize)
  positions := some (Positions.ofText "int foo;\nfoo = 1;\n").encode

theorem hasTables_definedRow : definedRow.toHit.HasTables oneDefinition oneScope := by
  have hdefinition : ∀ d ∈ oneDefinition.rows, d.IsRegular := by
    intro d hd
    obtain rfl := List.mem_singleton.mp hd
    exact ⟨⟨_, rfl⟩, ⟨_, rfl⟩, ⟨_, rfl⟩, _, rfl⟩
  have hscope : ∀ s ∈ oneScope.rows, s.IsRegular := by
    intro s hs
    obtain rfl := List.mem_singleton.mp hs
    exact ⟨⟨_, rfl⟩, ⟨_, rfl⟩, ⟨_, rfl⟩, ⟨_, rfl⟩, _, rfl⟩
  refine ⟨?_, ?_, hdefinition, hscope⟩
  · refine Definitions.deserialize_serialize rfl fun d hd => (hdefinition d hd).isStorable ?_
    obtain rfl := List.mem_singleton.mp hd
    decide
  · refine Scopes.deserialize_serialize fun s hs => (hscope s hs).isStorable ?_
    obtain rfl := List.mem_singleton.mp hs
    decide

theorem isOf_definedRow : definedRow.toHit.IsOf (.ofFiles [SnippetExtractor.twoLineFile])
    (.ofText "src") "a.c" "int foo;\nfoo = 1;\n" oneDefinition oneScope where
  path_eq := rfl
  date := ⟨_, rfl, by decide +kernel⟩
  positions_eq := rfl
  lines := by
    have hlines : (indexLines "int foo;\nfoo = 1;\n".toList).length < 10 ^ 1 := by decide
    exact Nat.lt_of_lt_of_le hlines (Nat.pow_le_pow_right (by decide) (by decide))
  tables := hasTables_definedRow
  symbols := by
    intro d hd
    obtain rfl := List.mem_singleton.mp hd
    exact ⟨1, _, _, rfl, rfl, ⟨by decide, rfl⟩, by decide⟩

/-- The case of that file and a query for what it defines. -/
theorem exists_lines_of_search_definedRow :
    (Store.ready [definedRow]).Holds [definedRow] ∧
    definedRow.toHit.IsOf (.ofFiles [SnippetExtractor.twoLineFile]) (.ofText "src") "a.c"
      "int foo;\nfoo = 1;\n" oneDefinition oneScope ∧
    Search.search (.ready [definedRow]) (Query.parse "FOO" true) = .ok [1] ∧
    ∃ context, render ⟨.ofList (Query.parse "FOO" true).terms, true, 1⟩
        (.ofFiles [SnippetExtractor.twoLineFile]) (.ofText "src") definedRow.toHit "/xref" "/more"
        8 = .ok context ∧
      context.HasLines ⟨.ofList (Query.parse "FOO" true).terms, true, 1⟩
        ⟨"a.c", "/xref", "/more", some oneDefinition, some oneScope, 8⟩ "int foo;\nfoo = 1;\n"
        (·.HasTypeOf oneDefinition.rows (Query.parse "FOO" true).terms) := by
  have hstore : (Store.ready [definedRow]).Holds [definedRow] := by
    apply Store.holds_ready
    · exact List.pairwise_singleton _ _
    · intro row hrow
      obtain rfl := List.mem_singleton.mp hrow
      decide
  have hsearch : Search.search (.ready [definedRow]) (Query.parse "FOO" true) = .ok [1] := by
    decide +kernel
  have h := exists_lines_of_search hstore List.mem_cons_self isOf_definedRow "FOO"
    (by decide : (1 : Int) ≤ 1) (by decide : (8 : Int) < tabSizeBound) "/xref" "/more"
  exact ⟨hstore, isOf_definedRow, hsearch, h.1 [1] hsearch List.mem_cons_self⟩

end StoredContext

end HitListing
