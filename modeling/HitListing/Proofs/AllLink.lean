import HitListing.Context
import HitListing.Proofs.LinkDecoding
import HitListing.Proofs.Outcomes
import HitListing.Proofs.QueryWords

/-!
# The link to all lines

Behind the lines that are shown may stand a link to all of them, which carries the
terms of the query.  Reading its value as a query gives these terms again, unless
a capital I with a dot stands in the query (`SourceContext.allLink_carries_query`).
-/

namespace HitListing

namespace SourceContext

variable {c : SourceContext} {v : FileView}

/-- A line that is shown ends with a break. -/
theorem block_suffix {number : Json} {line start : Text} {found : List Definition}
    (h : c.block v number line found = .ok start) : "<br/>".toList <:+ start := by
  rw [block] at h
  obtain ⟨_, _, h⟩ := exists_of_bind_eq_ok h
  obtain ⟨_, _, h⟩ := exists_of_bind_eq_ok h
  obtain ⟨_, _, h⟩ := exists_of_bind_eq_ok h
  obtain ⟨_, _, h⟩ := exists_of_bind_eq_ok h
  cases h
  exact List.suffix_append _ _

/-- What is shown ends with the break behind a line or with the link to all lines. -/
theorem renderFrom_suffix {shown : Nat} {lines : List NumberedLine} {out : Text}
    (h : c.renderFrom v shown lines = .ok out) :
    out = [] ∨ "<br/>".toList <:+ out ∨ c.moreLink v <:+ out := by
  induction lines generalizing shown out with
  | nil =>
    cases h
    exact Or.inl rfl
  | cons item lines ih =>
    rw [renderFrom] at h
    obtain ⟨⟨number, line⟩, _, h⟩ := exists_of_bind_eq_ok h
    obtain ⟨selected, _, h⟩ := exists_of_bind_eq_ok h
    cases selected with
    | none => exact ih h
    | some choice =>
      obtain ⟨t, found⟩ := choice
      simp only at h
      split at h
      · cases h
        exact Or.inr (Or.inr (List.suffix_refl _))
      · obtain ⟨start, hstart, h⟩ := exists_of_bind_eq_ok h
        obtain ⟨more, hmore, h⟩ := exists_of_bind_eq_ok h
        cases h
        rcases ih hmore with rfl | hbreak | hlink
        · rw [List.append_nil]
          exact Or.inr (Or.inl (block_suffix hstart))
        · exact Or.inr (Or.inl (hbreak.trans (List.suffix_append _ _)))
        · exact Or.inr (Or.inr (hlink.trans (List.suffix_append _ _)))

/-- What ends with a link to all lines ends with the one for the query. -/
theorem moreLink_suffix {lines : List NumberedLine} {out : Text}
    (h : c.renderLines v lines = .ok out) (hlink : "[all...]</a>".toList <:+ out) :
    c.moreLink v <:+ out := by
  rcases renderFrom_suffix h with rfl | hbreak | hmore
  · exact absurd (List.suffix_nil.mp hlink) (by decide +kernel)
  · have hlength : "<br/>".toList.length ≤ "[all...]</a>".toList.length := by
      decide +kernel
    have hshort := List.suffix_of_suffix_length_le hbreak hlink hlength
    exact absurd hshort (by decide +kernel)
  · exact hmore

/-- The value of the link to all lines has no quote and no equals sign. -/
theorem exists_value_of_moreLink {out : Text} (h : c.moreLink v <:+ out) :
    ∃ front value : Text, out = front ++ "?t=" ++ value ++ "\">[all...]</a>" ∧ '"' ∉ value ∧
      '=' ∉ value ∧ Uri.decodeValue value = Text.join [' '] c.terms.all := by
  have hlink {d : Char} (hd : Uri.isUnreserved d = false ∧ d ≠ '%' ∧ d ≠ '/' ∧ d ≠ '+') :
      d ∉ Uri.encodeValue (Text.join [' '] c.terms.all) :=
    fun hin => (Uri.isLinkChar_encodeValue hin).ne_of_not_unreserved hd rfl
  obtain ⟨before, hout⟩ := h
  have hfront : out = (before ++ ("<a href=\"" ++ v.moreBase ++ "/" ++ Uri.encodePath v.path)) ++
      "?t=" ++ Uri.encodeValue (Text.join [' '] c.terms.all) ++ "\">[all...]</a>" := by
    rw [← hout]
    unfold moreLink
    simp only [List.append_assoc]
  exact ⟨_, _, hfront, hlink (by decide), hlink (by decide), Uri.decodeValue_encodeValue _⟩

/-- The terms that are joined in the link for a query, as a query again. -/
theorem sameTerms_iff (q : Text) (defSearch : Bool) :
    (∀ term, term ∈ (Query.parse (Text.join [' ']
        (Terms.ofList (Query.parse q defSearch).terms).all) defSearch).terms ↔
      term ∈ (Query.parse q defSearch).terms) ↔ '\u0130' ∉ q := by
  have hlower : ∀ term ∈ (Terms.ofList (Query.parse q defSearch).terms).all,
      ∀ c ∈ term, IsSettled c :=
    fun term hterm => Query.isSettled_of_mem_parse (Terms.mem_ofList_parse.mp hterm)
  constructor
  · intro h hdot
    obtain ⟨term, hterm, hin⟩ := Query.exists_mem_parse_of_mem hdot defSearch
    exact Query.not_mem_parse_join hlower ((h term).mpr hterm) hin
  · intro hdot term
    have hwords : ∀ term ∈ (Terms.ofList (Query.parse q defSearch).terms).all,
        term ≠ [] ∧ ∀ c ∈ term, isWordChar c = true :=
      fun term hterm => Query.isWordChar_of_mem_parse hdot (Terms.mem_ofList_parse.mp hterm)
    rw [Query.parse_join hwords hlower, Terms.mem_ofList_parse]

/-- The terms of a query, joined by spaces, as a query again. -/
theorem parse_join_parse_iff (q : Text) (defSearch : Bool) :
    (Query.parse (Text.join [' '] (Query.parse q defSearch).terms) defSearch).terms =
      (Query.parse q defSearch).terms ↔ '\u0130' ∉ q := by
  have hlower : ∀ term ∈ (Query.parse q defSearch).terms, ∀ c ∈ term, IsSettled c :=
    fun _ => Query.isSettled_of_mem_parse
  constructor
  · intro h hdot
    obtain ⟨term, hterm, hin⟩ := Query.exists_mem_parse_of_mem hdot defSearch
    rw [← h] at hterm
    exact Query.not_mem_parse_join hlower hterm hin
  · intro hdot
    exact Query.parse_join (fun _ => Query.isWordChar_of_mem_parse hdot) hlower defSearch

/-- The link to all lines carries a query with the terms of the query that the lines are shown for,
and the terms of a query joined by spaces are its terms again, exactly if no capital I with a dot
stands in the query. -/
theorem allLink_carries_query (q : Text) (defSearch : Bool) :
    (∀ (c : SourceContext) (v : FileView) (lines : List NumberedLine) (out : Text),
      c.terms = .ofList (Query.parse q defSearch).terms → c.renderLines v lines = .ok out →
        "[all...]</a>".toList <:+ out →
          ∃ front value : Text, out = front ++ "?t=" ++ value ++ "\">[all...]</a>" ∧ '"' ∉ value ∧
            '=' ∉ value ∧
            ((∀ term, term ∈ (Query.parse (Uri.decodeValue value) defSearch).terms ↔
                term ∈ (Query.parse q defSearch).terms) ↔ '\u0130' ∉ q)) ∧
      ((Query.parse (Text.join [' '] (Query.parse q defSearch).terms) defSearch).terms =
        (Query.parse q defSearch).terms ↔ '\u0130' ∉ q) := by
  refine ⟨?_, parse_join_parse_iff q defSearch⟩
  intro c v lines out hterms hrender hlink
  obtain ⟨front, value, hout, hquote, hequals, hvalue⟩ :=
    exists_value_of_moreLink (moreLink_suffix hrender hlink)
  refine ⟨front, value, hout, hquote, hequals, ?_⟩
  rw [hvalue, hterms]
  exact sameTerms_iff q defSearch

/-- A context that shows no line, only the link to all of them. -/
def linkOnly (q : Text) : SourceContext :=
  ⟨.ofList (Query.parse q false).terms, false, 0⟩

/-- A file without tables. -/
def plainView : FileView where
  path := "a.c"
  xrefBase := "/xref"
  moreBase := "/more"
  definitions := none
  scopes := none
  tabSize := 8

/-- The case of a query with one word. -/
theorem allLink_carries_query_word :
    let out : Text := "<a href=\"/more/a.c?t=a\">[all...]</a>"
    (linkOnly "A").renderLines plainView (numbered "a") = .ok out ∧
      "[all...]</a>".toList <:+ out ∧
      (∃ front value : Text, out = front ++ "?t=" ++ value ++ "\">[all...]</a>" ∧ '"' ∉ value ∧
        '=' ∉ value ∧
        ((∀ term, term ∈ (Query.parse (Uri.decodeValue value) false).terms ↔
            term ∈ (Query.parse "A" false).terms) ↔ '\u0130' ∉ "A".toList)) := by
  intro out
  have hrender : (linkOnly "A").renderLines plainView (numbered "a") = .ok out := by
    decide +kernel
  have hlink : "[all...]</a>".toList <:+ out := by
    decide +kernel
  exact ⟨hrender, hlink, (allLink_carries_query "A" false).1 _ _ _ _ rfl hrender hlink⟩

/-- The dot of a capital I is lost in the link, and when the terms are parsed again. -/
theorem not_carries_query_dottedI :
    (linkOnly "\u0130").renderLines plainView (numbered "\u0130") =
        .ok "<a href=\"/more/a.c?t=i%CC%87\">[all...]</a>" ∧
      ¬(∀ term, term ∈ (Query.parse (Uri.decodeValue "i%CC%87") false).terms ↔
        term ∈ (Query.parse "\u0130" false).terms) ∧
      (Query.parse (Text.join [' '] (Query.parse "\u0130" false).terms) false).terms ≠
        (Query.parse "\u0130" false).terms := by
  refine ⟨by decide +kernel, ?_, by decide +kernel⟩
  intro h
  have hlost : "i".toList ∈ (Query.parse "\u0130" false).terms :=
    (h "i".toList).mp (by decide +kernel)
  exact absurd hlost (by decide +kernel)

end SourceContext

end HitListing
