import HitListing.Proofs.ContextLimit

/-!
# The lines that a context shows

With regular tables, the context of some lines shows the first of those that are
chosen, as many as the limit allows, and behind them the link to all of them if
there are more (`SourceContext.renderFrom_eq_take`).

A line is chosen if a word in it matches, and in a definition search only if the
match names a definition on it (`SourceContext.exists_shownLine?`).  Its
matches are in bold (`Terms.exists_bold_of_highlight`), and behind it stands the
type of the first definition that is named.
-/

namespace HitListing

/-! ## Words in bold -/

/-- Each word of a line that matches is shown in bold. -/
theorem Terms.exists_bold_of_highlight {terms : Terms} {tabSize : Int} {line highlighted : Text}
    (h : terms.highlight tabSize line = .ok highlighted) {word : Text} (hword : word ∈ words line)
    (hterm : lower word ∈ terms.all) : Markup.bold word <:+: highlighted := by
  rw [highlight] at h
  cases hshown : layOut tabSize line with
  | error f =>
    rw [hshown] at h
    cases h
  | ok shown =>
    rw [hshown] at h
    cases h
    have hpiece : ⟨true, word⟩ ∈ pieces shown := by
      rw [← mem_words, words_layOut hshown]
      exact hword
    obtain ⟨before, after, hpieces⟩ := List.append_of_mem hpiece
    have hbold : terms.highlightPiece ⟨true, word⟩ = Markup.bold word := by
      simp [highlightPiece, has, hterm]
    rw [highlightText, hpieces, List.flatMap_append, List.flatMap_cons, hbold]
    exact ⟨_, _, List.append_assoc _ _ _⟩

/-! ## Definitions on a line -/

/-- Whether a definition is one of a line that a term names: its symbol in lower case is a term
and a word of the line. -/
def Definition.IsNamedOn (d : Definition) (terms : List Text) (n : Nat) (line : Text) : Prop :=
  d.line = .int n ∧ ∃ symbol, d.symbol = .str symbol ∧ lower symbol ∈ terms ∧
    lower symbol ∈ (words line).map lower

namespace SourceContext

/-- The definitions that a line is shown with are those that the terms name, in the order of the
table. -/
theorem exists_definitionsOn_eq_filter {v : FileView} {table : Definitions}
    (htable : v.definitions = some table) (hmade : Definitions.ofRows table.rows = .ok table)
    (hrows : ∀ d ∈ table.rows, d.IsRegular) (terms : Terms) (n : Nat) (line : Text) :
    ∃ named : Definition → Bool,
      definitionsOn v (.int n) (terms.matched line) = .ok (table.rows.filter named) ∧
      ∀ d ∈ table.rows, named d = true ↔ d.IsNamedOn terms.all n line := by
  refine ⟨fun d => Json.same d.line (.int n) &&
    (terms.matched line).contains (lower (d.symbol.text?.getD [])), ?_, ?_⟩
  · rw [definitionsOn, htable]
    simp only
    rw [Definitions.definitionsOf_map_str, Terms.map_lower_matched,
      Definitions.ofLowered_eq (Definitions.isIndexed_of_ofRows hmade) hrows rfl,
      Definitions.onLine_eq_filter hmade rfl, List.filter_filter]
    simp only [Bool.and_comm]
  · intro d hd
    obtain ⟨⟨m, hline⟩, ⟨symbol, hsymbol⟩, _⟩ := hrows d hd
    have htext : d.symbol.text?.getD [] = symbol := by
      rw [hsymbol]
      rfl
    rw [Bool.and_eq_true, List.contains_iff_mem, htext, Terms.mem_matched, hline, Json.same_int,
      decide_eq_true_eq, Definition.IsNamedOn, hline, hsymbol]
    simp [and_comm]

end SourceContext

/-! ## One line -/

/-- A line as it is shown: its number and its text, its text with the matches in bold, and what
stands behind it. -/
structure ContextLine where
  number : Nat
  line : Text
  highlighted : Text
  types : Text
  enclosing : Text
deriving DecidableEq

/-- The markup of a line, linked to its place. -/
def ContextLine.markup (link : Text) (s : ContextLine) : Text :=
  "<a class=\"s\" href=\"" ++ link ++ "#" ++ Text.ofNat s.number ++ "\"><span class=\"l\">" ++
    Text.ofNat s.number ++ "</span> " ++ s.highlighted ++ "</a>" ++ s.types ++ s.enclosing ++
    "<br/>"

/-- Whether a line is shown with the type of the first of some definitions that a term names on
it. -/
def ContextLine.HasTypeOf (s : ContextLine) (rows : List Definition) (terms : List Text) : Prop :=
  ∃ before d after type, rows = before ++ d :: after ∧
    d.IsNamedOn terms s.number s.line ∧ (∀ e ∈ before, ¬e.IsNamedOn terms s.number s.line) ∧
    d.type = .str type ∧ s.types = " <i>" ++ Markup.escape type ++ "</i>"

/-- Whether a line is shown with some term in bold. -/
def ContextLine.HasBold (s : ContextLine) (terms : List Text) : Prop :=
  ∃ word ∈ words s.line, lower word ∈ terms ∧ Markup.bold word <:+: s.highlighted

/-- Only the members of a list of terms count. -/
theorem Definition.isNamedOn_congr {terms others : List Text} (h : ∀ w, w ∈ terms ↔ w ∈ others)
    {d : Definition} {n : Nat} {line : Text} :
    d.IsNamedOn terms n line ↔ d.IsNamedOn others n line := by
  simp only [IsNamedOn, h]

theorem ContextLine.hasTypeOf_congr {terms others : List Text} (h : ∀ w, w ∈ terms ↔ w ∈ others)
    {s : ContextLine} {rows : List Definition} :
    s.HasTypeOf rows terms ↔ s.HasTypeOf rows others := by
  simp only [HasTypeOf, Definition.isNamedOn_congr h]

/-- The link to the file that is shown. -/
def FileView.link (v : FileView) : Text :=
  v.xrefBase ++ "/" ++ Uri.encodePath v.path

namespace SourceContext

/-- A line as it is shown with its definitions. -/
def contextLine? (c : SourceContext) (v : FileView) (p : Text × Nat) (found : List Definition) :
    Option ContextLine :=
  match c.lineTerms.highlight v.tabSize p.1, typeNote found, scopeNote v (.int p.2) with
  | .ok highlighted, .ok types, .ok enclosing => some ⟨p.2, p.1, highlighted, types, enclosing⟩
  | _, _, _ => none

/-- A line as it is shown, if it is chosen. -/
def shownLine? (c : SourceContext) (v : FileView) (p : Text × Nat) : Option ContextLine :=
  match c.shownWith v (.int p.2) p.1 with
  | .ok (some found) => c.contextLine? v p found
  | _ => none

variable {c : SourceContext} {v : FileView}

/-- With regular tables a line that is chosen can be shown, if its number has not too many
digits. -/
theorem exists_contextLine (hv : v.IsRegular) (htab : v.tabSize < tabSizeBound) (p : Text × Nat)
    {found : List Definition} (hfound : ∀ row ∈ found, row.IsRegular) :
    ∃ s, c.contextLine? v p found = some s ∧ (p.2 < 10 ^ maxDigits →
      c.block v (.int p.2) p.1 found = .ok (s.markup v.link)) := by
  obtain ⟨highlighted, hhighlighted⟩ := (succeeds_highlight_iff c.lineTerms v.tabSize p.1).mpr htab
  obtain ⟨types, htypes⟩ := succeeds_typeNote hfound
  obtain ⟨enclosing, henclosing⟩ := (succeeds_scopeNote_iff hv (.int p.2)).mpr (hasScopeOf_int v _)
  refine ⟨⟨p.2, p.1, highlighted, types, enclosing⟩, ?_, ?_⟩
  · simp only [contextLine?, hhighlighted, htypes, henclosing]
  · intro hnumber
    have hfits : (Json.int p.2).numeralsFit = true := by
      rw [Json.numeralsFit_int_iff]
      exact hnumber
    have hshown : (Json.int p.2).shown = .ok (Text.ofNat p.2) := Json.shown_of_fits hfits
    unfold block
    simp only [hhighlighted, htypes, henclosing, hshown, bind, Except.bind, pure, Except.pure]
    unfold ContextLine.markup FileView.link
    simp only [List.append_assoc]

/-- What a line that is chosen is shown with. -/
theorem of_shownLine?_eq_some {p : Text × Nat} {s : ContextLine} (h : c.shownLine? v p = some s) :
    s.number = p.2 ∧ s.line = p.1 ∧ c.lineTerms.matched p.1 ≠ [] ∧
      c.lineTerms.highlight v.tabSize p.1 = .ok s.highlighted ∧
      ∃ found, definitionsOn v (.int p.2) (c.lineTerms.matched p.1) = .ok found ∧
        typeNote found = .ok s.types ∧ (c.defSearch = true → found ≠ []) := by
  rw [shownLine?] at h
  split at h
  · rename_i found hchosen
    rw [contextLine?] at h
    split at h
    · rename_i highlighted types enclosing hhighlighted htypes henclosing
      cases h
      obtain ⟨hmatched, hdefinitions, hne⟩ := shownWith_eq_some_iff.mp hchosen
      exact ⟨rfl, rfl, hmatched, hhighlighted, found, hdefinitions, htypes, hne⟩
    · cases h
  · cases h

/-- With regular tables a line is chosen if a word in it matches, and in a definition search only
if it has a definition. -/
theorem exists_shownLine? (hv : v.IsRegular) (htab : v.tabSize < tabSizeBound) {p : Text × Nat}
    (hmatched : c.lineTerms.matched p.1 ≠ []) {found : List Definition}
    (hfound : definitionsOn v (.int p.2) (c.lineTerms.matched p.1) = .ok found)
    (hregular : ∀ row ∈ found, row.IsRegular) (hne : c.defSearch = true → found ≠ []) :
    ∃ s, c.shownLine? v p = some s := by
  have hchosen := shownWith_eq_some_iff.mpr ⟨hmatched, hfound, hne⟩
  obtain ⟨s, hline, _⟩ := exists_contextLine (c := c) hv htab p hregular
  refine ⟨s, ?_⟩
  simp only [shownLine?, hchosen, hline]

/-- Every line that is shown has a term in bold. -/
theorem hasBold_of_shownLine? {s : ContextLine} (h : c.shownLine? v (s.line, s.number) = some s) :
    s.HasBold c.lineTerms.all := by
  obtain ⟨_, _, hmatched, hhighlighted, _⟩ := of_shownLine?_eq_some h
  obtain ⟨term, hterm, hmatch⟩ := Terms.matched_ne_nil_iff.mp hmatched
  obtain ⟨word, hword, rfl⟩ := List.mem_map.mp hmatch
  exact ⟨word, hword, hterm, Terms.exists_bold_of_highlight hhighlighted hword hterm⟩

/-- A table whose lines can be looked up: it is made of its rows, which are regular. -/
theorem hasTypeOf_of_shownLine? {table : Definitions} (htable : v.definitions = some table)
    (hmade : Definitions.ofRows table.rows = .ok table) (hrows : ∀ d ∈ table.rows, d.IsRegular)
    (hdefinitions : c.defSearch = true) {s : ContextLine}
    (h : c.shownLine? v (s.line, s.number) = some s) :
    s.HasTypeOf table.rows c.lineTerms.all := by
  obtain ⟨_, _, _, _, found, hfound, htypes, hne⟩ := of_shownLine?_eq_some h
  obtain ⟨named, hfilter, hnamed⟩ :=
    exists_definitionsOn_eq_filter htable hmade hrows c.lineTerms s.number s.line
  rw [hfilter] at hfound
  obtain ⟨d, rest, hcons⟩ := List.exists_cons_of_ne_nil (hne hdefinitions)
  rw [hcons] at hfound htypes
  -- the table splits at the first row that is named
  obtain ⟨before, after, hsplit, hbefore, hd, _⟩ :=
    List.filter_eq_cons_iff.mp (Except.ok.inj hfound)
  have hmem : ∀ e ∈ before ++ [d], e ∈ table.rows := by
    intro e he
    rw [hsplit]
    rcases List.mem_append.mp he with he | he
    · exact List.mem_append_left _ he
    · exact List.mem_append_right _ (List.mem_cons.mpr (Or.inl (List.mem_singleton.mp he)))
  have hrow : d ∈ table.rows := hmem d (by simp)
  obtain ⟨_, _, ⟨type, htype⟩, _⟩ := hrows d hrow
  rw [typeNote, htype] at htypes
  refine ⟨before, d, after, type, hsplit, (hnamed d hrow).mp hd, ?_, htype,
    (Except.ok.inj htypes).symm⟩
  intro e he hnames
  exact hbefore e he ((hnamed e (hmem e (List.mem_append_left _ he))).mpr hnames)

/-- A line on which a term names a definition is chosen. -/
theorem exists_shownLine?_of_isNamedOn (hv : v.IsRegular) (htab : v.tabSize < tabSizeBound)
    {table : Definitions} (htable : v.definitions = some table)
    (hmade : Definitions.ofRows table.rows = .ok table) {d : Definition} (hd : d ∈ table.rows)
    {n : Nat} {line : Text} (hnames : d.IsNamedOn c.lineTerms.all n line) :
    ∃ s, c.shownLine? v (line, n) = some s := by
  have hrows := (hv.definitions table htable).2
  obtain ⟨named, hfilter, hnamed⟩ :=
    exists_definitionsOn_eq_filter htable hmade hrows c.lineTerms n line
  have hmem : d ∈ table.rows.filter named := List.mem_filter.mpr ⟨hd, (hnamed d hd).mpr hnames⟩
  obtain ⟨_, symbol, _, hterm, hword⟩ := hnames
  exact exists_shownLine? hv htab (Terms.matched_ne_nil_iff.mpr ⟨_, hterm, hword⟩) hfilter
    (fun row hrow => hrows row (List.mem_filter.mp hrow).1) fun _ => List.ne_nil_of_mem hmem

/-! ## All lines -/

/-- A line of a text as the limit counts it, with its number in front. -/
def counted (p : Text × Nat) : Int × Text :=
  (p.2, p.1)

/-- With regular tables the lines that are chosen are those that are to be shown. -/
theorem shownLine?_eq_ite (hv : v.IsRegular) (p : Text × Nat) :
    c.shownLine? v p = if c.IsHitLine v (counted p) then
      c.contextLine? v p (c.namedOn v (counted p)) else none := by
  have hchosen := shownWith_eq_ite (c := c) hv (counted p)
  rw [shownLine?, show c.shownWith v (.int p.2) p.1 = _ from hchosen]
  by_cases hhit : c.IsHitLine v (counted p)
  · rw [if_pos hhit, if_pos hhit]
  · rw [if_neg hhit, if_neg hhit]

/-- With regular tables the first lines that are chosen are shown, and a link if there are more. -/
theorem renderFrom_eq_take (hv : v.IsRegular) (htab : v.tabSize < tabSizeBound)
    {lines : List (Text × Nat)} (hnumbers : ∀ p ∈ lines, p.2 < 10 ^ maxDigits)
    {shown room : Nat} (hroom : c.limit = (shown + room : Nat)) :
    c.renderFrom v shown (lines.map numberedLine) =
      .ok (((lines.filterMap (c.shownLine? v)).take room).flatMap (·.markup v.link) ++
        if room < (lines.filterMap (c.shownLine? v)).length then c.moreLink v else []) := by
  have hregular (p : Text × Nat) := (definitionsOn_eq_namedOn (c := c) hv (counted p)).2
  choose line hline hblock using fun p => exists_contextLine (c := c) hv htab p (hregular p)
  have hlines : lines.map numberedLine = (lines.map counted).map givenLine ++ [] := by
    rw [List.append_nil, List.map_map]
    rfl
  have hhits : c.hitLines v (lines.map counted) =
      (lines.filter fun p => c.IsHitLine v (counted p)).map counted := List.filter_map
  have hchosen : lines.filterMap (c.shownLine? v) =
      (lines.filter fun p => c.IsHitLine v (counted p)).map line := by
    rw [← List.filterMap_eq_map, List.filterMap_filter]
    refine List.filterMap_congr fun p _ => ?_
    rw [shownLine?_eq_ite hv, hline]
    simp
  have hblocks : ∀ p ∈ (lines.filter fun p => c.IsHitLine v (counted p)).take room,
      (c.blockAt v ∘ counted) p = .ok ((line p).markup v.link) := fun p hp =>
    hblock p (hnumbers p (List.mem_filter.mp (List.mem_of_mem_take hp)).1)
  rw [hlines, renderFrom_append hv (lines.map counted) [] hroom, hhits, hchosen, ← List.map_take,
    ← List.map_take, List.mapM_map, mapM_eq_map hblocks, List.flatMap_map,
    List.length_map, List.length_map, List.flatMap_def]
  split
  · rfl
  · rfl

end SourceContext

end HitListing
