import HitListing.Proofs.StoredFaults

/-!
# Forms of a file

The same lines can be written to a file in several forms: with a line feed, a
carriage return or both at the end of each line, with or without such an end
behind the last line, and with or without a byte order mark in front.  The form
makes no difference to the context of a hit (`LiveContext.render_eq_of_form`).

All forms read as a text with line feeds (`TextFile.decode_bytes`).  What is left
of the form is whether the last line has an end: if it is empty and has none, a
reader does not see it (`fileLines_joinLines`), and as it has no word it would not
be shown (`SourceContext.renderLines_append_nil`).
-/

namespace HitListing

/-- What ends a line of a file. -/
inductive LineEnding where
  | feed
  | returnFeed
  | carriageReturn
deriving DecidableEq, Repr

/-- The characters at the end of a line. -/
def LineEnding.text : LineEnding → Text
  | feed => "\n"
  | returnFeed => "\r\n"
  | carriageReturn => "\r"

/-- How lines are written to a file: what ends them, whether the last one has an end too, and
whether a byte order mark stands in front. -/
structure FileForm where
  ending : LineEnding
  endsLast : Bool
  marked : Bool
deriving DecidableEq, Repr

/-- Lines with an ending between them, and behind the last one if `endsLast`. -/
def joinLines (ending : Text) (endsLast : Bool) : List Text → Text
  | [] => []
  | [line] => line ++ if endsLast then ending else []
  | line :: next :: rest => line ++ (ending ++ joinLines ending endsLast (next :: rest))

/-- The bytes of a file that holds some lines. -/
def FileForm.bytes (form : FileForm) (lines : List Text) : Bytes :=
  (if form.marked then TextFile.mark else []) ++
    Utf8.encode (joinLines form.ending.text form.endsLast lines)

/-- Whether a text can be a line of a file in every form: it holds nothing that ends a line and does
not begin with a byte order mark. -/
structure IsFileLine (line : Text) : Prop where
  feed : '\n' ∉ line
  carriageReturn : '\r' ∉ line
  unmarked : line.head? ≠ some '\uFEFF'

/-! ## Reading a file -/

/-- Joined lines begin as one of the lines does, or as their ending. -/
theorem head?_joinLines {ending : Text} {endsLast : Bool} {lines : List Text} {c : Char}
    (h : (joinLines ending endsLast lines).head? = some c) :
    ending.head? = some c ∨ ∃ line ∈ lines, line.head? = some c := by
  fun_induction joinLines ending endsLast lines with
  | case1 => cases h
  | case2 line =>
    rw [List.head?_append, Option.or_eq_some_iff] at h
    rcases h with h | ⟨_, h⟩
    · exact Or.inr ⟨line, List.mem_cons_self, h⟩
    · cases endsLast with
      | false => cases h
      | true => exact Or.inl h
  | case3 line next rest ih =>
    rw [List.head?_append, Option.or_eq_some_iff, List.head?_append, Option.or_eq_some_iff] at h
    rcases h with h | ⟨_, h | ⟨_, h⟩⟩
    · exact Or.inr ⟨line, List.mem_cons_self, h⟩
    · exact Or.inl h
    · refine (ih h).imp_right fun hline => ?_
      obtain ⟨first, hfirst, hhead⟩ := hline
      exact ⟨first, List.mem_cons_of_mem line hfirst, hhead⟩

/-- Each ending becomes a line feed; a carriage return must not meet one. -/
theorem LineEnding.normalizeNewlines_append (e : LineEnding) {t : Text}
    (h : e = .carriageReturn → t.head? ≠ some '\n') :
    normalizeNewlines (e.text ++ t) = '\n' :: normalizeNewlines t := by
  cases e with
  | feed => exact normalizeNewlines_cons (by decide) t
  | returnFeed => rfl
  | carriageReturn => exact HitListing.normalizeNewlines_append fun _ => h rfl

/-- Lines in any form read as lines that end at line feeds. -/
theorem normalizeNewlines_joinLines (e : LineEnding) (endsLast : Bool) {lines : List Text}
    (h : ∀ line ∈ lines, IsFileLine line) :
    normalizeNewlines (joinLines e.text endsLast lines) = joinLines ['\n'] endsLast lines := by
  induction lines with
  | nil => rfl
  | cons line lines ih =>
    obtain ⟨hline, hrest⟩ := List.forall_mem_cons.mp h
    cases lines with
    | nil =>
      rw [joinLines, normalizeNewlines_append_of_not_mem hline.carriageReturn, joinLines]
      cases endsLast with
      | false => rfl
      | true => cases e <;> rfl
    | cons next rest =>
      have hmeet : e = .carriageReturn →
          (joinLines e.text endsLast (next :: rest)).head? ≠ some '\n' := by
        rintro rfl hhead
        rcases head?_joinLines hhead with hending | ⟨first, hfirst, hfeed⟩
        · cases hending
        · exact (hrest first hfirst).feed (List.mem_of_mem_head? hfeed)
      rw [joinLines, normalizeNewlines_append_of_not_mem hline.carriageReturn,
        e.normalizeNewlines_append hmeet, ih hrest, joinLines]
      rfl

namespace TextFile

/-- A byte order mark is dropped, whatever follows it. -/
theorem dropMark_mark (bytes : Bytes) : dropMark (mark ++ bytes) = bytes := by
  have hlong : ¬((mark ++ bytes).length < 3 ∧ (mark ++ bytes).isPrefixOf mark = true) := by
    rw [List.length_append]
    exact fun h => Nat.not_lt.mpr (Nat.le_add_right 3 bytes.length) h.1
  have hmark : mark.isPrefixOf (mark ++ bytes) = true :=
    List.isPrefixOf_iff_prefix.mpr (List.prefix_append mark bytes)
  rw [dropMark, if_neg hlong, if_pos hmark]
  rfl

/-- A text in UTF-8 reads as itself behind a byte order mark too. -/
theorem decode_lenient_mark_encode (t : Text) :
    decode .lenient (mark ++ Utf8.encode t) = .ok (normalizeNewlines t) := by
  have hshown : (Utf8.segments (Utf8.encode t)).map Utf8.Segment.shown = t :=
    Utf8.decodeLenient_encode t
  rw [decode, dropMark_mark, textOf, hshown]
  rfl

/-- A file reads as its lines with line feeds, in whatever form it holds them. -/
theorem decode_bytes (form : FileForm) {lines : List Text} (h : ∀ line ∈ lines, IsFileLine line) :
    decode .lenient (form.bytes lines) = .ok (joinLines ['\n'] form.endsLast lines) := by
  have hunmarked : (joinLines form.ending.text form.endsLast lines).head? ≠ some '\uFEFF' := by
    intro hhead
    rcases head?_joinLines hhead with hending | ⟨line, hline, hmark⟩
    · cases hform : form.ending <;> rw [hform] at hending <;> cases hending
    · exact (h line hline).unmarked hmark
  rw [FileForm.bytes, ← normalizeNewlines_joinLines form.ending form.endsLast h]
  cases form.marked with
  | false => exact decode_lenient_encode hunmarked
  | true => exact decode_lenient_mark_encode _

end TextFile

theorem length_le_joinLines (endsLast : Bool) (lines : List Text) :
    lines.length ≤ (joinLines ['\n'] endsLast lines).length + 1 := by
  induction lines with
  | nil => exact Nat.zero_le _
  | cons line lines ih =>
    cases lines with
    | nil => exact Nat.succ_le_succ (Nat.zero_le _)
    | cons next rest =>
      simp only [joinLines, List.length_append, List.length_cons, List.length_nil] at ih ⊢
      omega

/-- A file cannot hold so many lines that their numbers have too many digits. -/
theorem FileForm.length_lines_lt {tree : FileTree} {p : Path} {lines : List Text}
    (h : ∀ line ∈ lines, IsFileLine line) {form : FileForm}
    (hfile : tree.readBytes p = .ok (form.bytes lines)) : lines.length < 10 ^ maxDigits := by
  have htext := TextFile.length_le_of_decode_lenient (TextFile.decode_bytes form h)
  have hbytes := FileTree.length_lt_of_readBytes hfile
  have hlines := length_le_joinLines form.endsLast lines
  have hlimit := FileTree.sizeLimit_lt
  omega

/-- Joined lines are the lines of a file, except that an empty last one without an end is none. -/
theorem fileLines_joinLines (endsLast : Bool) {lines : List Text}
    (h : ∀ line ∈ lines, IsFileLine line) :
    lines = fileLines (joinLines ['\n'] endsLast lines) ∨
      lines = fileLines (joinLines ['\n'] endsLast lines) ++ [[]] := by
  induction lines with
  | nil => exact Or.inl rfl
  | cons line lines ih =>
    obtain ⟨hline, hrest⟩ := List.forall_mem_cons.mp h
    cases lines with
    | nil =>
      rw [joinLines]
      cases endsLast with
      | true =>
        rw [if_pos rfl, fileLines_append_feed hline.feed hline.carriageReturn]
        exact Or.inl rfl
      | false =>
        rw [if_neg Bool.false_ne_true, List.append_nil]
        by_cases hempty : line = []
        · rw [hempty]
          exact Or.inr rfl
        · rw [fileLines, feedLines_of_not_mem hempty hline.feed, List.map_singleton,
            dropNewline_eq_self hline.feed hline.carriageReturn]
          exact Or.inl rfl
    | cons next rest =>
      have hfirst : fileLines (joinLines ['\n'] endsLast (line :: next :: rest)) =
          line :: fileLines (joinLines ['\n'] endsLast (next :: rest)) := by
        rw [joinLines]
        exact fileLines_append_feed hline.feed hline.carriageReturn _
      rw [hfirst, List.cons_append]
      exact (ih hrest).imp (congrArg (line :: ·)) (congrArg (line :: ·))

/-! ## Showing lines -/

namespace SourceContext

variable {c : SourceContext} {v : FileView}

/-- Lines as they are looked at, numbered from 1. -/
def numberedLines (lines : List Text) : List NumberedLine :=
  (lines.zipIdx 1).map numberedLine

/-- The lines of a text are shown as they are without their ends. -/
theorem renderLines_numbered (t : Text) :
    c.renderLines v (numbered t) = c.renderLines v (numberedLines (fileLines t)) := by
  have hlines : (fileLines t).zipIdx 1 =
      ((feedLines t).zipIdx 1).map fun p => (dropNewline p.1, p.2) := by
    rw [fileLines, List.zipIdx_map]
    rfl
  have hnumbered : numbered t = ((feedLines t).zipIdx 1).map numberedLine := rfl
  rw [numberedLines, renderLines, renderLines, hlines, hnumbered, ← renderFrom_filter,
    ← renderFrom_filter 0 (List.map _ _), List.filter_map, List.map_map]
  simp only [Function.comp_def, Terms.matched_dropNewline, dropNewline_dropNewline]

/-- An empty line at the end adds nothing. -/
theorem renderLines_append_nil (lines : List Text) :
    c.renderLines v (numberedLines (lines ++ [[]])) = c.renderLines v (numberedLines lines) := by
  have hnone : c.lineTerms.matched [] = [] := by
    by_contra hmatch
    obtain ⟨_, _, hword⟩ := Terms.matched_ne_nil_iff.mp hmatch
    cases hword
  rw [numberedLines, numberedLines, renderLines, renderLines, List.zipIdx_append,
    ← renderFrom_filter, ← renderFrom_filter 0 (lines.zipIdx 1), List.filter_append,
    List.zipIdx_singleton, List.filter_cons_of_neg (by simp [hnone]), List.filter_nil,
    List.append_nil]

/-- In whatever form lines are read, they are shown alike. -/
theorem renderLines_joinLines (endsLast : Bool) {lines : List Text}
    (h : ∀ line ∈ lines, IsFileLine line) :
    c.renderLines v (numbered (joinLines ['\n'] endsLast lines)) =
      c.renderLines v (numberedLines lines) := by
  rw [renderLines_numbered]
  rcases fileLines_joinLines endsLast h with hlines | hlines
  · rw [← hlines]
  · rw [hlines, renderLines_append_nil, ← hlines]

/-- With regular tables a line that is to be shown has no fault but the tab width, if its number can
be written. -/
theorem failsOnlyWith_block (hv : v.IsRegular) {n : Int} (hn : (Json.int n).numeralsFit = true)
    (line : Text) {found : List Definition} (hfound : ∀ row ∈ found, row.IsRegular) :
    FailsOnlyWith (· = .outOfRange) (c.block v (.int n) line found) := by
  have hlayOut : FailsOnlyWith (· = .outOfRange) (layOut v.tabSize line) := by
    rcases Int.lt_or_le v.tabSize tabSizeBound with htab | htab
    · obtain ⟨shown, hshown⟩ := (succeeds_layOut_iff v.tabSize line).mpr htab
      rw [hshown]
      exact failsOnlyWith_ok shown
    · rw [layOut_of_bound_le htab]
      exact failsOnlyWith_error rfl
  have hhighlight : FailsOnlyWith (· = .outOfRange) (c.lineTerms.highlight v.tabSize line) :=
    hlayOut.map
  obtain ⟨types, htypes⟩ := succeeds_typeNote hfound
  obtain ⟨enclosing, henclosing⟩ := (succeeds_scopeNote_iff hv (.int n)).mpr (hasScopeOf_int v n)
  rw [block, Json.shown_of_fits hn]
  refine hhighlight.bind fun highlighted _ => ?_
  rw [htypes, henclosing]
  exact failsOnlyWith_ok _

/-- With regular tables numbered lines have no fault but the tab width. -/
theorem failsOnlyWith_renderFrom (hv : v.IsRegular) (shown : Nat) {lines : List (Text × Nat)}
    (hnumbers : ∀ p ∈ lines, (Json.int p.2).numeralsFit = true) :
    FailsOnlyWith (· = .outOfRange) (c.renderFrom v shown (lines.map numberedLine)) := by
  induction lines generalizing shown with
  | nil => exact failsOnlyWith_ok _
  | cons p lines ih =>
    obtain ⟨hwritten, hrest⟩ := List.forall_mem_cons.mp hnumbers
    have hnumber : (Json.int p.2).isScalar = true := rfl
    obtain ⟨chosen, hchosen, hregular⟩ := exists_shownWith (c := c) hv hnumber p.1
    rw [List.map_cons, numberedLine, renderFrom_cons_str, hchosen]
    cases chosen with
    | none => exact ih shown hrest
    | some found =>
      simp only [bind, Except.bind]
      rw [renderWith]
      split
      · exact failsOnlyWith_ok _
      · refine (failsOnlyWith_block hv hwritten _ (hregular found rfl)).bind fun start _ => ?_
        exact (ih (shown + 1) hrest).bind fun more _ => failsOnlyWith_ok _

end SourceContext

/-- A hit has one pair of tables at most, so that they can decide on an outcome. -/
theorem Hit.exists_outcome_of_tables (hit : Hit) (P : Definitions → Scopes → Prop) :
    ∃ outcome : Except Fault Text, ∀ definitions scopes, hit.HasTables definitions scopes →
      (Succeeds outcome ↔ P definitions scopes) ∧ FailsOnlyWith (· = .outOfRange) outcome := by
  have hsame {definitions other : Definitions} {scopes others : Scopes}
      (h : hit.HasTables definitions scopes) (h' : hit.HasTables other others) :
      other = definitions ∧ others = scopes :=
    ⟨Except.ok.inj (h'.definitions_eq.symm.trans h.definitions_eq),
      Except.ok.inj (h'.scopes_eq.symm.trans h.scopes_eq)⟩
  by_cases h : ∃ definitions scopes, hit.HasTables definitions scopes ∧ P definitions scopes
  · obtain ⟨definitions, scopes, htables, hP⟩ := h
    refine ⟨.ok [], fun other others hothers => ⟨iff_of_true (succeeds_ok _) ?_, ?_⟩⟩
    · obtain ⟨rfl, rfl⟩ := hsame htables hothers
      exact hP
    · exact failsOnlyWith_ok _
  · refine ⟨.error .outOfRange, fun definitions scopes htables =>
      ⟨iff_of_false (not_succeeds_error _) fun hP => h ⟨definitions, scopes, htables, hP⟩, ?_⟩⟩
    exact failsOnlyWith_error rfl

namespace LiveContext

variable {c : SourceContext} {tree : FileTree} {root : Path} {path : Text} {hit : Hit}

/-- The context of a hit from the lines of its file. -/
def renderGiven (c : SourceContext) (hit : Hit) (path : Text) (lines : List Text)
    (xrefBase moreBase : Text) (tabSize : Int) : Except Fault Text := do
  let definitions ← Definitions.ofField hit.tags
  let scopes ← Scopes.ofField hit.scopes
  c.renderLines ⟨path, xrefBase, moreBase, some definitions, some scopes, tabSize⟩
    (SourceContext.numberedLines lines)

/-- The context of a hit is that of the lines that its file holds, whatever the form of the file. -/
theorem render_eq_of_form (hpath : hit.path = some path) {lines : List Text}
    (hlines : ∀ line ∈ lines, IsFileLine line) {form : FileForm}
    (hfile : tree.readBytes (root.child path) = .ok (form.bytes lines)) (xrefBase moreBase : Text)
    (tabSize : Int) :
    render c tree root hit xrefBase moreBase tabSize =
      renderGiven c hit path lines xrefBase moreBase tabSize := by
  have htext : TextFile.source tree root path = .ok (joinLines ['\n'] form.endsLast lines) :=
    (TextFile.source_eq hfile).trans (TextFile.decode_bytes form hlines)
  rw [render, renderGiven, hpath]
  simp only [htext]
  congr 1
  funext definitions
  congr 1
  funext scopes
  exact SourceContext.renderLines_joinLines form.endsLast hlines

/-- What can be wrong with lines that a file can hold. -/
theorem renderGiven_outcome {lines : List Text} (hcount : lines.length < 10 ^ maxDigits)
    {definitions : Definitions} {scopes : Scopes} (htables : hit.HasTables definitions scopes)
    (xrefBase moreBase : Text) (tabSize : Int) :
    (Succeeds (renderGiven c hit path lines xrefBase moreBase tabSize) ↔
      tabSize < tabSizeBound ∨ c.limit = 0 ∨
        ∀ item ∈ SourceContext.numberedLines lines, c.isHit
          ⟨path, xrefBase, moreBase, some definitions, some scopes, tabSize⟩ item = false) ∧
      FailsOnlyWith (· = .outOfRange)
        (renderGiven c hit path lines xrefBase moreBase tabSize) := by
  have hv := htables.isRegular path xrefBase moreBase tabSize
  have hwritten : ∀ p ∈ lines.zipIdx 1, (Json.int p.2).numeralsFit = true := by
    intro p hp
    have hn := List.snd_lt_of_mem_zipIdx hp
    rw [Json.numeralsFit_int_iff, Int.natAbs_natCast]
    omega
  have hitems : ∀ item ∈ SourceContext.numberedLines lines,
      ∃ (n : Int) (line : Text), item = .ok (.int n, .str line) := by
    intro item hitem
    obtain ⟨p, _, rfl⟩ := List.mem_map.mp hitem
    exact ⟨p.2, p.1, rfl⟩
  have hnumbers : ∀ number line, .ok (number, line) ∈ SourceContext.numberedLines lines →
      number.isScalar = true ∧ number.numeralsFit = true := by
    intro number line hmem
    obtain ⟨p, hp, heq⟩ := List.mem_map.mp hmem
    cases heq
    exact ⟨rfl, hwritten p hp⟩
  rw [renderGiven, htables.definitions_eq, htables.scopes_eq]
  refine ⟨?_, SourceContext.failsOnlyWith_renderFrom hv 0 hwritten⟩
  exact (SourceContext.succeeds_renderFrom_iff hv 0 hnumbers).trans
    (SourceContext.linesFit_iff hitems)

/-- The context of a hit is the same in whatever form its file holds some lines.  With tables of
whole line numbers and texts it can be shown if the tab width is accepted or no line is shown;
otherwise the tab width is the fault. -/
theorem render_forms (hpath : hit.path = some path) {lines : List Text}
    (hlines : ∀ line ∈ lines, IsFileLine line) (c : SourceContext) (xrefBase moreBase : Text)
    (tabSize : Int) :
    ∃ outcome : Except Fault Text,
      (∀ (form : FileForm) (tree : FileTree) (root : Path),
        tree.readBytes (root.child path) = .ok (form.bytes lines) →
          render c tree root hit xrefBase moreBase tabSize = outcome) ∧
      ∀ definitions scopes, hit.HasTables definitions scopes →
        (Succeeds outcome ↔ tabSize < tabSizeBound ∨ c.limit = 0 ∨
          ∀ item ∈ SourceContext.numberedLines lines, c.isHit
            ⟨path, xrefBase, moreBase, some definitions, some scopes, tabSize⟩ item = false) ∧
        FailsOnlyWith (· = .outOfRange) outcome := by
  rcases Nat.lt_or_ge lines.length (10 ^ maxDigits) with hcount | hcount
  · exact ⟨renderGiven c hit path lines xrefBase moreBase tabSize,
      fun form tree root hfile => render_eq_of_form hpath hlines hfile xrefBase moreBase tabSize,
      fun definitions scopes htables => renderGiven_outcome hcount htables xrefBase moreBase tabSize⟩
  · -- there is no file with so many lines, so that only the condition is left to be met
    have hnone : ∀ (form : FileForm) (tree : FileTree) (root : Path),
        tree.readBytes (root.child path) ≠ .ok (form.bytes lines) := fun form tree root hfile =>
      absurd (FileForm.length_lines_lt hlines hfile) (Nat.not_lt.mpr hcount)
    obtain ⟨outcome, houtcome⟩ := hit.exists_outcome_of_tables fun definitions scopes =>
      tabSize < tabSizeBound ∨ c.limit = 0 ∨
        ∀ item ∈ SourceContext.numberedLines lines, c.isHit
          ⟨path, xrefBase, moreBase, some definitions, some scopes, tabSize⟩ item = false
    exact ⟨outcome, fun form tree root hfile => absurd hfile (hnone form tree root), houtcome⟩

/-- A hit with a path and nothing else stored. -/
def pathHit : Hit where
  id := 1
  path := some "a.c"
  genre := .plain
  date := none
  tags := none
  scopes := none
  positions := none

/-- The sources with that file in a form. -/
def pathTree (form : FileForm) (lines : List Text) : FileTree :=
  .ofFiles [⟨["src", "a.c"], form.bytes lines, 0⟩]

/-- The file can be read in every form. -/
theorem readBytes_pathTree_emptyLast (form : FileForm) :
    (pathTree form ["foo", ""]).readBytes (Path.child (.ofText "src") "a.c") =
      .ok (form.bytes ["foo", ""]) := by
  obtain ⟨ending, endsLast, marked⟩ := form
  cases ending <;> cases endsLast <;> cases marked <;> rfl

/-- The case of two lines of which the last one is empty. -/
theorem render_forms_emptyLast :
    pathHit.path = some "a.c" ∧ (∀ line ∈ (["foo", ""] : List Text), IsFileLine line) ∧
      pathHit.HasTables ⟨[], []⟩ ⟨[]⟩ ∧
      ∃ fragment, ∀ form : FileForm,
        (pathTree form ["foo", ""]).readBytes (Path.child (.ofText "src") "a.c") =
          .ok (form.bytes ["foo", ""]) ∧
        render ⟨.ofList ["foo"], false, 10⟩ (pathTree form ["foo", ""]) (.ofText "src") pathHit
          "/xref" "/more" 8 = .ok fragment := by
  have hlines : ∀ line ∈ (["foo", ""] : List Text), IsFileLine line := by
    intro line hline
    rcases List.mem_pair.mp hline with rfl | rfl
    · exact ⟨by decide, by decide, by decide⟩
    · exact ⟨by decide, by decide, by decide⟩
  have htables : pathHit.HasTables ⟨[], []⟩ ⟨[]⟩ := ⟨rfl, rfl, nofun, nofun⟩
  have hpath : pathHit.path = some "a.c" := rfl
  obtain ⟨outcome, hsame, hfaults⟩ :=
    render_forms hpath hlines ⟨.ofList ["foo"], false, 10⟩ "/xref" "/more" 8
  obtain ⟨fragment, rfl⟩ := (hfaults _ _ htables).1.mpr (Or.inl (by decide))
  have hfile := readBytes_pathTree_emptyLast
  exact ⟨hpath, hlines, htables, fragment, fun form => ⟨hfile form, hsame form _ _ (hfile form)⟩⟩

/-- With the first tab width that is not accepted no form of a file has a context. -/
theorem not_render_forms_wideTab :
    ¬∃ fragment, ∀ form tree,
      tree.readBytes (Path.child (.ofText "src") "a.c") = .ok (FileForm.bytes form ["a"]) →
        render ⟨.ofList ["a"], false, 10⟩ tree (.ofText "src") pathHit "/xref" "/more"
          2147483648 = .ok fragment := by
  intro h
  obtain ⟨fragment, h⟩ := h
  have hok := h ⟨.feed, false, false⟩ (pathTree ⟨.feed, false, false⟩ ["a"]) rfl
  have hfault : render ⟨.ofList ["a"], false, 10⟩ (pathTree ⟨.feed, false, false⟩ ["a"])
      (.ofText "src") pathHit "/xref" "/more" 2147483648 = .error .outOfRange := by
    decide +kernel
  rw [hfault] at hok
  cases hok

end LiveContext

end HitListing
