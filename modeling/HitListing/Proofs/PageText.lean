import HitListing.Proofs.PageDocument
import HitListing.Store

/-!
# The text of a page

What is left of a page when its markup is stripped: for each group the directory
with a slash, its description and a mark for pending messages, and for each row
the links, the name of the file, what is left of the snippet, and a break
(`Page.content`).

Whatever stands in paths, descriptions, messages, tables and files, it adds no
markup to a page.  The one exception are numbers of lines that stored positions
give as texts: they stand in links and in front of lines as they are.  A page is
what it should be exactly if these are clean and can be read
(`Page.render_reads_iff`).
-/

namespace HitListing

open Markup
open Markup.Document (element link)

namespace Page

variable {p : Page}

/-! ## What a page says -/

/-- What a header says of the description of its directory. -/
def describedAs : Option Json → Text
  | some (.str t) => " - " ++ t
  | _ => []

/-- What a header says of pending messages. -/
def markedAs (pending : List Json) : Text :=
  if pending.isEmpty then [] else " !"

/-- What the header of a directory says, and the project that the directory belongs to. -/
def headerText (p : Page) (directory : Text) : Except Fault (Option Project × Text) := do
  let description ← p.describe directory
  let project ← p.projectOf directory
  let pending ← p.pendingFor project
  return (project, directory ++ "/" ++ describedAs description ++ markedAs pending)

/-- What the row of a hit says. -/
def rowText (p : Page) (tabSize : Int) (id : DocumentId) : Except Fault Text := do
  let hit ← p.read id
  match hit.path with
  | none => throw .wrongKind
  | some path =>
    let snippet ← p.snippetText hit tabSize
    let shown ← strip snippet
    return "H A D" ++ nameOf path ++ shown ++ "\n"

/-- What a group says. -/
def groupText (p : Page) (g : DirectoryGroup) : Except Fault Text := do
  let (project, header) ← p.headerText g.directory
  let rows ← g.ids.mapM (p.rowText (tabSize p.settings project))
  return header ++ rows.flatten

/-- What the hits from `start` up to but not including `stop` say. -/
def content (p : Page) (start stop : Int) : Except Fault Text := do
  let found ← (groupByDirectory p.read p.hits start stop).result
  let groups ← found.mapM p.groupText
  return groups.flatten

/-! ## What its document shows -/

theorem exists_shown_descriptionDocument {directory : Text} {d : Document}
    (h : p.descriptionDocument directory = .ok d) :
    ∃ found, p.describe directory = .ok found ∧ d.shown = .ok (describedAs found) := by
  obtain ⟨found, hfound, h⟩ := exists_of_bind_eq_ok h
  refine ⟨found, hfound, ?_⟩
  split at h
  case h_1 =>
    cases h
    rfl
  case h_2 =>
    cases h
    rw [Document.shown_text_cons, Document.shown_element (List.forall_mem_nil _),
      Document.shown_text]
    rfl
  case h_3 => cases h

theorem shown_markDocument (name : Text) (messages : List Json) :
    (p.markDocument name messages).shown = .ok " !" := by
  have hlink := SourceContext.isLink_child p.isLink_xrefBase name
  rw [markDocument, Document.shown_text_cons, Document.shown_link hlink (List.forall_mem_nil _),
    Document.shown_element (isSafe_markAttributes messages), Document.shown_text]
  rfl

theorem exists_shown_messagesDocument {project : Option Project} {d : Document}
    (h : p.messagesDocument project = .ok d) :
    ∃ pending, p.pendingFor project = .ok pending ∧ d.shown = .ok (markedAs pending) := by
  unfold messagesDocument at h
  unfold pendingFor
  split at h
  case h_1 =>
    cases h
    exact ⟨[], rfl, rfl⟩
  case h_2 =>
    obtain ⟨pending, hpending, h⟩ := exists_of_bind_eq_ok h
    refine ⟨pending, hpending, ?_⟩
    cases pending with
    | nil =>
      cases h
      rfl
    | cons first rest =>
      simp only at h
      split at h
      case h_1 =>
        cases h
        exact shown_markDocument _ _
      case h_2 => cases h

theorem exists_shown_headerDocument {directory : Text} {project : Option Project} {d : Document}
    (h : p.headerDocument directory = .ok (project, d)) :
    ∃ t, p.headerText directory = .ok (project, t) ∧ d.shown = .ok t := by
  obtain ⟨description, hdescription, h⟩ := exists_of_bind_eq_ok h
  obtain ⟨found, hfound, h⟩ := exists_of_bind_eq_ok h
  obtain ⟨messages, hmessages, h⟩ := exists_of_bind_eq_ok h
  cases h
  obtain ⟨described, hdescribed, hdescription⟩ := exists_shown_descriptionDocument hdescription
  obtain ⟨pending, hpending, hmessages⟩ := exists_shown_messagesDocument hmessages
  refine ⟨directory ++ "/" ++ (describedAs described ++ markedAs pending), ?_, ?_⟩
  · rw [headerText, hdescribed, ← List.append_assoc]
    simp only [bind, Except.bind, hfound, hpending]
    rfl
  · have hspan : ∀ a ∈ [Attribute.mk "colspan" "3"], a.IsSafe :=
      List.forall_mem_singleton.mpr (Attribute.isSafe_of_isLink (by decide) (by decide))
    have hlabel : Document.shown [.text directory, .text "/"] = .ok (directory ++ "/") := by
      rw [Document.shown_text_cons, Document.shown_text]
      rfl
    rw [headerAround, Document.shown_styled (by decide), Document.shown_element hspan]
    refine Document.shown_append_of_ok ?_ (Document.shown_append_of_ok hdescription hmessages)
    rw [Document.shown_link (isLink_directoryLink directory) (List.forall_mem_nil _), hlabel]

theorem shown_fileLinksDocument (path : Text) :
    (p.fileLinksDocument path).shown = .ok "H A D" := by
  have hhistory : (p.fileLink "/history/" path [] "History" "H").shown = .ok "H" :=
    shown_fileLink (by decide) (by decide) (by decide) path "H"
  have hxref : (p.fileLink "/xref/" path "?a=true" "Annotate" "A").shown = .ok "A" :=
    shown_fileLink (by decide) (by decide) (by decide) path "A"
  have hdownload : (p.fileLink "/download/" path [] "Download" "D").shown = .ok "D" :=
    shown_fileLink (by decide) (by decide) (by decide) path "D"
  rw [fileLinksDocument, Document.shown_styled (by decide), Document.shown_append,
    Document.shown_text_cons, Document.shown_append, Document.shown_text_cons, hhistory, hxref,
    hdownload]
  rfl

theorem shown_rowAround (index : Nat) (hit : Hit) (path : Text) (snippet : Document) :
    (p.rowAround index hit path snippet).shown =
      snippet.shown.map fun shown => "H A D" ++ nameOf path ++ shown ++ "\n" := by
  have hlink := SourceContext.isLink_child p.isLink_xrefBase path
  rw [rowAround, Document.shown_append, Document.shown_element (isSafe_shading index),
    Document.shown_append, shown_fileLinksDocument, Document.shown_append,
    Document.shown_styled (by decide), Document.shown_link hlink (isSafe_editedAttributes hit),
    Document.shown_text, Document.shown_element (List.forall_mem_nil _),
    Document.shown_styled (by decide), Document.shown_text]
  cases snippet.shown with
  | error f => rfl
  | ok shown =>
    refine congrArg Except.ok ?_
    simp

theorem numbers_rowAround (index : Nat) (hit : Hit) (path : Text) (snippet : Document) :
    (p.rowAround index hit path snippet).numbers = snippet.numbers := by
  have hlinks : (p.fileLinksDocument path).numbers = [] := rfl
  have htext (t : Text) : Document.numbers [.text t] = [] := rfl
  rw [rowAround, Document.numbers_append, Document.numbers_element, Document.numbers_append, hlinks,
    Document.numbers_append, Document.numbers_element, Document.numbers_link,
    Document.numbers_element, Document.numbers_element, htext, htext, List.nil_append,
    List.nil_append, List.append_nil]

/-- A row says what its document shows, if the numbers in it are clean. -/
theorem rowText_eq {tabSize : Int} {index : Nat} {id : DocumentId} {d : Document}
    (h : p.rowDocument tabSize index id = .ok d) (hnumbers : ∀ n ∈ d.numbers, IsClean n) :
    p.rowText tabSize id = d.shown := by
  obtain ⟨hit, hread, h⟩ := exists_of_bind_eq_ok h
  cases hpath : hit.path with
  | none =>
    rw [hpath] at h
    cases h
  | some path =>
    rw [hpath] at h
    obtain ⟨snippet, hsnippet, h⟩ := exists_of_bind_eq_ok h
    cases h
    rw [numbers_rowAround] at hnumbers
    have htext : p.snippetText hit tabSize = .ok snippet.write := by
      rw [snippetText_eq, hsnippet]
      rfl
    have hstrip : strip snippet.write = snippet.shown :=
      Document.strip_write ((isSafe_snippetDocument hsnippet).isPlain hnumbers)
    rw [rowText, hread, shown_rowAround]
    simp only [bind, Except.bind, hpath, htext, hstrip]
    cases snippet.shown with
    | error f => rfl
    | ok shown => rfl

theorem rowsText_eq {tabSize : Int} {index : Nat} {ids : List DocumentId} {d : Document}
    (h : p.rowsDocument tabSize index ids = .ok d) (hnumbers : ∀ n ∈ d.numbers, IsClean n) :
    (ids.mapM (p.rowText tabSize)).map List.flatten = d.shown := by
  induction ids generalizing index d with
  | nil =>
    cases h
    rfl
  | cons id rest ih =>
    obtain ⟨first, hfirst, h⟩ := exists_of_bind_eq_ok h
    obtain ⟨more, hmore, h⟩ := exists_of_bind_eq_ok h
    cases h
    rw [Document.numbers_append, List.forall_mem_append] at hnumbers
    rw [List.mapM_cons, rowText_eq hfirst hnumbers.1, Document.shown_append,
      ← ih hmore hnumbers.2]
    cases first.shown with
    | error f => rfl
    | ok shown =>
      cases rest.mapM (p.rowText tabSize) with
      | error f => rfl
      | ok texts => rfl

theorem groupsText_eq {index : Nat} {found : List DirectoryGroup} {d : Document}
    (h : p.groupsDocument index found = .ok d) (hnumbers : ∀ n ∈ d.numbers, IsClean n) :
    (found.mapM p.groupText).map List.flatten = d.shown := by
  induction found generalizing index d with
  | nil =>
    cases h
    rfl
  | cons g rest ih =>
    obtain ⟨⟨project, header⟩, hheader, h⟩ := exists_of_bind_eq_ok h
    obtain ⟨rows, hrows, h⟩ := exists_of_bind_eq_ok h
    obtain ⟨more, hmore, h⟩ := exists_of_bind_eq_ok h
    cases h
    rw [Document.numbers_append, Document.numbers_append, List.forall_mem_append,
      List.forall_mem_append] at hnumbers
    obtain ⟨said, hsaid, hheader⟩ := exists_shown_headerDocument hheader
    -- a header can always be read, so a group can be as far as its rows can
    have hgroup : p.groupText g = rows.shown.map (said ++ ·) := by
      rw [groupText, hsaid, ← rowsText_eq hrows hnumbers.2.1]
      simp only [bind, Except.bind]
      cases g.ids.mapM (p.rowText (tabSize p.settings project)) with
      | error f => rfl
      | ok texts => rfl
    rw [List.mapM_cons, hgroup, Document.shown_append, Document.shown_append, hheader,
      ← ih hmore hnumbers.2.2]
    cases rows.shown with
    | error f => rfl
    | ok shown =>
      cases rest.mapM p.groupText with
      | error f => rfl
      | ok texts =>
        refine congrArg Except.ok ?_
        simp

/-- A page says what its document shows, if the numbers in it are clean. -/
theorem content_eq {start stop : Int} {d : Document} (h : p.document start stop = .ok d)
    (hnumbers : ∀ n ∈ d.numbers, IsClean n) : p.content start stop = d.shown := by
  obtain ⟨found, hfound, h⟩ := exists_of_bind_eq_ok h
  obtain ⟨groups, hgroups, h⟩ := exists_of_bind_eq_ok h
  cases h
  rw [Document.numbers_element] at hnumbers
  rw [content, hfound, Document.shown_styled (by decide), ← groupsText_eq hgroups hnumbers]
  simp only [bind, Except.bind]
  cases found.mapM p.groupText with
  | error f => rfl
  | ok texts => rfl

/-! ## Reading a page -/

/-- A page that comes to its end is the markup of its document.  What is left of it when it is
stripped is its content, and the values in its tags are clean, exactly if the numbers of lines
that stand in it as they are, are clean and can be read. -/
theorem render_reads_iff (p : Page) (start stop : Int) (hhistory : p.history = none)
    (h : Succeeds (p.render start stop).result) :
    ∃ d, p.document start stop = .ok d ∧ (p.render start stop).text = d.write ∧
      (((∃ t, strip (p.render start stop).text = .ok t ∧ p.content start stop = .ok t) ∧
        ∀ value ∈ d.values, IsClean value) ↔
        ∀ number ∈ d.numbers, IsClean number ∧ ¬HasLongReference number) := by
  obtain ⟨d, hd, htext⟩ := exists_document hhistory h
  have hsafe := isSafe_document hd
  refine ⟨d, hd, htext, ?_⟩
  rw [htext, ← hsafe.reads_iff]
  -- with clean values, what is stripped from the page and its content are both what is shown
  refine and_congr_left fun hvalues => ?_
  rw [content_eq hd (hsafe.isClean_values_iff.mp hvalues)]

/-- A page on which markup stands wherever a text may stand. -/
def unrulyPage : Page where
  read := (Store.ready [⟨1, some "a<b/\"x&.c".toList, some "p".toList, some "<i>".toList, none,
    none, none⟩]).get
  hits := [.int 1]
  tree := .ofFiles [⟨["src".toList, "a<b".toList, "\"x&.c".toList],
    Utf8.encode "<a> &lt; \"b\"\n".toList, 0⟩]
  settings := .usual (.ofText "data") (.ofText "src")
  summarizer := none
  sourceContext := some ⟨.ofList ["a".toList], false, 10⟩
  history := none
  projects := some ⟨[⟨.str "\"><p>".toList, .str "a<b".toList, 4,
    [⟨.str "<m>".toList, [.str Message.mainTag], .str "info".toList, none, none⟩]⟩]⟩
  descriptions := some (.obj [("a<b".toList, .str "<script>".toList)])
  now := ⟨⟨2020, 9, 13⟩, 12, 26, 40, 0, some 0⟩

/-- The case of that page. -/
theorem render_reads_iff_unrulyPage :
    unrulyPage.history = none ∧ Succeeds (unrulyPage.render 0 1).result ∧
      ∃ d, unrulyPage.document 0 1 = .ok d ∧ (unrulyPage.render 0 1).text = d.write ∧
        (((∃ t, strip (unrulyPage.render 0 1).text = .ok t ∧ unrulyPage.content 0 1 = .ok t) ∧
          ∀ value ∈ d.values, IsClean value) ↔
          ∀ number ∈ d.numbers, IsClean number ∧ ¬HasLongReference number) := by
  have hdone : (unrulyPage.render 0 1).result = .ok () := by
    decide +kernel
  exact ⟨rfl, ⟨(), hdone⟩, render_reads_iff unrulyPage 0 1 rfl ⟨(), hdone⟩⟩

example : unrulyPage.content 0 1 =
    .ok "a<b/ - <script> !H A D\"x&.c1 <a> &lt; \"b\"\n" := by
  decide +kernel

/-- A page of one file whose stored positions give a line number that is no number. -/
def namedLinePage : Page where
  read := (Store.ready [⟨1, some "a.c".toList, some "p".toList, some "20200913122640000".toList,
    none, none, some (Utf8.encode
      ("\x7b\"terms\": \x7b\"a\": [\"<i>\"]\x7d, ".toList ++
        "\"lines\": \x7b\"<i>\": \"a\"\x7d\x7d".toList))⟩]).get
  hits := [.int 1]
  tree := .ofFiles [⟨["src".toList, "a.c".toList], Utf8.encode "a".toList, 1600000000000000000⟩]
  settings := .usual (.ofText "data") (.ofText "src")
  summarizer := none
  sourceContext := some ⟨.ofList ["a".toList], false, 10⟩
  history := none
  projects := none
  descriptions := none
  now := ⟨⟨2020, 9, 13⟩, 12, 26, 40, 0, some 0⟩

/-- That page comes to its end, and has a link with markup in it. -/
theorem exists_unclean_value_namedLinePage :
    namedLinePage.history = none ∧ Succeeds (namedLinePage.render 0 1).result ∧
      ∃ d, namedLinePage.document 0 1 = .ok d ∧ (namedLinePage.render 0 1).text = d.write ∧
        ∃ value ∈ d.values, ¬IsClean value := by
  have hdone : (namedLinePage.render 0 1).result = .ok () := by
    decide +kernel
  have hlink : (namedLinePage.document 0 1).map
      (fun d => d.values.contains "/source/xref/a.c#<i>".toList) = .ok true := by
    decide +kernel
  obtain ⟨d, hd, htext⟩ := exists_document (p := namedLinePage) rfl ⟨(), hdone⟩
  rw [hd] at hlink
  refine ⟨rfl, ⟨(), hdone⟩, d, hd, htext, "/source/xref/a.c#<i>", ?_, ?_⟩
  · exact List.contains_iff_mem.mp (Except.ok.inj hlink)
  · decide

end Page

end HitListing
