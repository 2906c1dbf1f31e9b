import HitListing.Calendar.IndexDate
import HitListing.Group
import HitListing.Project
import HitListing.Snippet

/-!
# Pages

A page of hits as the body of a table: a header for each directory, with its
description and a mark if its project has messages, and below it a row for each
hit, with links, its name, when it was last edited, and its snippet.

A page is a draft.  If a step fails, the draft keeps what was written before.
-/

namespace HitListing

/-- All that a page is made from. -/
structure Page where
  read : Reader
  hits : List DocumentId
  tree : FileTree
  settings : RenderSettings
  summarizer : Option Summarizer
  sourceContext : Option SourceContext
  /-- Writes the history of a file, given where it lies, its path and the
  context path. -/
  history : Option (Path → Text → Text → Text)
  projects : Option Registry
  /-- Descriptions by directory. -/
  descriptions : Option Json
  now : Calendar.Moment

/-- The cell with links to the history, the annotation and the download of a
file. -/
def fileLinks (contextPath pathE : Text) : Text :=
  let base := Uri.encodePath contextPath
  "<td class=\"q\"><a href=\"" ++ base ++ "/history/" ++ pathE ++ "\" title=\"History\">H</a> " ++
    "<a href=\"" ++ base ++ "/xref/" ++ pathE ++ "?a=true\" title=\"Annotate\">A</a> " ++
    "<a href=\"" ++ base ++ "/download/" ++ pathE ++ "\" title=\"Download\">D</a></td>"

namespace Page

/-- The front of links to cross-references. -/
def xrefBase (p : Page) : Text :=
  Uri.encodePath p.settings.contextPath ++ "/xref"

/-- The tab width of a project, or of the page. -/
def tabSize (settings : RenderSettings) (project : Option Project) : Int :=
  match project with
  | some x => if 0 < x.tabSize then x.tabSize else settings.tabSize
  | none => settings.tabSize

/-- What makes the snippets of a page. -/
def extractor (p : Page) : SnippetExtractor :=
  ⟨p.tree, p.settings, p.summarizer, p.sourceContext, p.sourceContext⟩

/-! ## Headers -/

/-- The description of a directory, if there is one. -/
def describe (p : Page) (directory : Text) : Except Fault (Option Json) :=
  match p.descriptions with
  | none => .ok none
  | some table => do
    let fields ← table.fieldsOf
    match Json.lookup directory fields with
    | some .null => return none
    | found => return found

/-- The project of a directory, if there is one. -/
def projectOf (p : Page) (directory : Text) : Except Fault (Option Project) :=
  match p.projects with
  | none => .ok none
  | some registry => registry.projectFor directory

/-- The link to a directory. -/
def directoryLink (p : Page) (directory : Text) : Text :=
  p.xrefBase ++ "/" ++ (if directory.isEmpty then [] else Uri.encodePath directory ++ ['/'])

/-- Write the description of a directory, if there is one. -/
def description (p : Page) (directory : Text) : Draft Unit := do
  match ← Draft.ofExcept (p.describe directory) with
  | none => return ()
  | some value =>
    Draft.write " - <i>"
    Draft.write (← Draft.ofExcept (escapeValue value))
    Draft.write "</i>"

/-- The name of a project in a link.  Only a text can be encoded. -/
def nameLink : Json → Except Fault Text
  | .str name => .ok (Uri.encodePath name)
  | _ => .error .wrongKind

/-- Write the mark for pending messages, which links to their project. -/
def mark (p : Page) (project : Project) (messages : List Json) : Draft Unit := do
  let name ← Draft.ofExcept (nameLink project.name)
  Draft.write (" <a href=\"" ++ p.xrefBase ++ "/" ++ name ++ "\">")
  Draft.write "<span class=\"important-note important-note-rounded\" data-messages=\""
  Draft.write (Markup.escape (← Draft.ofExcept (Json.arr messages).dump))
  Draft.write "\">!</span></a>"

/-- Write the mark for the pending messages of a project, if there are any. -/
def messages (p : Page) (project : Option Project) : Draft Unit := do
  match project with
  | none => return ()
  | some x =>
    match ← Draft.ofExcept (x.messagesJson Message.mainTag p.now) with
    | [] => return ()
    | pending => p.mark x pending

/-- Write the header of a directory; the project that it belongs to. -/
def header (p : Page) (directory : Text) : Draft (Option Project) := do
  Draft.write ("<tr class=\"dir\"><td colspan=\"3\"><a href=\"" ++ p.directoryLink directory ++
    "\">" ++ Markup.escape directory ++ "/</a>")
  p.description directory
  let project ← Draft.ofExcept (p.projectOf directory)
  p.messages project
  Draft.write "</td></tr>"
  return project

/-! ## Rows -/

/-- Write when a hit was last edited, if that is known. -/
def lastEdited (hit : Hit) (path : Text) : Draft Unit :=
  match hit.date with
  | none => return ()
  | some date =>
    match Calendar.parseIndexDate date with
    | .error f =>
      if f.isValueFault then Draft.note (.badDate date path) else Draft.ofExcept (.error f)
    | .ok moment =>
      Draft.write (" class=\"result-annotate\" title=\"Last modified: " ++
        Markup.escape moment.short ++ "\"")

/-- The opening of a row; every other row is shaded, the first one included. -/
def rowTag (index : Nat) : Text :=
  if index % 2 = 0 then "<tr class=\"search-result-even-row\">" else "<tr>"

/-- Write the snippet of a hit, if the page shows them. -/
def snippet (p : Page) (hit : Hit) (tabSize : Int) : Draft Unit :=
  if p.settings.sourceContext then do
    let s ← p.extractor.extract hit tabSize
    Draft.write s.text
  else return ()

/-- Write the history of a hit, if the page shows it. -/
def historyOf (p : Page) (path : Text) : Draft Unit :=
  match p.settings.historyContext, p.history with
  | true, some render =>
    Draft.write (render (p.settings.sourceRoot.child path) path p.settings.contextPath)
  | _, _ => return ()

/-- Write what the row of a hit shows before its snippet: links, when the hit
was last edited, and the name of its file. -/
def fileCells (p : Page) (hit : Hit) (path : Text) : Draft Unit := do
  let pathE := Uri.encodePath path
  Draft.write (fileLinks p.settings.contextPath pathE ++
    "<td class=\"f\"><a href=\"" ++ p.xrefBase ++ "/" ++ pathE ++ "\"")
  if p.settings.lastEditedDisplay then lastEdited hit path
  Draft.write (">" ++ Markup.escape (nameOf path) ++ "</a></td><td><code class=\"con\">")

/-- Write the cells of the row of a hit, and its end. -/
def cells (p : Page) (tabSize : Int) (hit : Hit) (path : Text) : Draft Unit := do
  p.fileCells hit path
  p.snippet hit tabSize
  p.historyOf path
  Draft.write "</code></td></tr>\n"

/-- Write the row of a hit; `index` counts the rows of the page before it. -/
def row (p : Page) (tabSize : Int) (index : Nat) (id : DocumentId) : Draft Unit := do
  let hit ← Draft.ofExcept (p.read id)
  match hit.path with
  | none => Draft.ofExcept (.error .wrongKind)
  | some path =>
    Draft.write (rowTag index)
    p.cells tabSize hit path

/-- Write the rows of hits, counted from `index` on. -/
def rows (p : Page) (tabSize : Int) (index : Nat) : List DocumentId → Draft Unit
  | [] => return ()
  | id :: rest => do
    p.row tabSize index id
    p.rows tabSize (index + 1) rest

/-- Write groups; `index` counts the rows of the page before them. -/
def groups (p : Page) (index : Nat) : List DirectoryGroup → Draft Unit
  | [] => return ()
  | g :: rest => do
    let project ← p.header g.directory
    p.rows (tabSize p.settings project) index g.ids
    p.groups (index + g.ids.length) rest

/-- Write the hits from `start` up to but not including `stop`. -/
def render (p : Page) (start stop : Int) : Draft Unit := do
  Draft.write "<tbody class=\"search-result\">"
  let found ← groupByDirectory p.read p.hits start stop
  p.groups 0 found
  Draft.write "</tbody>"

end Page

end HitListing
