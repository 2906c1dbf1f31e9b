import HitListing.CommandLine.Request
import HitListing.FileTree.Placement
import HitListing.IndexFile
import HitListing.Page
import HitListing.Search
import HitListing.Table

/-!
# The command line

What the program answers to its arguments, given the files that it can see: what
it prints, what it writes to a file, and how it ends.  What was printed or
written before a failure remains.
-/

namespace HitListing.CommandLine

/-- How the program ends. -/
inductive Ending where
  | done
  /-- The arguments make no sense, or there is no index. -/
  | misused
  | failed (f : Fault)
deriving DecidableEq, Repr

/-- The exit code of the program. -/
def Ending.code : Ending → Nat
  | .done => 0
  | .failed _ => 1
  | .misused => 2

/-- What the program leaves behind. -/
structure Outcome where
  printed : Text
  /-- A file that was written, and its content. -/
  written : Option (Path × Text)
  ending : Ending
deriving DecidableEq, Repr

namespace Outcome

/-- The outcome of printing a text, and of nothing else. -/
def print (t : Text) : Outcome :=
  ⟨t, none, .done⟩

/-- The outcome of a failure before anything was done. -/
def fail (f : Fault) : Outcome :=
  ⟨[], none, .failed f⟩

/-- The outcome that an operation gives, or its failure. -/
def ofExcept : Except Fault Outcome → Outcome
  | .ok x => x
  | .error f => fail f

end Outcome

/-- The ending that a result leads to. -/
def Ending.ofExcept {α : Type} : Except Fault α → Ending
  | .ok _ => .done
  | .error f => .failed f

/-- How the program is used. -/
def usage : Text :=
  "Usage: COMMAND [OPTIONS] QUERY\n\n" ++
    "  render  Render one page of hits as an HTML table body.\n" ++
    "  groups  Show how a page of hits groups by directory.\n"

/-- What is printed if no document answers the query. -/
def noMatches : Text :=
  "No matches found.\n"

/-- The index of a configuration, if there is a file or a directory in its
place.  Only a file that may be read can be opened. -/
def openIndex (tree : FileTree) (config : Config) : Except Fault (Option IndexFile) :=
  match tree.lookup config.indexPath with
  | .ok (.file f) => (IndexFile.ofBytes f.content).map some
  | .ok _ => .error .indexUnreachable
  | .error (.fileMissing _) => .ok none
  | .error (.notDirectory _) => .ok none
  | .error f => .error f

/-- The JSON value in a file, if one is named.  The value null counts as none. -/
def loadJson (tree : FileTree) : Option Path → Except Fault (Option Json)
  | none => .ok none
  | some p => do
    match ← Json.ofBytes (← tree.readBytes p) with
    | .null => return none
    | j => return some j

namespace Request

/-- The page that a request is for. -/
def page (r : Request) (tree : FileTree) (x : IndexFile) (q : Query) (hits : List Int) :
    Except Fault Page := do
  let projects ← match ← loadJson tree r.projects with
    | some rows => Registry.load rows
    | none => pure .empty
  let descriptions ← loadJson tree r.descriptions
  let terms := Terms.ofList q.terms
  return {
    read := x.store.get
    hits := hits.map .int
    tree := tree
    settings := r.config.renderSettings
    summarizer := some ⟨terms, Summarizer.defaultWindow⟩
    sourceContext := some ⟨terms, q.defSearch, SourceContext.defaultLimit⟩
    history := none
    projects := some projects
    descriptions := descriptions
    now := x.moment }

/-- The note that a page was written to a file, as a text for the console. -/
def writtenNote (start stop : Int) (count : Nat) (output : Path) : Text :=
  "Wrote hits " ++ Text.ofInt (start + 1) ++ "-" ++ Text.ofInt stop ++ " of " ++
    Text.ofNat count ++ " to [bold]" ++ output.toText ++ "[/bold]"

/-- Render the page of a request.  A file that the page goes to is empty while
the page is rendered. -/
def render (r : Request) (tree : FileTree) (x : IndexFile) (q : Query) (hits : List Int) :
    Except Fault Outcome := do
  let page ← r.page tree x q hits
  let stop := min (r.start + r.config.hitsPerPage) hits.length
  match r.output with
  | none =>
    let d := page.render r.start stop
    return ⟨d.text, none, .ofExcept d.result⟩
  | some output =>
    let opened ← tree.write output []
    let d := { page with tree := opened }.render r.start stop
    let written := some (output, d.text)
    match do d.result; Console.print (writtenNote r.start stop hits.length output) with
    | .ok note => return ⟨note, written, .done⟩
    | .error f => return ⟨[], written, .failed f⟩

/-- The names of the documents in a group. -/
def groupNames (s : Store) (g : DirectoryGroup) : Except Fault (List Text) :=
  g.ids.mapM fun id => do (← s.get id).name

/-- The table of groups, each with the names of its documents. -/
def groupTable (groups : List (Text × List Text)) : Table :=
  let directory (d : Text) : Text := if d.isEmpty then ['/'] else d
  ⟨[⟨"Directory", groups.map fun (d, _) => directory d⟩,
    ⟨"Files", groups.map fun (_, names) => Text.join ", " names⟩,
    ⟨"Hits", groups.map fun (_, names) => Text.ofNat names.length⟩]⟩

/-- Draw the groups of a request. -/
def groups (r : Request) (x : IndexFile) (hits : List Int) : Except Fault Outcome := do
  let stop := r.start + r.config.hitsPerPage
  let found ← (groupByDirectory x.store.get (hits.map .int) r.start stop).result
  let named ← found.mapM fun g => return (g.directory, ← groupNames x.store g)
  let drawing ← (groupTable named).draw
  let stats ← x.store.stats
  return .print (drawing ++ "Documents: " ++ Text.ofNat stats.documents ++ ", without path: " ++
    Text.ofNat stats.withoutPath ++ ", hits: " ++ Text.ofNat hits.length ++ "\n")

/-- Answer a request from an index, if there is one. -/
def answer (r : Request) (tree : FileTree) : Option IndexFile → Except Fault Outcome
  | none => return ⟨[], none, .misused⟩
  | some x => do
    let q := Query.parse r.query r.definitions
    let hits ← Search.search x.store q
    if hits.isEmpty then return .print noMatches
    else
      match r.command with
      | .render => r.render tree x q hits
      | .groups => r.groups x hits

end Request

/-- What the program does if there is no request to answer. -/
def Outcome.refuse : Refusal → Outcome
  | .help => .print usage
  | .misuse => ⟨[], none, .misused⟩

/-- What the program does with its arguments. -/
def run (args : List Text) (tree : FileTree) : Outcome :=
  match Request.read args with
  | .ok r => .ofExcept do r.answer tree (← openIndex tree r.config)
  | .error refusal => .refuse refusal

end HitListing.CommandLine
