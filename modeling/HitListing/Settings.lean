import HitListing.Fault
import HitListing.FileTree.Path
import HitListing.Json

/-!
# Settings

How the application is set up, and what of it a page needs while it is
rendered.
-/

namespace HitListing

/-- The settings that stay as they are while a page is rendered. -/
structure RenderSettings where
  dataRoot : Path
  sourceRoot : Path
  contextPath : Text
  tabSize : Int
  sourceContext : Bool
  historyContext : Bool
  compressed : Bool
  lastEditedDisplay : Bool
deriving DecidableEq, Repr

namespace RenderSettings

/-- The settings with the given roots, and otherwise as usual. -/
def usual (dataRoot sourceRoot : Path) : RenderSettings where
  dataRoot := dataRoot
  sourceRoot := sourceRoot
  contextPath := "/source"
  tabSize := 8
  sourceContext := true
  historyContext := false
  compressed := false
  lastEditedDisplay := true

/-- Settings after one choice: the field of that name gets the value.  Only what
the cells of a page show may be chosen. -/
def choose (s : RenderSettings) (name : Text) (value : Json) : Except Fault RenderSettings :=
  match String.ofList name, value with
  | "source_context", .bool b => .ok { s with sourceContext := b }
  | "history_context", .bool b => .ok { s with historyContext := b }
  | _, _ => .error .wrongKind

end RenderSettings

/-- The configuration of the application. -/
structure Config where
  indexPath : Path
  dataRoot : Path
  sourceRoot : Path
  contextPath : Text
  tabSize : Int
  hitsPerPage : Int
  compressed : Bool
  lastEditedDisplay : Bool
deriving DecidableEq, Repr

namespace Config

/-- Where the index lies unless it is said otherwise. -/
def defaultIndexPath : Path :=
  .ofText "data/index.db"

/-- The configuration without any choices made. -/
def default : Config where
  indexPath := defaultIndexPath
  dataRoot := .ofText "data"
  sourceRoot := .ofText "src"
  contextPath := "/source"
  tabSize := 8
  hitsPerPage := 25
  compressed := false
  lastEditedDisplay := true

/-- A configuration after one choice: the field of that name gets the value.
No index path stands for the default one. -/
def choose (c : Config) (name : Text) (value : Json) : Except Fault Config :=
  match String.ofList name, value with
  | "db_path", .null => .ok { c with indexPath := defaultIndexPath }
  | "db_path", .str t => .ok { c with indexPath := .ofText t }
  | "data_root", .str t => .ok { c with dataRoot := .ofText t }
  | "source_root", .str t => .ok { c with sourceRoot := .ofText t }
  | "context_path", .str t => .ok { c with contextPath := t }
  | "tab_size", .int n => .ok { c with tabSize := n }
  | "hits_per_page", .int n => .ok { c with hitsPerPage := n }
  | "compressed", .bool b => .ok { c with compressed := b }
  | "last_edited_display", .bool b => .ok { c with lastEditedDisplay := b }
  | _, _ => .error .wrongKind

/-- The configuration with choices made by name. -/
def ofFields (fields : List (Text × Json)) : Except Fault Config :=
  fields.foldlM (fun c (name, value) => c.choose name value) default

/-- Where the index lies, seen from a base directory if there is one. -/
def resolveIndexPath (c : Config) (base : Option Path) : Path :=
  match base with
  | none => c.indexPath
  | some base => base.append c.indexPath

/-- The settings for rendering a page. -/
def renderSettings (c : Config) : RenderSettings :=
  { RenderSettings.usual c.dataRoot c.sourceRoot with
    contextPath := c.contextPath
    tabSize := c.tabSize
    compressed := c.compressed
    lastEditedDisplay := c.lastEditedDisplay }

end Config

end HitListing
