import HitListing.Calendar.Iso
import HitListing.Json.Order
import HitListing.Number.Numeral

/-!
# Projects

A project is a source tree with its own tab width and with messages for those
who look at it.  The projects of an installation come as decoded JSON, and the
members of an entry may be values of any kind.

A path belongs to the project with the longest root that contains it.
-/

namespace HitListing

/-- A message of a project. -/
structure Message where
  text : Json
  tags : List Json
  cssClass : Json
  created : Option Calendar.Moment
  expiration : Option Calendar.Moment
deriving DecidableEq

/-- A source tree. -/
structure Project where
  name : Json
  path : Json
  tabSize : Int
  messages : List Message
deriving DecidableEq

/-- The projects of an installation, in order. -/
structure Registry where
  projects : List Project
deriving DecidableEq

/-! ## Reading entries -/

namespace Json

/-- The members of a value that can be gone through. -/
def each : Json → Except Fault (List Json)
  | .arr items => .ok items
  | .str t => .ok (t.map fun c => .str [c])
  | .obj fields => .ok (fields.map fun (key, _) => .str key)
  | _ => .error .wrongKind

/-- The fields of an entry that has to be an object. -/
def fieldsOf : Json → Except Fault (List (Text × Json))
  | .obj fields => .ok fields
  | _ => .error .noMember

/-- The value of a required key. -/
def require (key : Text) (fields : List (Text × Json)) : Except Fault Json :=
  match lookup key fields with
  | some value => .ok value
  | none => .error (.missingKey key)

/-- A whole number from a value: a number cut off, or a numeral. -/
def toWhole : Json → Except Fault Int
  | .bool b => .ok (if b then 1 else 0)
  | .int n => .ok n
  | .real (.finite q) => .ok (if q < 0 then -((-q).floor) else q.floor)
  | .real .negativeZero => .ok 0
  | .real (.infinity _) => .error .outOfRange
  | .real .nan => .error .badValue
  | .str t =>
    match readInt? t with
    | some n => .ok n
    | none => .error .badValue
  | _ => .error .wrongKind

end Json

namespace Message

/-- The tag of messages for the main page. -/
def mainTag : Text := "main"

/-- A moment of an entry, if it has one. -/
def readMoment : Json → Except Fault (Option Calendar.Moment)
  | .null => .ok none
  | .str t => (Calendar.Iso.readUniversal t).map some
  | _ => .error .wrongKind

/-- The message of an entry. -/
def ofJson : Json → Except Fault Message
  | .obj fields => do
    let text ← Json.require "text" fields
    let tags ← ((Json.lookup "tags" fields).getD (.arr [.str mainTag])).each
    if tags.all Json.isScalar then
      let created ← readMoment ((Json.lookup "created" fields).getD .null)
      let expiration ← readMoment ((Json.lookup "expiration" fields).getD .null)
      return {
        text := text
        tags := Json.distinct tags
        cssClass := (Json.lookup "class" fields).getD (.str "info")
        created := created
        expiration := expiration }
    else throw .wrongKind
  | _ => .error .wrongKind

/-- Whether a message has a tag. -/
def hasTag (m : Message) (tag : Text) : Bool :=
  m.tags.any (Json.same (.str tag))

/-- Whether a message has expired at a moment. -/
def isExpired (m : Message) (now : Calendar.Moment) : Except Fault Bool :=
  match m.expiration with
  | none => .ok false
  | some e => e.le now

/-- A message as it is handed to the page. -/
def toJson (m : Message) : Json :=
  let shown (moment : Option Calendar.Moment) : Json :=
    match moment with
    | some x => .str x.iso
    | none => .null
  .obj [("class", m.cssClass), ("text", m.text), ("created", shown m.created),
    ("expiration", shown m.expiration)]

end Message

namespace Project

/-- The project of an entry. -/
def ofJson (row : Json) : Except Fault Project := do
  let fields ← row.fieldsOf
  let entries ← ((Json.lookup "messages" fields).getD (.arr [])).each
  let messages ← entries.mapM Message.ofJson
  let name ← Json.require "name" fields
  let tabSize ← ((Json.lookup "tab_size" fields).getD (.int 0)).toWhole
  return ⟨name, (Json.lookup "path" fields).getD name, tabSize, messages⟩

/-- A path without slashes at its ends. -/
def trimSlashes (path : Text) : Text :=
  Text.trim (· = '/') path

/-- The root of a project. -/
def root (p : Project) : Except Fault Text :=
  match p.path with
  | .str t => .ok (trimSlashes t)
  | _ => .error .noMember

/-- Whether a path is a root or lies below it. -/
def contains (root path : Text) : Bool :=
  path = root || (root ++ ['/']).isPrefixOf path

/-- The messages of a project with a tag that have not expired at a moment. -/
def pending (p : Project) (tag : Text) (now : Calendar.Moment) : Except Fault (List Message) :=
  p.messages.filterM fun m => if m.hasTag tag then return !(← m.isExpired now) else return false

/-- Messages as a list for the page. -/
def messagesJson (p : Project) (tag : Text) (now : Calendar.Moment) : Except Fault (List Json) :=
  (p.pending tag now).map fun ms => ms.map (·.toJson)

end Project

namespace Registry

/-- The registry without projects. -/
def empty : Registry := ⟨[]⟩

/-- Add a project at the end. -/
def add (r : Registry) (p : Project) : Registry :=
  ⟨r.projects ++ [p]⟩

/-- The registry of decoded entries. -/
def load (rows : Json) : Except Fault Registry := do
  let entries ← rows.each
  let projects ← entries.mapM Project.ofJson
  return ⟨projects⟩

/-- The project of a path among projects, given the best so far and the length
of its root. -/
def search (path : Text) (best : Option (Project × Nat)) :
    List Project → Except Fault (Option Project)
  | [] => .ok (best.map (·.1))
  | p :: rest => do
    let root ← p.root
    let better := match best with
      | none => true
      | some (_, length) => length < root.length
    if Project.contains root path && better then search path (some (p, root.length)) rest
    else search path best rest

/-- The project with the longest root that contains a path, the first one among
equals. -/
def projectFor (r : Registry) (path : Text) : Except Fault (Option Project) :=
  search (Project.trimSlashes path) none r.projects

end Registry

end HitListing
