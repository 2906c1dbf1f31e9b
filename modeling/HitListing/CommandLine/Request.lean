import HitListing.CommandLine.Arguments
import HitListing.CommandLine.WholeValue
import HitListing.Settings

/-!
# Requests

What the arguments of the program ask for: one of its commands, a query, and
the choices that go with it.
-/

namespace HitListing.CommandLine

/-- The commands of the program. -/
inductive Command where
  /-- Render a page of hits. -/
  | render
  /-- Show how a page of hits groups by directory. -/
  | groups
deriving DecidableEq, Repr

/-- Why there is no request to answer. -/
inductive Refusal where
  /-- The user asks how the program is used. -/
  | help
  /-- The arguments make no sense. -/
  | misuse
deriving DecidableEq, Repr

/-- What the program is to do. -/
structure Request where
  command : Command
  query : Text
  config : Config
  start : Int
  definitions : Bool
  projects : Option Path
  descriptions : Option Path
  output : Option Path
deriving DecidableEq, Repr

/-! ## The switches -/

/-- The switch that asks how the program is used. -/
def helpSwitch : Switch := ⟨"help", none, false⟩

/-- The switches of both commands. -/
def sharedSwitches : List Switch :=
  [helpSwitch, ⟨"db", none, true⟩, ⟨"start", none, true⟩, ⟨"max", none, true⟩,
    ⟨"defs", none, false⟩, ⟨"verbose", some 'v', false⟩]

/-- The switches of a command. -/
def Command.switches : Command → List Switch
  | .groups => sharedSwitches
  | .render =>
    sharedSwitches ++
      [⟨"data-root", none, true⟩, ⟨"source-root", none, true⟩, ⟨"context-path", none, true⟩,
        ⟨"tab-size", none, true⟩, ⟨"compressed", none, false⟩, ⟨"projects", none, true⟩,
        ⟨"descriptions", none, true⟩, ⟨"output", some 'o', true⟩]

/-- The command of a name. -/
def Command.named? (name : Text) : Option Command :=
  if name = "render".toList then some .render
  else if name = "groups".toList then some .groups
  else none

/-! ## Reading requests -/

/-- A path given as a value. -/
def pathValue (t : Text) : Except Refusal Path :=
  if t.contains '\x00' then .error .misuse else .ok (.ofText t)

/-- A whole number given as a value. -/
def intValue (t : Text) : Except Refusal Int :=
  match wholeValue? t with
  | some n => .ok n
  | none => .error .misuse

namespace Request

/-- The request for a command and a query without any choices made. -/
def plain (command : Command) (query : Text) : Request :=
  ⟨command, query, .default, 0, false, none, none, none⟩

/-- A request after one choice. -/
def choose (r : Request) (name value : Text) : Except Refusal Request :=
  match String.ofList name with
  | "db" => return { r with config.indexPath := ← pathValue value }
  | "data-root" => return { r with config.dataRoot := ← pathValue value }
  | "source-root" => return { r with config.sourceRoot := ← pathValue value }
  | "context-path" => return { r with config.contextPath := value }
  | "start" => return { r with start := ← intValue value }
  | "max" => return { r with config.hitsPerPage := ← intValue value }
  | "tab-size" => return { r with config.tabSize := ← intValue value }
  | "compressed" => return { r with config.compressed := true }
  | "defs" => return { r with definitions := true }
  | "projects" => return { r with projects := some (← pathValue value) }
  | "descriptions" => return { r with descriptions := some (← pathValue value) }
  | "output" => return { r with output := some (← pathValue value) }
  | _ => return r

/-- The request of the arguments after the name of a command. -/
def ofArguments (command : Command) (args : List Text) : Except Refusal Request :=
  match Arguments.read command.switches true args with
  | none => .error .misuse
  | some a =>
    if a.has "help" then .error .help
    else do
      let r ← (Arguments.lastOnly a.switches).foldlM (fun r (name, value) => r.choose name value)
        (plain command [])
      match a.words with
      | [query] => return { r with query := query }
      | _ => throw .misuse

/-- The request of all arguments. -/
def read (args : List Text) : Except Refusal Request :=
  match Arguments.read [helpSwitch] false args with
  | none => .error .misuse
  | some a =>
    if a.has "help" then .error .help
    else
      match a.words with
      | [] => .error .misuse
      | name :: rest =>
        match Command.named? name with
        | some command => ofArguments command rest
        | none => .error .misuse

end Request

end HitListing.CommandLine
