import HitListing.StoredTable
import HitListing.Text.LowerCase

/-!
# Definitions

The definitions of a file: which symbol is defined on which line, and as what.
A table keeps its rows in order, and beside them the rows of each line, so that
the definitions on a line are found without a search.
-/

namespace HitListing

/-- A row of a definition table.  The members of a stored row may be values of
any kind. -/
structure Definition where
  line : Json
  symbol : Json
  type : Json
  text : Json
deriving DecidableEq, Inhabited

namespace Definition

/-- The form of a stored definition. -/
def form : RowForm where
  name := "Tag"
  fullName := "sourcelens.analysis.definitions.Tag"
  required := ["line", "symbol", "type"]
  optional := ["text"]

/-- The definition that a stored row holds. -/
def ofJson (row : Json) : Except Text Definition :=
  (form.fields? row).map fun fields =>
    { line := RowForm.value fields "line"
      symbol := RowForm.value fields "symbol"
      type := RowForm.value fields "type"
      text := RowForm.value fields "text" }

/-- A definition as a stored row. -/
def toJson (d : Definition) : Json :=
  .obj [("line", d.line), ("symbol", d.symbol), ("type", d.type), ("text", d.text)]

/-- The symbol in lower case. -/
def lowerSymbol (d : Definition) : Except Fault Text :=
  match d.symbol with
  | .str t => .ok (lower t)
  | _ => .error .noMember

end Definition

/-- A definition table: its rows, and the same rows by line. -/
structure Definitions where
  rows : List Definition
  byLine : List (Json × List Definition)
deriving DecidableEq, Inhabited

namespace Definitions

/-- Add a row to the rows of its line. -/
def insertByLine (row : Definition) :
    List (Json × List Definition) → List (Json × List Definition)
  | [] => [(row.line, [row])]
  | (line, found) :: rest =>
    if Json.same line row.line then (line, found ++ [row]) :: rest
    else (line, found) :: insertByLine row rest

/-- The table without rows. -/
def empty : Definitions := ⟨[], []⟩

/-- The table of the given rows; fails with the first line that cannot be a
key. -/
def ofRows (rows : List Definition) : Except Json Definitions :=
  match rows.find? fun row => !row.line.isScalar with
  | some row => .error row.line
  | none => .ok ⟨rows, rows.foldl (fun index row => insertByLine row index) []⟩

/-- Add a row at the end.  A row whose line cannot be a key joins the rows and
no line, and that is a fault. -/
def add (table : Definitions) (row : Definition) : Definitions × Except Fault Unit :=
  if row.line.isScalar then
    (⟨table.rows ++ [row], insertByLine row table.byLine⟩, .ok ())
  else (⟨table.rows ++ [row], table.byLine⟩, .error .wrongKind)

/-- The rows of a line. -/
def onLine (table : Definitions) (line : Json) : List Definition :=
  ((table.byLine.find? fun (l, _) => Json.same l line).map (·.2)).getD []

/-- The rows of a line whose symbols are wanted; `wanted` is in lower case. -/
def ofLowered (table : Definitions) (line : Json) (wanted : List Text) :
    Except Fault (List Definition) :=
  if !line.isScalar then .error .wrongKind
  else (table.onLine line).filterM fun row => return wanted.contains (← row.lowerSymbol)

/-- The rows of a line that define one of the symbols, whatever their case. -/
def definitionsOf (table : Definitions) (line : Json) (symbols : List Json) :
    Except Fault (List Definition) := do
  let wanted ← symbols.mapM fun
    | .str t => return lower t
    | _ => throw Fault.noMember
  table.ofLowered line wanted

/-- The set of symbols. -/
def symbols (table : Definitions) : Except Fault (List Json) :=
  if table.rows.all (·.symbol.isScalar) then .ok (Json.distinct (table.rows.map (·.symbol)))
  else .error .wrongKind

/-- The set of symbols in lower case. -/
def lowerSymbols (table : Definitions) : Except Fault (List Text) := do
  let symbols ← table.symbols
  symbols.mapM fun
    | .str t => return lower t
    | _ => throw Fault.noMember

/-- A table as stored text. -/
def serialize (table : Definitions) : Text :=
  (Json.arr (table.rows.map (·.toJson))).write

/-- The table that stored bytes hold. -/
def deserialize (bytes : Bytes) : Except Fault Definitions := do
  match ← Json.ofBytes bytes with
  | .arr items =>
    match items.mapM Definition.ofJson with
    | .error problem => throw (.badDefinition problem)
    | .ok rows =>
      match ofRows rows with
      | .error line => throw (.badDefinition (unhashableProblem line))
      | .ok table => return table
  | _ => throw .definitionsNotList

/-- The table of a stored field; an absent one has no rows. -/
def ofField : Option Bytes → Except Fault Definitions
  | none => .ok empty
  | some bytes => deserialize bytes

end Definitions

end HitListing
