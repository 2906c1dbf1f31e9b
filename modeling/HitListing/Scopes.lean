import HitListing.StoredTable

/-!
# Scopes

The functions and classes of a file, each with its first and its last line.
-/

namespace HitListing

/-- A row of a scope table.  The members of a stored row may be values of any
kind. -/
structure Scope where
  lineFrom : Json
  lineTo : Json
  name : Json
  qualifier : Json
  signature : Json
deriving DecidableEq, Inhabited

namespace Scope

/-- The form of a stored scope. -/
def form : RowForm where
  name := "Scope"
  fullName := "sourcelens.analysis.scopes.Scope"
  required := ["line_from", "line_to", "name"]
  optional := ["namespace", "signature"]

/-- The scope that a stored row holds. -/
def ofJson (row : Json) : Except Text Scope :=
  (form.fields? row).map fun fields =>
    { lineFrom := RowForm.value fields "line_from"
      lineTo := RowForm.value fields "line_to"
      name := RowForm.value fields "name"
      qualifier := RowForm.value fields "namespace"
      signature := RowForm.value fields "signature" }

/-- A scope as a stored row. -/
def toJson (s : Scope) : Json :=
  .obj [("line_from", s.lineFrom), ("line_to", s.lineTo), ("name", s.name),
    ("namespace", s.qualifier), ("signature", s.signature)]

/-- Whether a scope contains a line. -/
def contains (s : Scope) (line : Json) : Except Fault Bool := do
  if ← s.lineFrom.le line then line.le s.lineTo else return false

/-- How far the last line lies behind the first. -/
def extent (s : Scope) : Except Fault Json :=
  s.lineTo.minus s.lineFrom

end Scope

/-- A scope table. -/
structure Scopes where
  rows : List Scope
deriving DecidableEq, Inhabited

namespace Scopes

/-- The innermost of the scopes that contain a line, given the best so far. -/
def innermost (line : Json) (best : Option Scope) : List Scope → Except Fault (Option Scope)
  | [] => .ok best
  | s :: rest => do
    if ← s.contains line then
      match best with
      | none => innermost line (some s) rest
      | some b =>
        if ← (← s.extent).lt (← b.extent) then innermost line (some s) rest
        else innermost line best rest
    else innermost line best rest

/-- The innermost scope that contains a line, the first one among equals. -/
def scopeAt (table : Scopes) (line : Json) : Except Fault (Option Scope) :=
  innermost line none table.rows

/-- A table as stored text. -/
def serialize (table : Scopes) : Text :=
  (Json.arr (table.rows.map (·.toJson))).write

/-- The table that stored bytes hold. -/
def deserialize (bytes : Bytes) : Except Fault Scopes := do
  match ← Json.ofBytes bytes with
  | .arr items =>
    match items.mapM Scope.ofJson with
    | .error problem => throw (.badScope problem)
    | .ok rows => return ⟨rows⟩
  | _ => throw .scopesNotList

/-- The table of a stored field; an absent one has no rows. -/
def ofField : Option Bytes → Except Fault Scopes
  | none => .ok ⟨[]⟩
  | some bytes => deserialize bytes

end Scopes

end HitListing
