import HitListing.Fault
import HitListing.Json.Order
import HitListing.Json.Reader
import HitListing.Json.Writer
import HitListing.Utf8

/-!
# Stored tables

Definition and scope tables are stored alike: a JSON list with an object for
each row.  The keys of a row are fixed, some of them required; a key left out
has the empty text.  A row may hold values of any kind.

A form says which keys a table has and how messages name it.
-/

namespace HitListing

/-- The form of the rows of a stored table. -/
structure RowForm where
  /-- The name of a row in messages. -/
  name : Text
  /-- The name of a row in messages, with where it is defined. -/
  fullName : Text
  required : List Text
  optional : List Text
deriving DecidableEq, Repr

namespace RowForm

/-- All keys in the order in which rows are written. -/
def keys (form : RowForm) : List Text :=
  form.required ++ form.optional

/-- Names in quotes, set off by commas and an `and` before the last. -/
def enumerate : List Text → Text
  | [] => []
  | [a] => quoted a
  | [a, b] => quoted a ++ " and " ++ quoted b
  | names => Text.join ", " (names.dropLast.map quoted) ++ ", and " ++ quoted (names.getLastD [])

/-- What is wrong with a key of a row, if anything. -/
def keyProblem? (form : RowForm) (key : Text) : Option Text :=
  if key = "self".toList then
    some (form.name ++ ".__init__() got multiple values for argument 'self'")
  else if form.keys.contains key then none
  else some (form.name ++ ".__init__() got an unexpected keyword argument '" ++ key ++ "'")

/-- What is wrong with a row that lacks the given keys. -/
def missingProblem (form : RowForm) (missing : List Text) : Text :=
  let plural : Text := if missing.length = 1 then [] else ['s']
  form.name ++ ".__init__() missing " ++ Text.ofNat missing.length ++
    " required positional argument" ++ plural ++ ": " ++ enumerate missing

/-- The fields of a row that fits the form, or what is wrong with it. -/
def fields? (form : RowForm) : Json → Except Text (List (Text × Json))
  | .obj fields =>
    match fields.findSome? fun (key, _) => form.keyProblem? key with
    | some problem => .error problem
    | none =>
      match form.required.filter fun key => (Json.lookup key fields).isNone with
      | [] => .ok fields
      | missing => .error (form.missingProblem missing)
  | row => .error (form.fullName ++ "() argument after ** must be a mapping, not " ++ row.kindName)

/-- The value of a key in the fields of a row; the empty text if it is left
out. -/
def value (fields : List (Text × Json)) (key : Text) : Json :=
  (Json.lookup key fields).getD (.str [])

end RowForm

/-- What is wrong with a value that cannot be a key. -/
def unhashableProblem (value : Json) : Text :=
  "unhashable type: " ++ quoted value.kindName

/-- The value stored as JSON in UTF-8. -/
def Json.ofBytes (bytes : Bytes) : Except Fault Json :=
  match Utf8.decode? bytes with
  | some t => Json.read t
  | none => .error .badUtf8

end HitListing
