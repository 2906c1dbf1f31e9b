import HitListing.Number.Shortest
import HitListing.Text.Quoted

/-!
# JSON values

The values that stored tables, project lists and configurations are made of.
An object keeps its fields in the order in which they were first written.

Beside the type the module holds equality, which can be decided, access to
fields, and the two plain renderings of a value that messages and links use: the
name of its kind, and the value as running text.
-/

namespace HitListing

/-- A JSON value. -/
inductive Json where
  | null
  | bool (b : Bool)
  | int (n : Int)
  | real (x : Binary64)
  | str (t : Text)
  | arr (items : List Json)
  | obj (fields : List (Text × Json))
deriving Inhabited

namespace Json

/-! ## Equality -/

mutual

/-- Whether two values are the same in every detail. -/
def isIdentical : Json → Json → Bool
  | .null, .null => true
  | .bool a, .bool b => a == b
  | .int a, .int b => a == b
  | .real a, .real b => a == b
  | .str a, .str b => a == b
  | .arr a, .arr b => itemsIdentical a b
  | .obj a, .obj b => fieldsIdentical a b
  | _, _ => false

/-- Whether two lists hold the same values. -/
def itemsIdentical : List Json → List Json → Bool
  | [], [] => true
  | a :: as, b :: bs => isIdentical a b && itemsIdentical as bs
  | _, _ => false

/-- Whether two lists hold the same fields. -/
def fieldsIdentical : List (Text × Json) → List (Text × Json) → Bool
  | [], [] => true
  | (k, a) :: as, (l, b) :: bs => k == l && isIdentical a b && fieldsIdentical as bs
  | _, _ => false

end

mutual

theorem isIdentical_iff (a b : Json) : isIdentical a b = true ↔ a = b := by
  cases a <;> cases b <;>
    simp [isIdentical, itemsIdentical_iff, fieldsIdentical_iff]

theorem itemsIdentical_iff (a b : List Json) : itemsIdentical a b = true ↔ a = b := by
  match a, b with
  | [], [] => simp [itemsIdentical]
  | [], _ :: _ => simp [itemsIdentical]
  | _ :: _, [] => simp [itemsIdentical]
  | a :: as, b :: bs => simp [itemsIdentical, isIdentical_iff a b, itemsIdentical_iff as bs]

theorem fieldsIdentical_iff (a b : List (Text × Json)) : fieldsIdentical a b = true ↔ a = b := by
  match a, b with
  | [], [] => simp [fieldsIdentical]
  | [], _ :: _ => simp [fieldsIdentical]
  | _ :: _, [] => simp [fieldsIdentical]
  | (k, a) :: as, (l, b) :: bs =>
    simp [fieldsIdentical, isIdentical_iff a b, fieldsIdentical_iff as bs]

end

instance : DecidableEq Json :=
  fun a b => decidable_of_iff _ (isIdentical_iff a b)

/-! ## Fields -/

/-- Set a field in a list of fields: in its old place if the key is there,
else at the end. -/
def setField (fields : List (Text × Json)) (key : Text) (value : Json) : List (Text × Json) :=
  match fields with
  | [] => [(key, value)]
  | (k, v) :: rest => if k = key then (k, value) :: rest else (k, v) :: setField rest key value

/-- An object from fields in the order written; of two fields with one key the
later one counts. -/
def ofFields (fields : List (Text × Json)) : Json :=
  .obj (fields.foldl (fun all (k, v) => setField all k v) [])

/-- The value of a key in a list of fields. -/
def lookup (key : Text) (fields : List (Text × Json)) : Option Json :=
  fields.lookup key

/-! ## Kinds -/

/-- The text of a value that is a text. -/
def text? : Json → Option Text
  | .str t => some t
  | _ => none

/-- Whether a value may be a key or a member of a set: all but lists and
objects. -/
def isScalar : Json → Bool
  | .arr _ => false
  | .obj _ => false
  | _ => true

/-- The name of a value's kind, as messages give it. -/
def kindName : Json → Text
  | .null => "NoneType"
  | .bool _ => "bool"
  | .int _ => "int"
  | .real _ => "float"
  | .str _ => "str"
  | .arr _ => "list"
  | .obj _ => "dict"

/-! ## Running text -/

mutual

/-- A value as it stands inside another one: texts in quotes. -/
def display : Json → Text
  | .null => "None"
  | .bool true => "True"
  | .bool false => "False"
  | .int n => Text.ofInt n
  | .real x => x.write
  | .str t => quoted t
  | .arr items => '[' :: Text.join ", " (displayItems items) ++ "]"
  | .obj fields => '\x7b' :: Text.join ", " (displayFields fields) ++ "\x7d"

/-- The items of a list, each as it stands inside the list. -/
def displayItems : List Json → List Text
  | [] => []
  | item :: rest => display item :: displayItems rest

/-- The fields of an object, each as it stands inside the object. -/
def displayFields : List (Text × Json) → List Text
  | [] => []
  | (key, value) :: rest => (quoted key ++ ": " ++ display value) :: displayFields rest

end

/-- A value as running text: a text as it is. -/
def plain : Json → Text
  | .str t => t
  | value => display value

end Json

end HitListing
