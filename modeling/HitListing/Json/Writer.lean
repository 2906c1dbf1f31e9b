import HitListing.Json

/-!
# Writing JSON

A value on one line, a space behind each comma and each colon, in ASCII
throughout: every character outside the printable ASCII range is written as an
escape, those beyond the first plane as a pair of them.
-/

namespace HitListing.Json

/-- A code unit of sixteen bits as an escape. -/
def unitEscape (n : Nat) : Text :=
  '\\' :: 'u' :: Text.hexDigits 4 n

/-- A character inside a string. -/
def escapeChar (c : Char) : Text :=
  if c = '"' then "\\\""
  else if c = '\\' then "\\\\"
  else if c = '\n' then "\\n"
  else if c = '\r' then "\\r"
  else if c = '\t' then "\\t"
  else if c = '\x0c' then "\\f"
  else if c = '\x08' then "\\b"
  else if ' ' ≤ c ∧ c ≤ '~' then [c]
  else if c.toNat < 0x10000 then unitEscape c.toNat
  else
    let n := c.toNat - 0x10000
    unitEscape (0xd800 + n / 0x400) ++ unitEscape (0xdc00 + n % 0x400)

/-- A string in its quotes. -/
def writeString (t : Text) : Text :=
  '"' :: t.flatMap escapeChar ++ ['"']

/-- A double.  The values that are no numbers go by their names. -/
def writeReal : Binary64 → Text
  | .nan => "NaN"
  | .infinity false => "Infinity"
  | .infinity true => "-Infinity"
  | x => x.write

mutual

/-- A value on one line. -/
def write : Json → Text
  | .null => "null"
  | .bool true => "true"
  | .bool false => "false"
  | .int n => Text.ofInt n
  | .real x => writeReal x
  | .str t => writeString t
  | .arr items => '[' :: writeItems items ++ [']']
  | .obj fields => '\x7b' :: writeFields fields ++ ['\x7d']

/-- The items of a list. -/
def writeItems : List Json → Text
  | [] => []
  | [item] => write item
  | item :: rest => write item ++ ", " ++ writeItems rest

/-- The fields of an object. -/
def writeFields : List (Text × Json) → Text
  | [] => []
  | [(key, value)] => writeString key ++ ": " ++ write value
  | (key, value) :: rest => writeString key ++ ": " ++ write value ++ ", " ++ writeFields rest

end

end HitListing.Json
