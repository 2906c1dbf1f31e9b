import HitListing.Fault
import HitListing.Json
import HitListing.Number.Numeral

/-!
# Reading JSON

One function for each production of the grammar; each takes the text that is
left and returns a value and what is left behind it.  Values nest, so the three
functions for values, items and fields carry a bound on their depth, which the
length of the text supplies.

Beyond the standard, the names `NaN`, `Infinity` and `-Infinity` are numbers,
and an integer may not have more digits than `maxDigits`.
-/

namespace HitListing.Json

/-- Whether a character may stand between tokens. -/
def isSpace (c : Char) : Bool :=
  c = ' ' || c = '\t' || c = '\n' || c = '\r'

/-- Pass over the characters between tokens. -/
def skipSpaces (t : Text) : Text :=
  t.dropWhile isSpace

/-! ## Strings -/

/-- The value of a hexadecimal digit. -/
def hexValue? (c : Char) : Option Nat :=
  if '0' ≤ c ∧ c ≤ '9' then some (c.toNat - '0'.toNat)
  else if 'a' ≤ c ∧ c ≤ 'f' then some (c.toNat - 'a'.toNat + 10)
  else if 'A' ≤ c ∧ c ≤ 'F' then some (c.toNat - 'A'.toNat + 10)
  else none

/-- The value of four hexadecimal digits. -/
def hexUnit? (a b c d : Char) : Option Nat := do
  let a ← hexValue? a
  let b ← hexValue? b
  let c ← hexValue? c
  let d ← hexValue? d
  return 4096 * a + 256 * b + 16 * c + d

/-- The character that a backslash and a letter stand for. -/
def shortEscape? (c : Char) : Option Char :=
  if c = '"' then some '"'
  else if c = '\\' then some '\\'
  else if c = '/' then some '/'
  else if c = 'b' then some '\x08'
  else if c = 'f' then some '\x0c'
  else if c = 'n' then some '\n'
  else if c = 'r' then some '\r'
  else if c = 't' then some '\t'
  else none

/-- The code units of a string up to its closing quote, and the text behind
it. -/
def readUnits : Text → Option (List Nat × Text)
  | [] => none
  | '"' :: rest => some ([], rest)
  | '\\' :: 'u' :: a :: b :: c :: d :: rest =>
    match hexUnit? a b c d with
    | none => none
    | some n => (readUnits rest).map fun (units, behind) => (n :: units, behind)
  | '\\' :: e :: rest =>
    match shortEscape? e with
    | none => none
    | some c => (readUnits rest).map fun (units, behind) => (c.toNat :: units, behind)
  | c :: rest =>
    if c.toNat < 0x20 ∨ c = '\\' then none
    else (readUnits rest).map fun (units, behind) => (c.toNat :: units, behind)

/-- The character of a code unit.  Half of a pair alone is no character of a `Text` and
is replaced. -/
def unitChar (n : Nat) : Char :=
  if 0xd800 ≤ n ∧ n < 0xe000 then '\uFFFD' else Char.ofNat n

/-- The text of code units, pairs joined. -/
def joinUnits : List Nat → Text
  | [] => []
  | [n] => [unitChar n]
  | high :: low :: rest =>
    if (0xd800 ≤ high ∧ high < 0xdc00) ∧ (0xdc00 ≤ low ∧ low < 0xe000) then
      Char.ofNat (0x10000 + 0x400 * (high - 0xd800) + (low - 0xdc00)) :: joinUnits rest
    else unitChar high :: joinUnits (low :: rest)

/-- A string after its opening quote. -/
def readString (t : Text) : Except Fault (Text × Text) :=
  match readUnits t with
  | some (units, rest) => .ok (joinUnits units, rest)
  | none => .error .badJson

/-! ## Numbers -/

/-- The fraction of a number, if one follows: its digits. -/
def readFraction : Text → Text × Text
  | '.' :: rest =>
    match rest.takeWhile Char.isDigit with
    | [] => ([], '.' :: rest)
    | digits => (digits, rest.dropWhile Char.isDigit)
  | rest => ([], rest)

/-- The digits of an exponent after its mark and its sign. -/
def exponentDigits? (negative : Bool) (t : Text) : Option (Int × Text) :=
  match t.takeWhile Char.isDigit with
  | [] => none
  | digits =>
    let n : Int := ofDigits (digits.filterMap decimalValue?)
    some (if negative then -n else n, t.dropWhile Char.isDigit)

/-- The exponent of a number, if one follows. -/
def readExponent? : Text → Option (Int × Text)
  | e :: rest =>
    if e = 'e' ∨ e = 'E' then
      match rest with
      | '-' :: rest => exponentDigits? true rest
      | '+' :: rest => exponentDigits? false rest
      | rest => exponentDigits? false rest
    else none
  | [] => none

/-- The digits before the point: a single zero, or digits without a leading
zero. -/
def readWhole? : Text → Option (Text × Text)
  | '0' :: rest => some (['0'], rest)
  | t =>
    match t.takeWhile Char.isDigit with
    | [] => none
    | digits => some (digits, t.dropWhile Char.isDigit)

/-- A number after its sign. -/
def readNumber (negative : Bool) (t : Text) : Except Fault (Json × Text) :=
  match readWhole? t with
  | none => .error .badJson
  | some (whole, rest) =>
    let (fraction, rest) := readFraction rest
    match fraction, readExponent? rest with
    | [], none =>
      if whole.length ≤ maxDigits then
        let n : Int := ofDigits (whole.filterMap decimalValue?)
        .ok (.int (if negative then -n else n), rest)
      else .error .badValue
    | _, exponent =>
      let (e, rest) := exponent.getD (0, rest)
      let digits := ofDigits ((whole ++ fraction).filterMap decimalValue?)
      .ok (.real (.ofDecimal negative digits (e - fraction.length)), rest)

/-! ## Values -/

/-- The text behind a given beginning, if the text begins so. -/
def stripPrefix? (start t : Text) : Option Text :=
  if start.isPrefixOf t then some (t.drop start.length) else none

/-- The values that go by a name. -/
def names : List (Text × Json) :=
  [("null", .null), ("true", .bool true), ("false", .bool false), ("NaN", .real .nan),
    ("Infinity", .real (.infinity false)), ("-Infinity", .real (.infinity true))]

/-- A value that goes by a name, or a number. -/
def readAtom (t : Text) : Except Fault (Json × Text) :=
  let named? : Text × Json → Option (Json × Text) := fun (name, value) =>
    (stripPrefix? name t).map fun rest => (value, rest)
  match names.findSome? named? with
  | some found => .ok found
  | none =>
    match t with
    | '-' :: rest => readNumber true rest
    | rest => readNumber false rest

mutual

/-- A value, nested at most as deep as the bound. -/
def readValue : Nat → Text → Except Fault (Json × Text)
  | 0, _ => .error .badJson
  | depth + 1, t =>
    match t with
    | '"' :: rest => do
      let (s, rest) ← readString rest
      return (.str s, rest)
    | '[' :: rest =>
      match skipSpaces rest with
      | ']' :: rest => .ok (.arr [], rest)
      | rest => do
        let (items, rest) ← readItems depth rest
        return (.arr items, rest)
    | '\x7b' :: rest =>
      match skipSpaces rest with
      | '\x7d' :: rest => .ok (.obj [], rest)
      | rest => do
        let (fields, rest) ← readFields depth rest
        return (ofFields fields, rest)
    | _ => readAtom t

/-- The items of a list up to its closing bracket. -/
def readItems : Nat → Text → Except Fault (List Json × Text)
  | 0, _ => .error .badJson
  | depth + 1, t => do
    let (item, rest) ← readValue depth t
    match skipSpaces rest with
    | ']' :: rest => return ([item], rest)
    | ',' :: rest =>
      let (items, rest) ← readItems depth (skipSpaces rest)
      return (item :: items, rest)
    | _ => .error .badJson

/-- The fields of an object up to its closing brace. -/
def readFields : Nat → Text → Except Fault (List (Text × Json) × Text)
  | 0, _ => .error .badJson
  | depth + 1, t =>
    match t with
    | '"' :: rest => do
      let (key, rest) ← readString rest
      match skipSpaces rest with
      | ':' :: rest =>
        let (value, rest) ← readValue depth (skipSpaces rest)
        match skipSpaces rest with
        | '\x7d' :: rest => return ([(key, value)], rest)
        | ',' :: rest =>
          let (fields, rest) ← readFields depth (skipSpaces rest)
          return ((key, value) :: fields, rest)
        | _ => .error .badJson
      | _ => .error .badJson
    | _ => .error .badJson

end

/-- The value that a whole text holds, however deep it is nested: that a reader may run
out of stack is not modelled. -/
def read (t : Text) : Except Fault Json := do
  let (value, rest) ← readValue (2 * t.length + 2) (skipSpaces t)
  match skipSpaces rest with
  | [] => return value
  | _ => .error .badJson

end HitListing.Json
