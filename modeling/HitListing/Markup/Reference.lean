import HitListing.Fault
import HitListing.Markup.NamedReference
import HitListing.Number.Numeral

/-!
# Character references

Markup writes a character by its number or by a name after an ampersand.
Reading is lenient: the semicolon may be missing, numbers that browsers of old
took from another character set keep that meaning, and a name that is not known
may still begin with one that is.
-/

namespace HitListing.Markup

/-! ## Finding references -/

/-- Whether a character may stand in the name of a reference. -/
def isNameChar (c : Char) : Bool :=
  !(c = '\t' || c = '\n' || c = '\x0c' || c = ' ' || c = '<' || c = '&' || c = '#' || c = ';')

/-- Whether a character is a hexadecimal digit. -/
def isHexDigit (c : Char) : Bool :=
  c.isDigit || ('a' ≤ c && c ≤ 'f') || ('A' ≤ c && c ≤ 'F')

/-- The length of a body together with the semicolon that may follow it. -/
def withSemicolon (length : Nat) (t : Text) : Nat :=
  if t[length]? = some ';' then length + 1 else length

/-- The length of a reference at the front of a text that follows an ampersand;
zero if there is none. -/
def referenceLength (t : Text) : Nat :=
  match t with
  | '#' :: rest =>
    let digits := (rest.takeWhile Char.isDigit).length
    if 0 < digits then withSemicolon (1 + digits) t
    else
      match rest with
      | x :: rest =>
        let digits := (rest.takeWhile isHexDigit).length
        if (x = 'x' ∨ x = 'X') ∧ 0 < digits then withSemicolon (2 + digits) t else 0
      | [] => 0
  | _ =>
    let letters := ((t.take 32).takeWhile isNameChar).length
    if 0 < letters then withSemicolon letters t else 0

/-! ## What a reference means -/

/-- The code points of the old character set that stand at 0x80 to 0x9f. -/
def oldCodes : List Nat :=
  [0x20ac, 0x81, 0x201a, 0x192, 0x201e, 0x2026, 0x2020, 0x2021, 0x2c6, 0x2030, 0x160, 0x2039, 0x152,
    0x8d, 0x17d, 0x8f, 0x90, 0x2018, 0x2019, 0x201c, 0x201d, 0x2022, 0x2013, 0x2014, 0x2dc, 0x2122,
    0x161, 0x203a, 0x153, 0x9d, 0x17e, 0x178]

/-- Whether a code point is a control or a noncharacter, which a reference
cannot produce. -/
def isDroppedCode (n : Nat) : Bool :=
  (1 ≤ n && n ≤ 8) || n = 0xb || (0xe ≤ n && n ≤ 0x1f) || (0x7f ≤ n && n ≤ 0x9f) ||
    (0xfdd0 ≤ n && n ≤ 0xfdef) || n % 0x10000 = 0xfffe || n % 0x10000 = 0xffff

/-- The text that a number stands for. -/
def numberMeaning (n : Nat) : Text :=
  if n = 0 then ['\uFFFD']
  else if n = 0xd then ['\r']
  else if 0x80 ≤ n ∧ n ≤ 0x9f then [Char.ofNat ((oldCodes[n - 0x80]?).getD n)]
  else if (0xd800 ≤ n ∧ n ≤ 0xdfff) ∨ 0x10ffff < n then ['\uFFFD']
  else if isDroppedCode n then []
  else [Char.ofNat n]

/-- The value of a hexadecimal digit, or of a decimal one. -/
def hexDigitValue (c : Char) : Nat :=
  if c.isDigit then c.toNat - '0'.toNat
  else if 'a' ≤ c then c.toNat - 'a'.toNat + 10
  else c.toNat - 'A'.toNat + 10

/-- A numeral in the given base. -/
def numeralValue (base : Nat) (digits : Text) : Nat :=
  digits.foldl (fun n c => base * n + hexDigitValue c) 0

/-- The text of a name that is written with its semicolon. -/
def closedName? (name : Text) : Option Text :=
  (namedReferences.lookup (String.ofList name)).map fun codes => codes.map Char.ofNat

/-- The text of a name that may be written without a semicolon. -/
def bareName? (name : Text) : Option Text :=
  if bareNames.contains (String.ofList name) then closedName? name else none

/-- The text of a name and what follows it: the longest known beginning with at
most `length` and at least two characters counts. -/
def longestName (name : Text) : Nat → Option Text
  | 0 => none
  | length + 1 =>
    if length + 1 < 2 then none
    else
      match bareName? (name.take (length + 1)) with
      | some t => some (t ++ name.drop (length + 1))
      | none => longestName name length

/-- The text of a reference by name; `body` is all that follows the
ampersand. -/
def nameMeaning (body : Text) : Text :=
  let exact :=
    if body.getLast? = some ';' then closedName? body.dropLast else bareName? body
  match exact with
  | some t => t
  | none => (longestName body (body.length - 1)).getD ('&' :: body)

/-- The text of a reference.  A decimal number with too many digits is
refused. -/
def meaning (body : Text) : Except Fault Text :=
  let plain := Text.dropEndWhile (· = ';') body
  match plain with
  | '#' :: x :: digits =>
    if x = 'x' ∨ x = 'X' then .ok (numberMeaning (numeralValue 16 digits))
    else if (x :: digits).length ≤ maxDigits then
      .ok (numberMeaning (numeralValue 10 (x :: digits)))
    else .error .badValue
  | _ => .ok (nameMeaning body)

/-! ## Replacing them -/

/-- The text with its references replaced, after the first `pass`
characters. -/
def unescapeAfter : Nat → Text → Except Fault Text
  | _, [] => .ok []
  | pass + 1, _ :: rest => unescapeAfter pass rest
  | 0, c :: rest =>
    if c = '&' ∧ 0 < referenceLength rest then do
      let start ← meaning (rest.take (referenceLength rest))
      let more ← unescapeAfter (referenceLength rest) rest
      return start ++ more
    else do
      let more ← unescapeAfter 0 rest
      return c :: more

/-- The text with its references replaced. -/
def unescape (t : Text) : Except Fault Text :=
  unescapeAfter 0 t

end HitListing.Markup
