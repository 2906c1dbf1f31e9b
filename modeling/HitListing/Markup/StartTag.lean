import HitListing.Text
import HitListing.Text.Blank

/-!
# Start tags

Finding the end of a start tag.  After the name come blanks and slashes, then
attributes.  An attribute begins behind a blank, a slash or a quote.  Its value
stands in quotes or runs to the next blank; a quote that is never closed does
not begin a value.
-/

namespace HitListing.Markup

/-! ## The parts of a tag -/

/-- Whether a character may stand in the name of a tag. -/
def isTagNameChar (c : Char) : Bool :=
  !(c = '\t' || c = '\n' || c = '\r' || c = '\x0c' || c = ' ' || c = '/' || c = '>' || c = '\x00')

/-- Whether a character is a quote. -/
def isQuote (c : Char) : Bool :=
  c = '\'' || c = '"'

/-- Whether an attribute may begin behind a character. -/
def opensAttribute (c : Char) : Bool :=
  isQuote c || isBlank c || c = '/'

/-- Whether a character may begin the name of an attribute. -/
def isAttributeStart (c : Char) : Bool :=
  !(isBlank c || c = '/' || c = '>')

/-- Whether a character may go on with the name of an attribute. -/
def isAttributeChar (c : Char) : Bool :=
  isAttributeStart c && c ≠ '='

/-- Whether a character may stand in a value without quotes. -/
def isBareValueChar (c : Char) : Bool :=
  !(isBlank c || c = '>')

/-- A place within a tag: the character before it and the text from it on. -/
structure Place where
  before : Char
  rest : Text
deriving DecidableEq, Repr

/-- The place behind a stretch of text. -/
def Place.after (before : Char) (stretch rest : Text) : Place :=
  ⟨stretch.getLastD before, rest⟩

/-- Pass over blanks, and over slashes that do not close the tag. -/
def skipGap (before : Char) : Text → Place
  | [] => ⟨before, []⟩
  | '/' :: '>' :: rest => ⟨before, '/' :: '>' :: rest⟩
  | c :: rest => if isBlank c || c = '/' then skipGap c rest else ⟨before, c :: rest⟩

/-! ## Attributes -/

/-- The value of an attribute whose name ends here, if one follows, and the
place behind it. -/
def attributeValue? (t : Text) : Option (Text × Place) :=
  let marks := (t.dropWhile isBlank).takeWhile (· = '=')
  let behind := (t.dropWhile isBlank).dropWhile (· = '=')
  let blanks := behind.takeWhile isBlank
  let body := behind.dropWhile isBlank
  let bare (start : Text) : Text × Place :=
    let value := start.takeWhile isBareValueChar
    (value, .after (blanks.getLastD '=') value (start.dropWhile isBareValueChar))
  if marks.isEmpty then none
  else
    match body with
    | q :: more =>
      if isQuote q then
        match Text.cutAt? q more with
        | some (inside, rest) => some (q :: inside ++ [q], ⟨q, rest⟩)
        | none =>
          if !blanks.isEmpty then some ([], ⟨'=', behind⟩)
          else if 1 < marks.length then some (bare ('=' :: body))
          else none
      else some (bare body)
    | [] => some (bare body)

/-- An attribute at a place, if one begins there: its value, and the place
behind it and the gap that follows. -/
def attribute? (p : Place) : Option (Text × Place) :=
  match p.rest with
  | [] => none
  | c :: more =>
    if opensAttribute p.before && isAttributeStart c then
      let name := c :: more.takeWhile isAttributeChar
      let behind := more.dropWhile isAttributeChar
      match attributeValue? behind with
      | some (value, place) => some (value, skipGap place.before place.rest)
      | none => some ([], skipGap (name.getLastD c) behind)
    else none

/-- The values of the attributes from a place on, at most `count` of them, and
the place behind them. -/
def attributesFrom : Nat → Place → List Text × Place
  | 0, p => ([], p)
  | count + 1, p =>
    match attribute? p with
    | none => ([], p)
    | some (value, next) =>
      let (values, last) := attributesFrom count next
      (value :: values, last)

/-! ## The whole tag -/

/-- What a start tag turns out to be. -/
inductive StartTag where
  /-- A tag with the given length. -/
  | complete (name : Text) (values : List Text) (selfClosing : Bool) (length : Nat)
  /-- A stretch that begins like a tag and is shown as text. -/
  | shown (values : List Text) (length : Nat)
  /-- The text ends before the tag does. -/
  | incomplete
deriving DecidableEq, Repr

/-- The start tag at the front of a text, which begins with `<` and a
letter. -/
def startTag (t : Text) : StartTag :=
  let name := (t.drop 1).takeWhile isTagNameChar
  let behind := (t.drop 1).dropWhile isTagNameChar
  let gap := behind.takeWhile fun c => isBlank c || c = '/'
  let start := Place.after (name.getLastD '<') gap
    (behind.dropWhile fun c => isBlank c || c = '/')
  let (values, last) := attributesFrom t.length start
  let passed := t.length - last.rest.length
  match last.rest with
  | '>' :: _ =>
    -- a slash in the gap closes the tag only if nothing follows the gap
    let slash := values.isEmpty && gap.getLast? = some '/'
    .complete name values slash (passed + 1)
  | '/' :: '>' :: _ => .complete name values true (passed + 2)
  | [] => .incomplete
  | c :: _ => if c.isAlpha || c = '=' || c = '/' then .incomplete else .shown values passed

end HitListing.Markup
