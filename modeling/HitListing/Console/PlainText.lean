import HitListing.Console.Picture
import HitListing.Console.Style
import HitListing.Console.Tag
import HitListing.Text.WordChar

/-!
# Plain text

What a console without styles shows of a text: the text without its tags, with the
pictures that it names, and without the controls that would move the cursor.

A closing tag must close something: the last open tag with a name of the same
style, or without a name the last of all.  A tag whose name begins with `@` is an
action, the value of which must make sense once the tag is closed.
-/

namespace HitListing.Console

/-! ## Actions -/

/-- Whether a text between quotes holds no quote and no backslash. -/
def isQuotedBy (quote : Char) (t : Text) : Bool :=
  (between? [quote] [quote] t).any fun inner => !inner.contains quote && !inner.contains '\\'

/-- Whether a text is a constant: a number, a text in quotes or a named value. -/
def isConstant (t : Text) : Bool :=
  let digits := match t with
    | '-' :: digits => digits
    | digits => digits
  (!digits.isEmpty && digits.all Char.isDigit) || isQuotedBy '\'' t || isQuotedBy '"' t ||
    t = "True".toList || t = "False".toList || t = "None".toList

/-- Whether a text is constants set off by commas, of which one may end it. -/
def isConstantList (t : Text) : Bool :=
  let items := (Text.splitAtChar ',' t).map (Text.trim isBlank)
  let items := if 1 < items.length && items.getLast? = some [] then items.dropLast else items
  items.all isConstant

/-- Whether a text is an action: a name, perhaps with constants in brackets, or
constants alone. -/
def isAction (t : Text) : Bool :=
  match t.dropWhile fun c => isWordChar c || c = '.' with
  | [] => true
  | behind =>
    match between? ['('] [')'] behind with
    | some [] => true
    | some constants => isConstantList constants
    | none => isConstantList t

/-! ## Open tags -/

/-- A tag that is open, by the name that stands for its style. -/
structure OpenTag where
  name : Text
  value : Option Text
deriving DecidableEq, Repr

/-- Whether a tag makes sense once it is closed. -/
def OpenTag.isReadable (tag : OpenTag) : Bool :=
  match tag.name, tag.value with
  | '@' :: _, some (c :: value) => isAction (Text.trim isBlank (c :: value))
  | _, _ => true

/-- The tag that a closing tag closes and the tags that stay open.  The last one
opened comes first. -/
def closeTag (name : Text) (tags : List OpenTag) : Except Fault (OpenTag × List OpenTag) := do
  if name.isEmpty then
    match tags with
    | tag :: rest => return (tag, rest)
    | [] => throw .badTag
  else
    let name ← Style.normal name
    match tags.find? (·.name = name) with
    | some tag => return (tag, tags.eraseP (·.name = name))
    | none => throw .badTag

/-! ## The text that is left -/

/-- A text in which a backslash before a bracket is left out. -/
def unescapeBrackets : Text → Text
  | [] => []
  | '\\' :: '[' :: rest => '[' :: unescapeBrackets rest
  | c :: rest => c :: unescapeBrackets rest

/-- Whether a character would move the cursor, or ring. -/
def isCursorControl (c : Char) : Bool :=
  c = '\x07' || c = '\x08' || c = '\x0b' || c = '\x0c' || c = '\r'

/-- What is shown of a text without tags. -/
def shown (t : Text) : Text :=
  (showPictures (unescapeBrackets t)).filter fun c => !isCursorControl c

/-- What is shown of parts behind some open tags, the last of which comes first. -/
def shownParts (tags : List OpenTag) : List Part → Except Fault Text
  | [] => return []
  | .plain t :: rest => return shown t ++ (← shownParts tags rest)
  | .opening name value :: rest => do
    let name ← Style.normal name
    shownParts (⟨name, value⟩ :: tags) rest
  | .closing name :: rest => do
    let (closed, tags) ← closeTag name tags
    if closed.isReadable then shownParts tags rest else throw .badTag

/-- What is shown of a console text. -/
def plainText (t : Text) : Except Fault Text :=
  shownParts [] (parts t)

end HitListing.Console
