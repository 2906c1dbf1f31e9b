import HitListing.Markup.Reference
import HitListing.Markup.StartTag
import HitListing.Text.LowerCase

/-!
# Stripping markup

The text content of markup: tags, comments and declarations are dropped, and
references are replaced.  The content of a script or a style sheet is kept as
it is, up to the end tag.

A construct that the text does not complete is shown as text: up to the next
`>` if there is one, else up to the next `<`.

The markup is read from left to right.  At each place one construct is
recognised; it says what it shows and how many characters it takes.
-/

namespace HitListing.Markup

/-! ## Lengths of constructs -/

/-- The length of a text through the first occurrence of a character. -/
def lengthThrough? (c : Char) (t : Text) : Option Nat :=
  (t.findIdx? (· = c)).map (· + 1)

/-- The length of a text through the first place that closes, where `close?`
gives the length of a closing at the front of a text. -/
def lengthThroughClose? (close? : Text → Option Nat) : Text → Option Nat
  | [] => none
  | c :: rest =>
    match close? (c :: rest) with
    | some n => some n
    | none => (lengthThroughClose? close? rest).map (· + 1)

/-- The length of blanks and a `>` at the front of a text. -/
def blanksAndEnd? (t : Text) : Option Nat :=
  let blanks := (t.takeWhile isBlank).length
  if (t.drop blanks).head? = some '>' then some (blanks + 1) else none

/-- The length of the end of a comment at the front of a text. -/
def commentClose? : Text → Option Nat
  | '-' :: '-' :: rest => (blanksAndEnd? rest).map (· + 2)
  | _ => none

/-- The length of one bracket and a `>` at the front of a text. -/
def singleClose? : Text → Option Nat
  | ']' :: rest => (blanksAndEnd? rest).map (· + 1)
  | _ => none

/-- The length of two brackets and a `>` at the front of a text. -/
def doubleClose? : Text → Option Nat
  | ']' :: rest =>
    let blanks := (rest.takeWhile isBlank).length
    (singleClose? (rest.drop blanks)).map (· + blanks + 1)
  | _ => none

/-! ## Constructs -/

/-- What stands at a place in markup. -/
inductive Construct where
  /-- Shows nothing. -/
  | dropped (length : Nat)
  /-- Shows its own text. -/
  | literal (length : Nat)
  /-- Shows nothing and begins raw text up to the end tag of that name. -/
  | opensRaw (name : Text) (length : Nat)
  /-- Is not complete. -/
  | incomplete
deriving DecidableEq, Repr

/-- A construct that is dropped, if its length is known. -/
def Construct.ofLength? : Option Nat → Construct
  | some n => .dropped n
  | none => .incomplete

/-- The names of marked sections that two brackets close. -/
def doubleSections : List Text :=
  ["temp", "cdata", "ignore", "include", "rcdata"]

/-- The names of marked sections that one bracket closes. -/
def singleSections : List Text :=
  ["if", "else", "endif"]

/-- Whether a character may stand in the name of a marked section. -/
def isSectionChar (c : Char) : Bool :=
  c.isAlphanum || c = '-' || c = '_' || c = '.'

/-- The marked section at the front of a text, after its opening `<![`. -/
def markedSection (t : Text) : Except Fault Construct :=
  match t with
  | [] => .ok .incomplete
  | c :: _ =>
    let name := t.takeWhile isSectionChar
    if !c.isAlpha then .error .badMarkup
    else if (t.drop name.length).all isBlank then .ok .incomplete
    else
      let closed (close? : Text → Option Nat) : Construct :=
        .ofLength? ((lengthThroughClose? close? t).map (· + 3))
      if doubleSections.contains (lower name) then .ok (closed doubleClose?)
      else if singleSections.contains (lower name) then .ok (closed singleClose?)
      else .error .badMarkup

/-- Whether a text begins with the word `doctype` in any case. -/
def startsDoctype (t : Text) : Bool :=
  lower (t.take 7) = "doctype"

/-- The names of the elements whose content is raw text. -/
def rawElements : List Text :=
  ["script", "style"]

/-- The start tag at the front of a text.  Its attribute values must be
readable, although they are not shown. -/
def startConstruct (t : Text) : Except Fault Construct :=
  match startTag t with
  | .incomplete => .ok .incomplete
  | .shown values length => do
    let _ ← values.mapM unescape
    return .literal length
  | .complete name values selfClosing length => do
    let _ ← values.mapM unescape
    if !selfClosing && rawElements.contains (lower name) then
      return .opensRaw (lower name) length
    else return .dropped length

/-- The construct at the front of a text that begins with `<`. -/
def construct (t : Text) : Except Fault Construct :=
  match t with
  | '<' :: '/' :: rest => .ok (.ofLength? ((lengthThrough? '>' rest).map (· + 2)))
  | '<' :: '!' :: '-' :: '-' :: rest =>
    .ok (.ofLength? ((lengthThroughClose? commentClose? rest).map (· + 4)))
  | '<' :: '!' :: '[' :: rest => markedSection rest
  | '<' :: '!' :: rest =>
    if startsDoctype rest then
      .ok (.ofLength? ((lengthThrough? '>' (rest.drop 7)).map (· + 9)))
    else .ok (.ofLength? ((lengthThrough? '>' rest).map (· + 2)))
  | '<' :: '?' :: rest => .ok (.ofLength? ((lengthThrough? '>' rest).map (· + 2)))
  | '<' :: c :: _ => if c.isAlpha then startConstruct t else .ok (.literal 1)
  | _ => .ok (.literal 1)

/-- The length of what is shown of a construct that is not complete. -/
def incompleteLength (t : Text) : Nat :=
  let rest := t.drop 1
  match rest.findIdx? (· = '>'), rest.findIdx? (· = '<') with
  | some n, _ => n + 2
  | none, some n => n + 1
  | none, none => 1

/-! ## Raw text -/

/-- Whether a character counts as the given small letter in the name of an end
tag. -/
def countsAs (letter c : Char) : Bool :=
  c.toLower = letter || (letter = 's' && c = 'ſ') || (letter = 'i' && (c = 'ı' || c = 'İ'))

/-- The length of an end tag at the front of a text.  Its name may be written
in any case. -/
def endTag? (name t : Text) : Option Nat :=
  match t with
  | '<' :: '/' :: rest =>
    let blanks := (rest.takeWhile isBlank).length
    let written := (rest.drop blanks).take name.length
    if written.length = name.length ∧ (name.zip written).all fun (a, b) => countsAs a b then
      (blanksAndEnd? (rest.drop (blanks + name.length))).map (· + 2 + blanks + name.length)
    else none
  | _ => none

/-- The place of the first end tag in a text, and its length. -/
def findEndTag? (name : Text) : Text → Option (Nat × Nat)
  | [] => none
  | c :: rest =>
    match endTag? name (c :: rest) with
    | some length => some (0, length)
    | none => (findEndTag? name rest).map fun (i, length) => (i + 1, length)

/-! ## The whole text -/

/-- How markup is read: as markup, or as raw text up to an end tag. -/
inductive Mode where
  | markup
  | raw (name : Text)
deriving DecidableEq, Repr

/-- A step of reading: what is shown, how many characters are taken, and how
what follows is read. -/
structure Step where
  shown : Text
  length : Nat
  mode : Mode
deriving DecidableEq, Repr

/-- The step at the front of raw text.  An end tag not spelled in ASCII is
shown and closes nothing; without an end tag the rest is lost. -/
def rawStep (name t : Text) : Step :=
  match findEndTag? name t with
  | none => ⟨[], t.length, .raw name⟩
  | some (start, length) =>
    if ((t.drop start).take length).all (fun c => c.toNat < 128 || isBlank c) then
      ⟨t.take start, start + length, .markup⟩
    else ⟨t.take (start + length), start + length, .raw name⟩

/-- The step at the front of a text. -/
def step (mode : Mode) (t : Text) : Except Fault Step :=
  match mode, t with
  | .raw name, _ => .ok (rawStep name t)
  | .markup, '<' :: _ => do
    match ← construct t with
    | .dropped n => return ⟨[], n, .markup⟩
    | .literal n => return ⟨t.take n, n, .markup⟩
    | .opensRaw name n => return ⟨[], n, .raw name⟩
    | .incomplete =>
      let n := incompleteLength t
      return ⟨← unescape (t.take n), n, .markup⟩
  | .markup, _ => do
    let run := t.takeWhile (· ≠ '<')
    return ⟨← unescape run, run.length, .markup⟩

/-- The text content of markup after its first `pass` characters. -/
def stripAfter : Nat → Mode → Text → Except Fault Text
  | _, _, [] => .ok []
  | pass + 1, mode, _ :: rest => stripAfter pass mode rest
  | 0, mode, c :: rest => do
    let s ← step mode (c :: rest)
    let more ← stripAfter (s.length - 1) s.mode rest
    return s.shown ++ more

/-- The text content of markup. -/
def strip (t : Text) : Except Fault Text :=
  stripAfter 0 .markup t

end HitListing.Markup
