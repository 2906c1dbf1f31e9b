import HitListing.Text

/-!
# Command line arguments

Telling switches and words apart.  A switch has a long name, after two hyphens,
and perhaps a letter, after one hyphen.  Its value, if it takes one, follows an
equals sign, the letter, or as the next argument, whatever that looks like.
Several letters can share one hyphen.  Behind two hyphens alone there are only
words.
-/

namespace HitListing.CommandLine

/-- A switch that a command knows. -/
structure Switch where
  name : Text
  letter : Option Char
  takesValue : Bool
deriving DecidableEq, Repr

/-- Arguments told apart. -/
structure Arguments where
  /-- The switches in order, each with its value, which is empty if the switch
  takes none. -/
  switches : List (Text × Text)
  words : List Text
deriving DecidableEq, Repr

/-- The switches that one argument holds, with their values, and the name of a
switch whose value is still to come. -/
structure Reading where
  switches : List (Text × Text)
  pending : Option Text
deriving DecidableEq, Repr

/-- What one argument is. -/
inductive Argument where
  | word
  | switches (r : Reading)
  /-- Two hyphens, behind which there are only words. -/
  | stop
deriving DecidableEq, Repr

/-- What an argument after two hyphens gives, if the switch is known and gets a
value only if it takes one. -/
def readLong (known : List Switch) (t : Text) : Option Reading := do
  let (name, value) := match Text.cutAt? '=' t with
    | some (name, value) => (name, some value)
    | none => (t, none)
  let s ← known.find? (·.name = name)
  match s.takesValue, value with
  | true, some v => some ⟨[(name, v)], none⟩
  | true, none => some ⟨[], some name⟩
  | false, none => some ⟨[(name, [])], none⟩
  | false, some _ => none

/-- What letters after one hyphen give, if they are known. -/
def readLetters (known : List Switch) : Text → Option Reading
  | [] => some ⟨[], none⟩
  | c :: rest => do
    let s ← known.find? (·.letter = some c)
    if s.takesValue then
      if rest.isEmpty then return ⟨[], some s.name⟩ else return ⟨[(s.name, rest)], none⟩
    else
      let r ← readLetters known rest
      return ⟨(s.name, []) :: r.switches, r.pending⟩

/-- What an argument is, if it fits the known switches. -/
def readArgument (known : List Switch) : Text → Option Argument
  | ['-', '-'] => some .stop
  | '-' :: '-' :: t => (readLong known t).map .switches
  | '-' :: c :: t => (readLetters known (c :: t)).map .switches
  | _ => some .word

/-- Tell arguments apart, if they fit the known switches.  Unless words and
switches may be mixed, the first word ends the switches. -/
def Arguments.read (known : List Switch) (mixed : Bool) : List Text → Option Arguments
  | [] => some ⟨[], []⟩
  | arg :: rest =>
    match readArgument known arg with
    | none => none
    | some .stop => some ⟨[], rest⟩
    | some .word =>
      if mixed then (read known mixed rest).map fun a => ⟨a.switches, arg :: a.words⟩
      else some ⟨[], arg :: rest⟩
    | some (.switches ⟨given, none⟩) =>
      (read known mixed rest).map fun a => ⟨given ++ a.switches, a.words⟩
    | some (.switches ⟨given, some name⟩) =>
      match rest with
      | [] => none
      | value :: rest =>
        (read known mixed rest).map fun a => ⟨given ++ (name, value) :: a.switches, a.words⟩

namespace Arguments

/-- Whether a switch is among the arguments. -/
def has (a : Arguments) (name : Text) : Bool :=
  a.switches.any (·.1 = name)

/-- Of several switches with one name only the last. -/
def lastOnly : List (Text × Text) → List (Text × Text)
  | [] => []
  | s :: rest => if rest.any (·.1 = s.1) then lastOnly rest else s :: lastOnly rest

end Arguments

end HitListing.CommandLine
