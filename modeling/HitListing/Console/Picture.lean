import HitListing.Console.PictureTable
import HitListing.Text.Blank
import HitListing.Text.LowerCase

/-!
# Pictures by name

A console text can name a picture between two colons.  A hyphen and `emoji` or
`text` behind the name choose how it is drawn.  A name without a picture stands as
it is, with both of its colons: neither begins or ends another name.
-/

namespace HitListing.Console

/-- The tones of skin, by the words that follow the name of a picture. -/
def skinTones : List (String × Char) :=
  [
    ("_light_skin_tone", Char.ofNat 0x1F3FB), ("_medium-light_skin_tone", Char.ofNat 0x1F3FC),
    ("_medium_skin_tone", Char.ofNat 0x1F3FD), ("_medium-dark_skin_tone", Char.ofNat 0x1F3FE),
    ("_dark_skin_tone", Char.ofNat 0x1F3FF)
  ]

/-- The ways to draw a picture, by the words that follow its name. -/
def presentations : List (String × Char) :=
  [("-emoji", '\ufe0f'), ("-text", '\ufe0e')]

/-- A name without the words behind it, and what these mean. -/
def cutEnding? (endings : List (String × Char)) (name : Text) : Option (Text × Char) :=
  endings.findSome? fun (ending, meaning) =>
    if ending.toList.isSuffixOf name then
      some (name.take (name.length - ending.length), meaning)
    else none

/-- The picture of a name in a table. -/
def pictureIn? (table : List (String × List Nat)) (name : Text) : Option Text :=
  (table.find? (·.1.toList = name)).map fun (_, codes) => codes.map Char.ofNat

/-- A picture with a tone of skin: the tone stands behind the first character, where
a selector may have stood. -/
def toned (tone : Char) : Text → Text
  | [] => []
  | c :: '\ufe0f' :: rest => c :: tone :: rest
  | c :: rest => c :: tone :: rest

/-- The picture of a name. -/
def picture? (name : Text) : Option Text :=
  (pictureIn? pictures name).orElse fun _ =>
    (pictureIn? tonedPictures name).orElse fun _ => do
      let (base, tone) ← cutEnding? skinTones name
      return toned tone (← pictureIn? tonedPictures base)

/-- The picture that the text between two colons asks for. -/
def pictureOf? (code : Text) : Option Text :=
  match cutEnding? presentations code with
  | some (name, selector) => (picture? (lower name)).map (· ++ [selector])
  | none => picture? (lower code)

/-- The text up to the next colon and the text behind that, unless a blank stands
before it. -/
def codeAt? : Text → Option (Text × Text)
  | [] => none
  | c :: rest =>
    if c = ':' then some ([], rest)
    else if isBlank c then none
    else (codeAt? rest).map fun (code, behind) => (c :: code, behind)

theorem length_lt_of_codeAt? {t code behind : Text} (h : codeAt? t = some (code, behind)) :
    behind.length < t.length := by
  induction t generalizing code with
  | nil => simp [codeAt?] at h
  | cons c rest ih =>
    simp only [codeAt?] at h
    split at h
    · simp_all
    · split at h
      · simp at h
      · obtain ⟨⟨code', behind'⟩, hcode, heq⟩ := Option.map_eq_some_iff.1 h
        simp only [Prod.mk.injEq] at heq
        obtain ⟨rfl, rfl⟩ := heq
        have := ih hcode
        simp only [List.length_cons]
        omega

/-- A text with the pictures that it names. -/
def showPictures : Text → Text
  | [] => []
  | c :: rest =>
    if c = ':' then
      match _h : codeAt? rest with
      | some (code, behind) => (pictureOf? code).getD (':' :: code ++ [':']) ++ showPictures behind
      | none => c :: showPictures rest
    else c :: showPictures rest
termination_by t => t.length
decreasing_by
  · simp only [List.length_cons]
    have := length_lt_of_codeAt? _h
    omega
  · simp
  · simp

end HitListing.Console
