import HitListing.Text.Blank

/-!
# Tags

A tag in a console text stands in brackets and begins with a small letter or one of
`#`, `/` and `@`; other brackets are text.  A slash makes it a closing tag.  An
equals sign sets the value of an opening tag off.

A backslash before a tag makes it text, and two of them make a backslash.
-/

namespace HitListing.Console

/-- A part of a console text. -/
inductive Part where
  | plain (t : Text)
  | opening (name : Text) (value : Option Text)
  /-- A closing tag; without a name it closes the last tag. -/
  | closing (name : Text)
deriving DecidableEq, Repr

/-- A tag in a text with the backslashes before it. -/
structure FoundTag where
  backslashes : Nat
  body : Text
  /-- The text behind the tag. -/
  behind : Text
deriving DecidableEq, Repr

/-- Whether a tag may begin with a character. -/
def beginsTag (c : Char) : Bool :=
  ('a' ≤ c && c ≤ 'z') || c = '#' || c = '/' || c = '@'

/-- The text up to the next closing bracket and the text behind that, unless a
bracket opens before it. -/
def tagBody? : Text → Option (Text × Text)
  | [] => none
  | c :: rest =>
    if c = ']' then some ([], rest)
    else if c = '[' then none
    else (tagBody? rest).map fun (body, behind) => (c :: body, behind)

/-- The tag that a text begins with, perhaps after backslashes. -/
def tagAt? : Text → Option FoundTag
  | '\\' :: rest => (tagAt? rest).map fun f => { f with backslashes := f.backslashes + 1 }
  | '[' :: rest =>
    if rest.head?.any beginsTag then (tagBody? rest).map fun (body, behind) => ⟨0, body, behind⟩
    else none
  | _ => none

/-- The first tag of a text, with the text before it. -/
def nextTag? : Text → Option (Text × FoundTag)
  | [] => none
  | c :: rest =>
    match tagAt? (c :: rest) with
    | some f => some ([], f)
    | none => (nextTag? rest).map fun (before, f) => (c :: before, f)

theorem length_lt_of_tagBody? {t body behind : Text} (h : tagBody? t = some (body, behind)) :
    behind.length < t.length := by
  induction t generalizing body with
  | nil => simp [tagBody?] at h
  | cons c rest ih =>
    simp only [tagBody?] at h
    split at h
    · simp_all
    · split at h
      · simp at h
      · obtain ⟨⟨body', behind'⟩, hbody, heq⟩ := Option.map_eq_some_iff.1 h
        simp only [Prod.mk.injEq] at heq
        obtain ⟨rfl, rfl⟩ := heq
        have := ih hbody
        simp only [List.length_cons]
        omega

theorem length_lt_of_tagAt? {t : Text} {f : FoundTag} (h : tagAt? t = some f) :
    f.behind.length < t.length := by
  fun_induction tagAt? t generalizing f with
  | case1 rest ih =>
    obtain ⟨g, hg, rfl⟩ := Option.map_eq_some_iff.1 h
    have := ih hg
    exact Nat.lt_succ_of_lt this
  | case2 rest =>
    obtain ⟨⟨body, behind⟩, hbody, rfl⟩ := Option.map_eq_some_iff.1 h
    exact Nat.lt_succ_of_lt (length_lt_of_tagBody? hbody)
  | case3 => simp at h
  | case4 => simp at h

theorem length_lt_of_nextTag? {t before : Text} {f : FoundTag}
    (h : nextTag? t = some (before, f)) : f.behind.length < t.length := by
  induction t generalizing before with
  | nil => simp [nextTag?] at h
  | cons c rest ih =>
    simp only [nextTag?] at h
    split at h
    · next hf =>
      simp only [Option.some.injEq, Prod.mk.injEq] at h
      exact h.2 ▸ length_lt_of_tagAt? hf
    · obtain ⟨⟨before', g⟩, hg, heq⟩ := Option.map_eq_some_iff.1 h
      simp only [Prod.mk.injEq] at heq
      obtain ⟨rfl, rfl⟩ := heq
      have := ih hg
      simp only [List.length_cons]
      omega

/-- A text as parts: none if it is empty. -/
def plainParts (t : Text) : List Part :=
  if t.isEmpty then [] else [.plain t]

/-- The tag with a body. -/
def tagPart (body : Text) : Part :=
  let (name, value) := match Text.cutAt? '=' body with
    | some (name, value) => (name, some value)
    | none => (body, none)
  match name with
  | '/' :: name => .closing (Text.trim isBlank name)
  | name => .opening name value

/-- The parts that a tag and the backslashes before it are. -/
def FoundTag.parts (f : FoundTag) : List Part :=
  plainParts (List.replicate (f.backslashes / 2) '\\') ++
    [if f.backslashes % 2 = 1 then .plain ('[' :: f.body ++ [']']) else tagPart f.body]

/-- The parts of a console text. -/
def parts (t : Text) : List Part :=
  match _h : nextTag? t with
  | some (before, f) => plainParts before ++ f.parts ++ parts f.behind
  | none => plainParts t
termination_by t.length
decreasing_by exact length_lt_of_nextTag? _h

end HitListing.Console
