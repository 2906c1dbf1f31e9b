import HitListing.Page
import HitListing.Proofs.Cutting
import HitListing.Proofs.LinkDecoding
import HitListing.Proofs.ProjectLookup

/-!
# Paths in links

An encoded path is read back as the path (`decodeBytes_encodePath`), so that
different paths have different links.  It is written in characters that end
neither a value in quotes nor the path of a link (`isPathForm_encodePath`), and
each segment of the path is encoded by itself (`splitAtChar_encodePath`): what a
path has in front of its last slash is the encoded directory, and what it has
behind it the encoded base name (`encodePath_carries_path`).
-/

namespace HitListing

/-! ## Pieces of texts -/

namespace Text

/-- What stands in front of a text and holds no separator joins its first piece. -/
theorem exists_splitAtChar_append {c : Char} {front : Text} (h : c ∉ front) (t : Text) :
    ∃ piece rest, splitAtChar c t = piece :: rest ∧
      splitAtChar c (front ++ t) = (front ++ piece) :: rest := by
  obtain ⟨piece, rest, hsplit⟩ := List.exists_cons_of_ne_nil (splitAtChar_ne_nil c t)
  refine ⟨piece, rest, hsplit, ?_⟩
  induction front with
  | nil => exact hsplit
  | cons d front ih =>
    rw [List.mem_cons, not_or] at h
    obtain ⟨first, more, hfront, hcons⟩ := exists_splitAtChar_cons (Ne.symm h.1) (front ++ t)
    rw [ih h.2] at hfront
    cases hfront
    exact hcons

end Text

theorem parentOf_append_cons {name : Text} (h : '/' ∉ name) (directory : Text) :
    parentOf (directory ++ '/' :: name) = directory := by
  rw [parentOf, Text.cutAtLast?_append_cons h]
  rfl

theorem nameOf_append_cons {name : Text} (h : '/' ∉ name) (directory : Text) :
    nameOf (directory ++ '/' :: name) = name := by
  rw [nameOf, Text.cutAtLast?_append_cons h]
  rfl

namespace Uri

/-! ## Characters -/

/-- Whether a text is written in the letters and digits of ASCII, five marks, and percent signs
with two hexadecimal digits behind each. -/
inductive IsPathForm : Text → Prop where
  | nil : IsPathForm []
  | plain {c : Char} {rest : Text} (hc : c.isAlphanum = true ∨ c ∈ "_.-~/".toList)
      (hrest : IsPathForm rest) : IsPathForm (c :: rest)
  | byte {a b : Char} {rest : Text} (ha : Markup.isHexDigit a = true)
      (hb : Markup.isHexDigit b = true) (hrest : IsPathForm rest) :
      IsPathForm ('%' :: a :: b :: rest)

theorem IsPathForm.append {s t : Text} (hs : IsPathForm s) (ht : IsPathForm t) :
    IsPathForm (s ++ t) := by
  induction hs with
  | nil => exact ht
  | plain hc _ ih => exact .plain hc ih
  | byte ha hb _ ih => exact .byte ha hb ih

theorem isPathForm_flatMap_percent (bytes : Bytes) : IsPathForm (bytes.flatMap percent) := by
  induction bytes with
  | nil => exact .nil
  | cons b bytes ih =>
    have hbyte : b.toNat < 256 := b.toNat_lt
    have hhigh := (hexDigitValue_hexDigit (n := b.toNat / 16) (by omega)).1
    have hlow := (hexDigitValue_hexDigit (n := b.toNat % 16) (by omega)).1
    rw [List.flatMap_cons]
    exact .byte hhigh hlow ih

theorem isPathForm_encodeChar (c : Char) : IsPathForm (encodeChar c) := by
  unfold encodeChar
  split
  case isTrue hplain =>
    refine .plain ?_ .nil
    simp only [isUnreserved, Bool.or_eq_true, decide_eq_true_eq] at hplain
    rcases hplain with (((hplain | rfl) | rfl) | rfl) | rfl
    · exact Or.inl hplain
    all_goals exact Or.inr (by decide)
  case isFalse => exact isPathForm_flatMap_percent _

/-- An encoded path is written in the characters of paths. -/
theorem isPathForm_encodePath (path : Text) : IsPathForm (encodePath path) := by
  induction path with
  | nil => exact .nil
  | cons c path ih =>
    rw [encodePath, List.flatMap_cons]
    split
    case isTrue hslash =>
      rw [hslash]
      exact .plain (Or.inr (by decide)) ih
    case isFalse => exact (isPathForm_encodeChar c).append ih

/-- The characters that end a value, begin or end markup, or begin a query or a fragment. -/
def stops : Text := "\"'<>&?# "

theorem ne_of_isAlphanum {c d : Char} (hc : c.isAlphanum = true) (hd : d.isAlphanum = false) :
    c ≠ d := by
  rintro rfl
  rw [hd] at hc
  cases hc

/-- None of them is a character of paths. -/
theorem IsPathForm.not_mem {t : Text} (h : IsPathForm t) : ∀ c ∈ stops, c ∉ t := by
  have hmarks : (stops.all fun c => !c.isAlphanum && !"_.-~/%".toList.contains c &&
      !Markup.isHexDigit c) = true := by decide
  intro c hc
  obtain ⟨⟨halnum, hplain⟩, hdigit⟩ : (c.isAlphanum = false ∧ c ∉ "_.-~/%".toList) ∧
      Markup.isHexDigit c = false := by simpa using List.all_eq_true.mp hmarks c hc
  induction h with
  | nil => exact List.not_mem_nil
  | plain hd _ ih =>
    rw [List.mem_cons, not_or]
    refine ⟨?_, ih⟩
    rintro rfl
    rcases hd with hd | hd
    · exact ne_of_isAlphanum hd halnum rfl
    · exact hplain (List.mem_append_left ['%'] hd)
  | byte ha hb _ ih =>
    rw [List.mem_cons, List.mem_cons, List.mem_cons, not_or, not_or, not_or]
    refine ⟨?_, ?_, ?_, ih⟩
    · rintro rfl
      exact hplain (by decide)
    · rintro rfl
      rw [hdigit] at ha
      cases ha
    · rintro rfl
      rw [hdigit] at hb
      cases hb

/-! ## Reading back -/

/-- An encoded path gives the bytes of the path. -/
theorem decodeBytes_encodePath (path : Text) : decodeBytes (encodePath path) = Utf8.encode path := by
  induction path with
  | nil => rfl
  | cons c path ih =>
    rw [encodePath, List.flatMap_cons, Utf8.encode, List.flatMap_cons]
    split
    case isTrue hslash =>
      rw [hslash, List.singleton_append, decodeBytes_cons (by decide)]
      exact congrArg _ ih
    case isFalse =>
      rw [decodeBytes_encodeChar_append]
      exact congrArg _ ih

/-! ## Segments -/

theorem encodePath_append (a b : Text) : encodePath (a ++ b) = encodePath a ++ encodePath b :=
  List.flatMap_append

theorem encodePath_slash (path : Text) : encodePath ('/' :: path) = '/' :: encodePath path := rfl

theorem slash_not_mem_encodeChar (c : Char) : '/' ∉ encodeChar c := by
  intro h
  rcases isUnreserved_of_mem_encodeChar h with h | h <;> revert h <;> decide

/-- The segments of an encoded path are the encoded segments of the path. -/
theorem splitAtChar_encodePath (path : Text) :
    Text.splitAtChar '/' (encodePath path) = (Text.splitAtChar '/' path).map encodePath := by
  induction path with
  | nil => rfl
  | cons c path ih =>
    by_cases hc : c = '/'
    · rw [hc, encodePath_slash, Text.splitAtChar_cons_self, Text.splitAtChar_cons_self, ih]
      rfl
    · have hcons (t : Text) : encodePath (c :: t) = encodeChar c ++ encodePath t := by
        rw [encodePath, List.flatMap_cons, if_neg hc]
        rfl
      obtain ⟨segment, rest, hpath, hfront⟩ := Text.exists_splitAtChar_cons hc path
      obtain ⟨piece, more, hencoded, hpieces⟩ :=
        Text.exists_splitAtChar_append (slash_not_mem_encodeChar c) (encodePath path)
      rw [hpath, hencoded, List.map_cons] at ih
      cases ih
      rw [hcons, hpieces, hfront, List.map_cons, hcons]

/-- What a path has in front of its last slash and behind it is encoded by itself. -/
theorem encodePath_eq_of_mem {path : Text} (h : '/' ∈ path) :
    encodePath path = encodePath (parentOf path) ++ '/' :: encodePath (nameOf path) := by
  obtain ⟨directory, name, rfl, hname⟩ := Text.exists_last_of_mem h
  rw [parentOf_append_cons hname, nameOf_append_cons hname, encodePath_append, encodePath_slash]

/-- An encoded path is read back as the path, as UTF-8 throughout, so that no other path has the
same link.  It is written in letters, digits, five marks and percent signs with two digits, and
holds nothing at which a value in markup or the path of a link could end.  Its segments are the
encoded segments of the path.  So the link of a file with a slash in its path is the link of its
directory with a slash and the encoded base name behind it. -/
theorem encodePath_carries_path (path : Text) :
    Utf8.decode? (decodeBytes (encodePath path)) = some path ∧
      (∀ other, encodePath other = encodePath path → other = path) ∧
      IsPathForm (encodePath path) ∧ (∀ c ∈ stops, c ∉ encodePath path) ∧
      Text.splitAtChar '/' (encodePath path) = (Text.splitAtChar '/' path).map encodePath ∧
      ∀ hit : Hit, hit.path = some path → '/' ∈ path →
        ∃ directory name, hit.parent = .ok directory ∧ hit.name = .ok name ∧
          encodePath path = encodePath directory ++ '/' :: encodePath name ∧
          ∀ p : Page, directory ≠ [] →
            p.xrefBase ++ '/' :: encodePath path = p.directoryLink directory ++ encodePath name := by
  have hdecode (t : Text) : Utf8.decode? (decodeBytes (encodePath t)) = some t := by
    rw [decodeBytes_encodePath, Utf8.decode?_encode]
  refine ⟨hdecode path, fun other hother => ?_, isPathForm_encodePath path,
    (isPathForm_encodePath path).not_mem, splitAtChar_encodePath path, fun hit hpath hslash => ?_⟩
  · have h := hdecode other
    rw [hother, hdecode path] at h
    exact (Option.some.inj h).symm
  · have hparts := encodePath_eq_of_mem hslash
    refine ⟨parentOf path, nameOf path, ?_, ?_, hparts, fun p hdirectory => ?_⟩
    · rw [Hit.parent, hpath]
    · rw [Hit.name, hpath]
    · have hnonempty : (parentOf path).isEmpty = false := by
        rwa [List.isEmpty_eq_false_iff]
      rw [hparts, Page.directoryLink, hnonempty]
      simp

/-- A path with a space, with what reads like an encoded character, with a quote, and with characters
of two and of four bytes. -/
def accentedPath : Text := "a b/%41/é\"😀.c"

/-- A hit with this path. -/
def accentedHit : Hit := ⟨1, some accentedPath, .plain, none, none, none, none⟩

/-- The case of this path, and of the one that it would be if it were taken for a link. -/
theorem encodePath_carries_path_accentedPath :
    accentedHit.path = some accentedPath ∧ '/' ∈ accentedPath ∧
      encodePath "a b/A/é\"😀.c" ≠ encodePath accentedPath ∧
      (Text.splitAtChar '/' accentedPath).map encodePath =
        ["a%20b".toList, "%2541".toList, "%C3%A9%22%F0%9F%98%80.c".toList] ∧
      ∃ directory name, accentedHit.parent = .ok directory ∧ accentedHit.name = .ok name ∧
        directory ≠ [] ∧
        encodePath accentedPath = encodePath directory ++ '/' :: encodePath name ∧
        ∀ p : Page, p.xrefBase ++ '/' :: encodePath accentedPath =
          p.directoryLink directory ++ encodePath name := by
  have hpath : accentedHit.path = some accentedPath := rfl
  have hslash : '/' ∈ accentedPath := by decide
  obtain ⟨_, hother, _, _, _, hhit⟩ := encodePath_carries_path accentedPath
  obtain ⟨directory, name, hdirectory, hname, hparts, hpage⟩ := hhit accentedHit hpath hslash
  have hnonempty : directory ≠ [] := by
    rintro rfl
    cases hdirectory
  exact ⟨hpath, hslash, fun h => absurd (hother _ h) (by decide), by decide +kernel, directory,
    name, hdirectory, hname, hnonempty, hparts, fun p => hpage p hnonempty⟩

end Uri

end HitListing
