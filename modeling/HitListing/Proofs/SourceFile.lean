import HitListing.Proofs.Lines
import HitListing.Proofs.Outcomes
import HitListing.Proofs.Utf8
import HitListing.TextFile
import Mathlib.Algebra.Group.Nat.Defs

/-!
# Reading a source file

A source file always reads as a text, whatever bytes it holds, and that text
has no carriage return (`exists_decode_lenient`).  A text that was written in
UTF-8 reads as itself, up to its line ends (`decode_lenient_encode`).

The size of a file is bounded, and so are the numbers of its lines
(`FileTree.length_feedLines_lt`).
-/

namespace HitListing

namespace TextFile

/-- Reading leniently never fails, and leaves no carriage return. -/
theorem exists_decode_lenient (bytes : Bytes) :
    ∃ t, decode .lenient bytes = .ok t ∧ '\r' ∉ t :=
  ⟨_, rfl, not_mem_normalizeNewlines _⟩

/-- Bytes that begin with a byte order mark hold a text that does. -/
theorem head?_of_starts_with_mark {t : Text} (h : mark.isPrefixOf (Utf8.encode t) = true) :
    t.head? = some '\uFEFF' := by
  obtain ⟨rest, hrest⟩ := List.isPrefixOf_iff_prefix.mp h
  have hmark : mark = Utf8.encode ['\uFEFF'] := by decide
  have hsegments : Utf8.segments (mark ++ rest) = .char '\uFEFF' :: Utf8.segments rest := rfl
  rw [hrest, Utf8.segments_encode] at hsegments
  cases t with
  | nil => cases hsegments
  | cons c t =>
    injection hsegments with hc _
    injection hc with hc
    rw [List.head?_cons, hc]

/-- A text has no bytes that only begin a byte order mark. -/
theorem encode_eq_nil_of_prefix_mark {t : Text} (hlength : (Utf8.encode t).length < 3)
    (h : (Utf8.encode t).isPrefixOf mark = true) : Utf8.encode t = [] := by
  have hsegments := Utf8.segments_encode t
  obtain ⟨rest, hrest⟩ := List.isPrefixOf_iff_prefix.mp h
  match hbytes : Utf8.encode t, hlength with
  | [], _ => rfl
  | [b], _ =>
    rw [hbytes] at hrest hsegments
    obtain rfl : b = 0xef := by
      injection hrest
    cases t with
    | nil => cases hbytes
    | cons c t => cases hsegments
  | [b, c], _ =>
    rw [hbytes] at hrest hsegments
    obtain ⟨rfl, rfl⟩ : b = 0xef ∧ c = 0xbb := by
      injection hrest with hb hrest
      injection hrest with hc _
      exact ⟨hb, hc⟩
    cases t with
    | nil => cases hbytes
    | cons c t => cases hsegments

/-- Nothing is dropped at the front of a text that does not begin with a byte order
mark. -/
theorem dropMark_encode {t : Text} (h : t.head? ≠ some '\uFEFF') :
    dropMark (Utf8.encode t) = Utf8.encode t := by
  unfold dropMark
  split
  · rename_i hpart
    exact (encode_eq_nil_of_prefix_mark hpart.1 hpart.2).symm
  · rw [if_neg fun hmark => h (head?_of_starts_with_mark hmark)]

/-- A text in UTF-8 reads as itself with its line ends normalized. -/
theorem decode_lenient_encode {t : Text} (h : t.head? ≠ some '\uFEFF') :
    decode .lenient (Utf8.encode t) = .ok (normalizeNewlines t) := by
  have hshown : (Utf8.segments (Utf8.encode t)).map Utf8.Segment.shown = t :=
    Utf8.decodeLenient_encode t
  rw [decode, dropMark_encode h, textOf, hshown]
  rfl

/-! ## How long a file can be -/

theorem length_dropMark_le (bytes : Bytes) : (dropMark bytes).length ≤ bytes.length := by
  rw [dropMark]
  split
  · exact Nat.zero_le _
  · split
    · rw [List.length_drop]
      exact Nat.sub_le _ _
    · exact Nat.le_refl _

/-- A file has as many bytes as characters at least. -/
theorem length_le_of_decode_lenient {bytes : Bytes} {t : Text}
    (h : decode .lenient bytes = .ok t) : t.length ≤ bytes.length := by
  obtain rfl : normalizeNewlines ((Utf8.segments (dropMark bytes)).map Utf8.Segment.shown) = t :=
    Except.ok.inj h
  calc _ ≤ ((Utf8.segments (dropMark bytes)).map Utf8.Segment.shown).length :=
        length_normalizeNewlines_le _
    _ = (Utf8.segments (dropMark bytes)).length := List.length_map _
    _ ≤ (dropMark bytes).length := Utf8.length_segmentsAfter_le 0 _
    _ ≤ bytes.length := length_dropMark_le bytes

end TextFile

namespace FileTree

variable {tree : FileTree} {p : Path}

/-- A file that is found is not too large. -/
theorem length_content_lt {f : File} (h : tree.lookup p = .ok (.file f)) :
    f.content.length < sizeLimit := by
  rw [lookup] at h
  split at h
  · cases h
  · split at h
    · cases h
    · split at h
      · rename_i found _
        rw [entry] at h
        split at h
        · cases h
        · split at h
          · cases h
          · cases h
            omega
      · cases h
      · cases h

/-- A file that is not too large is read if it may be. -/
theorem readBytes_of_follow {f : File} (hnul : p.toText.contains '\x00' = false)
    (hpath : (Utf8.encode p.toText).length < pathLimit)
    (hfollow : tree.follow p.toText (tree.start p) p.segments = .ok (.file f))
    (hsize : f.content.length < sizeLimit) (hlocked : tree.locked.contains f.segments = false) :
    tree.readBytes p = .ok f.content := by
  have hentry : tree.entry f = .ok (.file f) := by
    rw [entry, if_neg (Nat.not_le.mpr hsize), hlocked]
    rfl
  have hlookup : tree.lookup p = .ok (.file f) := by
    rw [lookup, if_neg (by rw [hnul]; decide), if_neg (Nat.not_le.mpr hpath), hfollow]
    exact hentry
  rw [readBytes, hlookup]
  rfl

theorem length_lt_of_readBytes {bytes : Bytes} (h : tree.readBytes p = .ok bytes) :
    bytes.length < sizeLimit := by
  obtain ⟨entry, hentry, h⟩ := exists_of_bind_eq_ok h
  cases entry with
  | file f =>
    cases h
    exact length_content_lt hentry
  | locked _ => cases h
  | directory => cases h

/-- What a file can hold is counted with few digits. -/
theorem sizeLimit_lt : sizeLimit < 10 ^ maxDigits :=
  Nat.lt_of_lt_of_le (by decide : sizeLimit < 10 ^ 19)
    (Nat.pow_le_pow_right (by decide) (by decide))

end FileTree

namespace TextFile

/-- The text of a source file is that of its bytes. -/
theorem source_eq {tree : FileTree} {root : Path} {path : Text} {bytes : Bytes}
    (h : tree.readBytes (root.child path) = .ok bytes) :
    source tree root path = decode .lenient bytes := by
  rw [source, h]
  rfl

end TextFile

end HitListing
