import HitListing.Utf8

/-!
# Reading back UTF-8

The bytes of a text fall into one segment for each of its characters, so that
both ways of reading give the text back.  Reading strictly takes no other bytes
(`decode?_eq_some_iff`).

The bytes of a character are looked at by the number of them.  In each case the
lead byte says how many bytes follow and in which ranges they lie
(`headAt_one` to `headAt_four`), and the digits to the base 64 are put together
again.  The other way round the ranges are such that the character put together
is written with just these bytes (`encodeChar_one` to `encodeChar_four`).
-/

namespace HitListing.Utf8

/-! ## One character -/

/-- A character below 0x80 is its own byte. -/
theorem headAt_one {v : Nat} (hv : v < 0x80) (rest : Bytes) :
    headAt (UInt8.ofNat v) rest = .char (Char.ofNat v) 1 := by
  have hb : (UInt8.ofNat v).toNat = v := by
    rw [UInt8.toNat_ofNat']
    omega
  have hlt : UInt8.ofNat v < 0x80 := by
    rw [UInt8.lt_iff_toNat_lt, hb]
    exact hv
  rw [headAt, lead, if_pos hlt, hb]
  rfl

/-- A byte that follows a lead byte is taken if it lies in its range. -/
theorem follow_cons {code width low high n : Nat} (ranges : List (UInt8 × UInt8)) (rest : Bytes)
    (hlow : low ≤ n) (hhigh : n ≤ high) (hn : high < 256) :
    follow code width ((UInt8.ofNat low, UInt8.ofNat high) :: ranges) (UInt8.ofNat n :: rest) =
      follow (64 * code + n % 64) (width + 1) ranges rest := by
  have hb : (UInt8.ofNat n).toNat = n := by
    rw [UInt8.toNat_ofNat']
    omega
  have hrange : UInt8.ofNat low ≤ UInt8.ofNat n ∧ UInt8.ofNat n ≤ UInt8.ofNat high := by
    rw [UInt8.le_iff_toNat_le, UInt8.le_iff_toNat_le, hb, UInt8.toNat_ofNat', UInt8.toNat_ofNat']
    omega
  rw [follow, if_pos hrange, hb]

/-- The range of most bytes that follow a lead byte. -/
theorem follow_tail {code width n : Nat} (ranges : List (UInt8 × UInt8)) (rest : Bytes)
    (hlow : 0x80 ≤ n) (hhigh : n ≤ 0xbf) :
    follow code width ((0x80, 0xbf) :: ranges) (UInt8.ofNat n :: rest) =
      follow (64 * code + n % 64) (width + 1) ranges rest := by
  have hbound : 0xbf < 256 := by decide
  exact follow_cons ranges rest hlow hhigh hbound

/-- What a lead byte says, by its number. -/
theorem lead_ofNat {n : Nat} (hn : n < 256) :
    lead (UInt8.ofNat n) =
      if n < 0x80 then some (n, [])
      else if n < 0xc2 then none
      else if n < 0xe0 then some (n % 32, [(0x80, 0xbf)])
      else if n = 0xe0 then some (n % 16, [(0xa0, 0xbf), (0x80, 0xbf)])
      else if n = 0xed then some (n % 16, [(0x80, 0x9f), (0x80, 0xbf)])
      else if n < 0xf0 then some (n % 16, [(0x80, 0xbf), (0x80, 0xbf)])
      else if n = 0xf0 then some (n % 8, [(0x90, 0xbf), (0x80, 0xbf), (0x80, 0xbf)])
      else if n < 0xf4 then some (n % 8, [(0x80, 0xbf), (0x80, 0xbf), (0x80, 0xbf)])
      else if n = 0xf4 then some (n % 8, [(0x80, 0x8f), (0x80, 0xbf), (0x80, 0xbf)])
      else none := by
  have hb : (UInt8.ofNat n).toNat = n := by
    rw [UInt8.toNat_ofNat']
    omega
  have heq (m : UInt8) : UInt8.ofNat n = m ↔ n = m.toNat := by
    rw [← UInt8.toNat_inj, hb]
  simp only [lead, UInt8.lt_iff_toNat_lt, heq, hb]
  rfl

/-- The two bytes of a character from 0x80 to 0x7ff. -/
theorem headAt_two {v : Nat} (hlow : 0x80 ≤ v) (hhigh : v ≤ 0x7ff) (rest : Bytes) :
    headAt (UInt8.ofNat (v / 64 % 0x20 + 0xc0)) (UInt8.ofNat (v % 0x40 + 0x80) :: rest) =
      .char (Char.ofNat v) 2 := by
  have hlead : lead (UInt8.ofNat (v / 64 % 0x20 + 0xc0)) = some (v / 64, [(0x80, 0xbf)]) := by
    rw [lead_ofNat (by omega), if_neg (by omega), if_neg (by omega), if_pos (by omega)]
    congr 2
    omega
  have hcode : 64 * (v / 64) + (v % 0x40 + 0x80) % 64 = v := by omega
  simp only [headAt, hlead]
  rw [follow_tail _ _ (by omega) (by omega), follow, hcode]

/-- The three bytes of a character from 0x800 to 0xffff.  The first byte bounds the
second: 0xe0 from below, so that nothing is written too long, and 0xed from above,
so that no surrogate is written. -/
theorem headAt_three {v : Nat} (hlow : 0x800 ≤ v) (hhigh : v ≤ 0xffff)
    (hvalid : v < 0xd800 ∨ 0xdfff < v) (rest : Bytes) :
    headAt (UInt8.ofNat (v / 4096 % 0x10 + 0xe0))
        (UInt8.ofNat (v / 64 % 0x40 + 0x80) :: UInt8.ofNat (v % 0x40 + 0x80) :: rest) =
      .char (Char.ofNat v) 3 := by
  have hcode : 64 * (64 * (v / 4096) + (v / 64 % 0x40 + 0x80) % 64) +
      (v % 0x40 + 0x80) % 64 = v := by omega
  obtain ⟨low, high, hlead, hl, hh, hb⟩ : ∃ low high : Nat,
      lead (UInt8.ofNat (v / 4096 % 0x10 + 0xe0)) =
        some (v / 4096, [(UInt8.ofNat low, UInt8.ofNat high), (0x80, 0xbf)]) ∧
      low ≤ v / 64 % 0x40 + 0x80 ∧ v / 64 % 0x40 + 0x80 ≤ high ∧ high < 256 := by
    rw [lead_ofNat (by omega), if_neg (by omega), if_neg (by omega), if_neg (by omega)]
    have hbits : (v / 4096 % 0x10 + 0xe0) % 16 = v / 4096 := by omega
    rw [hbits]
    by_cases hfirst : v / 4096 = 0
    · rw [if_pos (by omega)]
      exact ⟨0xa0, 0xbf, rfl, by omega, by omega, by omega⟩
    by_cases hsurrogate : v / 4096 = 13
    · rw [if_neg (by omega), if_pos (by omega)]
      exact ⟨0x80, 0x9f, rfl, by omega, by omega, by omega⟩
    · rw [if_neg (by omega), if_neg (by omega), if_pos (by omega)]
      exact ⟨0x80, 0xbf, rfl, by omega, by omega, by omega⟩
  simp only [headAt, hlead]
  rw [follow_cons _ _ hl hh hb, follow_tail _ _ (by omega) (by omega), follow, hcode]

/-- The four bytes of a character from 0x10000 on.  The first byte bounds the second:
0xf0 from below, and 0xf4 from above, where characters end. -/
theorem headAt_four {v : Nat} (hlow : 0x10000 ≤ v) (hhigh : v < 0x110000) (rest : Bytes) :
    headAt (UInt8.ofNat (v / 262144 % 0x08 + 0xf0))
        (UInt8.ofNat (v / 4096 % 0x40 + 0x80) :: UInt8.ofNat (v / 64 % 0x40 + 0x80) ::
          UInt8.ofNat (v % 0x40 + 0x80) :: rest) =
      .char (Char.ofNat v) 4 := by
  have hcode : 64 * (64 * (64 * (v / 262144) + (v / 4096 % 0x40 + 0x80) % 64) +
      (v / 64 % 0x40 + 0x80) % 64) + (v % 0x40 + 0x80) % 64 = v := by omega
  obtain ⟨low, high, hlead, hl, hh, hb⟩ : ∃ low high : Nat,
      lead (UInt8.ofNat (v / 262144 % 0x08 + 0xf0)) =
        some (v / 262144, [(UInt8.ofNat low, UInt8.ofNat high), (0x80, 0xbf), (0x80, 0xbf)]) ∧
      low ≤ v / 4096 % 0x40 + 0x80 ∧ v / 4096 % 0x40 + 0x80 ≤ high ∧ high < 256 := by
    rw [lead_ofNat (by omega), if_neg (by omega), if_neg (by omega), if_neg (by omega),
      if_neg (by omega), if_neg (by omega), if_neg (by omega)]
    have hbits : (v / 262144 % 0x08 + 0xf0) % 8 = v / 262144 := by omega
    rw [hbits]
    by_cases hfirst : v / 262144 = 0
    · rw [if_pos (by omega)]
      exact ⟨0x90, 0xbf, rfl, by omega, by omega, by omega⟩
    by_cases hlast : v / 262144 = 4
    · rw [if_neg (by omega), if_neg (by omega), if_pos (by omega)]
      exact ⟨0x80, 0x8f, rfl, by omega, by omega, by omega⟩
    · rw [if_neg (by omega), if_pos (by omega)]
      exact ⟨0x80, 0xbf, rfl, by omega, by omega, by omega⟩
  simp only [headAt, hlead]
  rw [follow_cons _ _ hl hh hb, follow_tail _ _ (by omega) (by omega),
    follow_tail _ _ (by omega) (by omega), follow, hcode]

/-- The bytes of a character, whatever follows them, hold that character. -/
theorem exists_headAt_encodeChar (c : Char) (rest : Bytes) :
    ∃ b more, String.utf8EncodeChar c = b :: more ∧
      headAt b (more ++ rest) = .char c (more.length + 1) := by
  have hc : Char.ofNat c.val.toNat = c := Char.ofNat_toNat c
  have hvalid : c.val.toNat < 0xd800 ∨ 0xdfff < c.val.toNat ∧ c.val.toNat < 0x110000 := c.valid
  rw [String.utf8EncodeChar]
  split
  · exact ⟨_, _, rfl, (headAt_one (by omega) rest).trans (by rw [hc]; rfl)⟩
  split
  · exact ⟨_, _, rfl, (headAt_two (by omega) (by omega) rest).trans (by rw [hc]; rfl)⟩
  split
  · exact ⟨_, _, rfl, (headAt_three (by omega) (by omega) (by omega) rest).trans (by rw [hc]; rfl)⟩
  · exact ⟨_, _, rfl, (headAt_four (by omega) (by omega) rest).trans (by rw [hc]; rfl)⟩

/-! ## The whole text -/

/-- Each segment takes a byte at least. -/
theorem length_segmentsAfter_le (pass : Nat) (bytes : Bytes) :
    (segmentsAfter pass bytes).length ≤ bytes.length := by
  fun_induction segmentsAfter pass bytes with
  | case1 => exact Nat.le_refl 0
  | case2 pass b rest ih => exact Nat.le_succ_of_le ih
  | case3 b rest c width _ ih => exact Nat.succ_le_succ ih
  | case4 b rest width _ ih => exact Nat.succ_le_succ ih
  | case5 b rest _ => exact Nat.succ_le_succ (Nat.zero_le _)

/-- Passing over a stretch of bytes. -/
theorem segmentsAfter_append (stretch rest : Bytes) :
    segmentsAfter stretch.length (stretch ++ rest) = segmentsAfter 0 rest := by
  induction stretch with
  | nil => rfl
  | cons b stretch ih => exact ih

/-- The bytes of a text have a segment for each character. -/
theorem segments_encode (t : Text) : segments (encode t) = t.map .char := by
  induction t with
  | nil => rfl
  | cons c t ih =>
    obtain ⟨b, more, hbytes, hhead⟩ := exists_headAt_encodeChar c (encode t)
    have hencode : encode (c :: t) = b :: (more ++ encode t) := by
      rw [encode, List.flatMap_cons, hbytes]
      rfl
    rw [hencode, segments, segmentsAfter, hhead]
    simp only [Nat.add_sub_cancel]
    rw [segmentsAfter_append, ← segments, ih]
    rfl

/-- Reading strictly gives a text back from its bytes. -/
theorem decode?_encode (t : Text) : decode? (encode t) = some t := by
  rw [decode?, segments_encode, List.mapM_map]
  induction t with
  | nil => rfl
  | cons c t ih =>
    rw [List.mapM_cons, ih]
    rfl

/-- Reading leniently gives a text back from its bytes. -/
theorem decodeLenient_encode (t : Text) : decodeLenient (encode t) = t := by
  rw [decodeLenient, segments_encode, List.map_map]
  exact List.map_id t

/-! ## Nothing else is read strictly -/

/-- What a lead byte says, by its number: the bits that it adds, and the ranges of the bytes that
follow it. -/
inductive IsLead (n : Nat) : Nat → List (UInt8 × UInt8) → Prop where
  | one : n < 0x80 → IsLead n n []
  | two : 0xc2 ≤ n → n < 0xe0 → IsLead n (n % 32) [(0x80, 0xbf)]
  | three {low high : UInt8} : 0xe0 ≤ n → n < 0xf0 → 0x80 ≤ low.toNat → high.toNat ≤ 0xbf →
      (n = 0xe0 → 0xa0 ≤ low.toNat) → (n = 0xed → high.toNat ≤ 0x9f) →
      IsLead n (n % 16) [(low, high), (0x80, 0xbf)]
  | four {low high : UInt8} : 0xf0 ≤ n → n < 0xf5 → 0x80 ≤ low.toNat → high.toNat ≤ 0xbf →
      (n = 0xf0 → 0x90 ≤ low.toNat) → (n = 0xf4 → high.toNat ≤ 0x8f) →
      IsLead n (n % 8) [(low, high), (0x80, 0xbf), (0x80, 0xbf)]

theorem isLead_of_lead {b : UInt8} {bits : Nat} {ranges : List (UInt8 × UInt8)}
    (h : lead b = some (bits, ranges)) : IsLead b.toNat bits ranges := by
  have hb : b.toNat < 256 := b.toNat_lt
  rw [← UInt8.ofNat_toNat (x := b), lead_ofNat hb] at h
  repeat' split at h
  all_goals cases h
  · exact .one ‹_›
  · exact .two (by omega) ‹_›
  · exact .three (by omega) (by omega) (by decide) (by decide) (fun _ => by decide) (by omega)
  · exact .three (by omega) (by omega) (by decide) (by decide) (by omega) (fun _ => by decide)
  · exact .three (by omega) (by omega) (by decide) (by decide) (by omega) (by omega)
  · exact .four (by omega) (by omega) (by decide) (by decide) (fun _ => by decide) (by omega)
  · exact .four (by omega) (by omega) (by decide) (by decide) (by omega) (by omega)
  · exact .four (by omega) (by omega) (by decide) (by decide) (by omega) (fun _ => by decide)

/-- A byte that is taken lies in its range. -/
theorem exists_of_follow_cons {code width n : Nat} {c : Char} {low high : UInt8}
    {ranges : List (UInt8 × UInt8)} {rest : Bytes}
    (h : follow code width ((low, high) :: ranges) rest = .char c n) :
    ∃ b tail, rest = b :: tail ∧ low.toNat ≤ b.toNat ∧ b.toNat ≤ high.toNat ∧
      follow (64 * code + b.toNat % 64) (width + 1) ranges tail = .char c n := by
  cases rest with
  | nil => cases h
  | cons b tail =>
    rw [follow] at h
    split at h
    · rename_i hrange
      rw [UInt8.le_iff_toNat_le, UInt8.le_iff_toNat_le] at hrange
      exact ⟨b, tail, rfl, hrange.1, hrange.2, h⟩
    · cases h

/-- A character has the number that it is made from. -/
theorem val_ofNat {v : Nat} (h : v < 0xd800 ∨ 0xdfff < v ∧ v < 0x110000) :
    (Char.ofNat v).val.toNat = v := by
  have hvalid : v.isValidChar := h
  rw [Char.ofNat, dif_pos hvalid]
  rfl

theorem ofNat_eq {n : Nat} {b : UInt8} (h : n = b.toNat) : UInt8.ofNat n = b := by
  rw [h, UInt8.ofNat_toNat]

/-! ### Characters put together from bytes -/

section Bytes

variable {a b d e : UInt8}

theorem encodeChar_one (ha : a.toNat < 0x80) :
    String.utf8EncodeChar (Char.ofNat a.toNat) = [a] := by
  rw [String.utf8EncodeChar, val_ofNat (by omega), if_pos (by omega), ofNat_eq rfl]

theorem encodeChar_two (ha : 0xc2 ≤ a.toNat) (ha' : a.toNat < 0xe0) (hb : 0x80 ≤ b.toNat)
    (hb' : b.toNat ≤ 0xbf) :
    String.utf8EncodeChar (Char.ofNat (64 * (a.toNat % 32) + b.toNat % 64)) = [a, b] := by
  rw [String.utf8EncodeChar, val_ofNat (by omega), if_neg (by omega), if_pos (by omega),
    ofNat_eq (b := a) (by omega), ofNat_eq (b := b) (by omega)]

/-- Three bytes: the second is high enough for none too many to be written, and low enough for no
surrogate. -/
theorem encodeChar_three (ha : 0xe0 ≤ a.toNat) (ha' : a.toNat < 0xf0) (hb : 0x80 ≤ b.toNat)
    (hb' : b.toNat ≤ 0xbf) (hlong : a.toNat = 0xe0 → 0xa0 ≤ b.toNat)
    (hsurrogate : a.toNat = 0xed → b.toNat ≤ 0x9f) (hd : 0x80 ≤ d.toNat) (hd' : d.toNat ≤ 0xbf) :
    String.utf8EncodeChar (Char.ofNat (64 * (64 * (a.toNat % 16) + b.toNat % 64) + d.toNat % 64)) =
      [a, b, d] := by
  rw [String.utf8EncodeChar, val_ofNat (by omega), if_neg (by omega), if_neg (by omega),
    if_pos (by omega), ofNat_eq (b := a) (by omega), ofNat_eq (b := b) (by omega),
    ofNat_eq (b := d) (by omega)]

/-- Four bytes: the second is high enough for none too many to be written, and low enough for the
last character. -/
theorem encodeChar_four (ha : 0xf0 ≤ a.toNat) (ha' : a.toNat < 0xf5) (hb : 0x80 ≤ b.toNat)
    (hb' : b.toNat ≤ 0xbf) (hlong : a.toNat = 0xf0 → 0x90 ≤ b.toNat)
    (hlast : a.toNat = 0xf4 → b.toNat ≤ 0x8f) (hd : 0x80 ≤ d.toNat) (hd' : d.toNat ≤ 0xbf)
    (he : 0x80 ≤ e.toNat) (he' : e.toNat ≤ 0xbf) :
    String.utf8EncodeChar (Char.ofNat
      (64 * (64 * (64 * (a.toNat % 8) + b.toNat % 64) + d.toNat % 64) + e.toNat % 64)) =
      [a, b, d, e] := by
  rw [String.utf8EncodeChar, val_ofNat (by omega), if_neg (by omega), if_neg (by omega),
    if_neg (by omega), ofNat_eq (b := a) (by omega), ofNat_eq (b := b) (by omega),
    ofNat_eq (b := d) (by omega), ofNat_eq (b := e) (by omega)]

end Bytes

/-- The bytes of a character that is read are those of the character. -/
theorem encodeChar_of_headAt {b : UInt8} {rest : Bytes} {c : Char} {width : Nat}
    (h : headAt b rest = .char c width) :
    ∃ more tail, rest = more ++ tail ∧ width = more.length + 1 ∧
      String.utf8EncodeChar c = b :: more := by
  rw [headAt] at h
  split at h
  · cases h
  rename_i bits ranges hlead
  cases isLead_of_lead hlead with
  | one ha =>
    rw [follow] at h
    cases h
    exact ⟨[], rest, rfl, rfl, encodeChar_one ha⟩
  | two ha ha' =>
    obtain ⟨b₁, rest, rfl, hb, hb', h⟩ := exists_of_follow_cons h
    rw [follow] at h
    cases h
    exact ⟨[b₁], rest, rfl, rfl, encodeChar_two ha ha' hb hb'⟩
  | three ha ha' hlow hhigh hlong hsurrogate =>
    obtain ⟨b₁, rest, rfl, hb, hb', h⟩ := exists_of_follow_cons h
    obtain ⟨b₂, rest, rfl, hd, hd', h⟩ := exists_of_follow_cons h
    rw [follow] at h
    cases h
    exact ⟨[b₁, b₂], rest, rfl, rfl, encodeChar_three ha ha' (by omega) (by omega) (by omega)
      (by omega) hd hd'⟩
  | four ha ha' hlow hhigh hlong hlast =>
    obtain ⟨b₁, rest, rfl, hb, hb', h⟩ := exists_of_follow_cons h
    obtain ⟨b₂, rest, rfl, hd, hd', h⟩ := exists_of_follow_cons h
    obtain ⟨b₃, rest, rfl, he, he', h⟩ := exists_of_follow_cons h
    rw [follow] at h
    cases h
    exact ⟨[b₁, b₂, b₃], rest, rfl, rfl, encodeChar_four ha ha' (by omega) (by omega)
      (by omega) (by omega) hd hd' he he'⟩

/-- What is read strictly begins with the bytes of its first character. -/
theorem exists_of_decode?_cons {b : UInt8} {rest : Bytes} {t : Text}
    (h : decode? (b :: rest) = some t) :
    ∃ c more tail behind, t = c :: behind ∧ rest = more ++ tail ∧
      String.utf8EncodeChar c = b :: more ∧ decode? tail = some behind := by
  rw [decode?, segments, segmentsAfter] at h
  split at h
  · rename_i c width hhead
    obtain ⟨more, tail, rfl, rfl, hc⟩ := encodeChar_of_headAt hhead
    rw [Nat.add_sub_cancel, segmentsAfter_append, List.mapM_cons] at h
    obtain ⟨c', hc', h⟩ := Option.bind_eq_some_iff.mp h
    obtain ⟨behind, hbehind, h⟩ := Option.bind_eq_some_iff.mp h
    cases hc'
    cases h
    exact ⟨c, more, tail, behind, rfl, rfl, hc, hbehind⟩
  · rw [List.mapM_cons] at h
    cases h
  · cases h

/-- What is read strictly is the bytes of its text. -/
theorem encode_of_decode? {bytes : Bytes} {t : Text} (h : decode? bytes = some t) :
    bytes = encode t := by
  induction t generalizing bytes with
  | nil =>
    cases bytes with
    | nil => rfl
    | cons b rest =>
      obtain ⟨c, more, tail, behind, ht, _⟩ := exists_of_decode?_cons h
      cases ht
  | cons c t ih =>
    cases bytes with
    | nil => cases h
    | cons b rest =>
      obtain ⟨_, more, tail, _, ht, rfl, hc, htail⟩ := exists_of_decode?_cons h
      cases ht
      rw [encode, List.flatMap_cons, hc, ih htail]
      rfl

/-- Exactly the bytes of a text are read strictly, as that text. -/
theorem decode?_eq_some_iff {bytes : Bytes} {t : Text} :
    decode? bytes = some t ↔ bytes = encode t := by
  constructor
  · exact encode_of_decode?
  · rintro rfl
    exact decode?_encode t

end HitListing.Utf8
