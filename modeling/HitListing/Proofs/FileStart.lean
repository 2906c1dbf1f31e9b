import HitListing.Proofs.Outcomes
import HitListing.Proofs.SourceFile
import HitListing.Snippet
import Mathlib.Tactic.SplitIfs

/-!
# The start of a file

Reading the start of a file chunk by chunk gives the start of its text, whatever
the chunks are (`TextFile.readStart_eq_take`).  What a chunk and those before it
give is a beginning of the whole text (`TextFile.exists_decodeSettled`): a
character that is cut off waits for the rest of its bytes, and a carriage return
for a line feed.

A file that can be read to its end delivers its bytes without a fault, packed or
not (`TextFile.exists_delivers_of_readAll`).
-/

namespace HitListing

/-! ## Streams without faults -/

namespace Stream

/-- Reading a stream to its end gives these bytes.  A stretch of no bytes ends it. -/
inductive Delivers : Stream → Bytes → Prop where
  | ended : Delivers .ended []
  | empty (next : Stream) : Delivers (.stretch [] none next) []
  | stretch {bytes rest : Bytes} {next : Stream} (hne : bytes ≠ []) (hnext : Delivers next rest) :
    Delivers (.stretch bytes none next) (bytes ++ rest)

variable {s next : Stream} {bytes chunk : Bytes} {limit : Nat}

theorem Delivers.length_le_size (h : s.Delivers bytes) : bytes.length ≤ s.size := by
  induction h with
  | ended => exact Nat.zero_le _
  | empty next => exact Nat.zero_le _
  | stretch hne hnext ih =>
    rw [List.length_append, size]
    omega

/-- A read takes some bytes from the front, or nothing is left. -/
theorem Delivers.exists_read (h : s.Delivers bytes) (hlimit : 0 < limit) :
    (bytes = [] ∧ ∃ next, s.read limit = .ok ([], next)) ∨
      ∃ chunk next rest, chunk ≠ [] ∧ bytes = chunk ++ rest ∧
        s.read limit = .ok (chunk, next) ∧ next.Delivers rest := by
  cases h with
  | ended => exact Or.inl ⟨rfl, .ended, rfl⟩
  | empty next => exact Or.inl ⟨rfl, next, rfl⟩
  | stretch hne hnext =>
    rename_i bytes rest next
    right
    rcases Nat.lt_or_ge limit bytes.length with hmore | hall
    · have hread : (Stream.stretch bytes none next).read limit =
          .ok (bytes.take limit, .stretch (bytes.drop limit) none next) := by
        rw [read.eq_def]
        exact if_neg (by omega)
      have hleft : bytes.drop limit ≠ [] := by
        rw [ne_eq, List.drop_eq_nil_iff]
        omega
      have htaken : bytes.take limit ≠ [] := by
        rw [ne_eq, List.take_eq_nil_iff]
        exact not_or.mpr ⟨by omega, hne⟩
      refine ⟨_, _, bytes.drop limit ++ rest, htaken, ?_, hread, .stretch hleft hnext⟩
      rw [← List.append_assoc, List.take_append_drop]
    · have hread : (Stream.stretch bytes none next).read limit = .ok (bytes, next) := by
        rw [read.eq_def]
        exact if_pos hall
      exact ⟨bytes, next, rest, hne, rfl, hread, hnext⟩

/-- What one read and the reads after it give, the stream delivers. -/
theorem delivers_of_read (h : s.read limit = .ok (chunk, next)) (hlimit : 0 < limit) :
    (chunk = [] → s.Delivers []) ∧
      (chunk ≠ [] → ∀ rest, next.Delivers rest → s.Delivers (chunk ++ rest)) ∧
        chunk.length + next.size ≤ s.size := by
  cases s with
  | ended =>
    cases h
    exact ⟨fun _ => .ended, fun hne => absurd rfl hne, Nat.le_refl _⟩
  | failing f => cases h
  | stretch bytes flaw after =>
    rw [read.eq_def] at h
    simp only at h
    split at h
    · cases flaw with
      | some f => cases h
      | none =>
        cases h
        refine ⟨?_, fun hne _ => .stretch hne, Nat.le_refl _⟩
        rintro rfl
        exact .empty next
    · rename_i hmore
      cases h
      have hleft : bytes.drop limit ≠ [] := by
        rw [ne_eq, List.drop_eq_nil_iff]
        omega
      have hne : bytes ≠ [] := by
        rintro rfl
        exact hmore (Nat.zero_le _)
      refine ⟨fun hnil => ?_, fun _ rest hnext => ?_, ?_⟩
      · rw [List.take_eq_nil_iff] at hnil
        exact absurd hnil (not_or.mpr ⟨by omega, hne⟩)
      · generalize hdrop : bytes.drop limit = left at hleft hnext
        cases hnext with
        | empty => exact absurd rfl hleft
        | stretch _ hnext =>
          rw [← List.append_assoc, ← hdrop, List.take_append_drop]
          exact .stretch hne hnext
      · simp only [size, List.length_take, List.length_drop]
        omega

theorem delivers_ofBytes (bytes : Bytes) : (ofBytes bytes).Delivers bytes := by
  unfold ofBytes
  split
  · rename_i hnil
    rw [hnil]
    exact .ended
  · rename_i hne
    have h := Delivers.stretch hne .ended
    rw [List.append_nil] at h
    exact h

end Stream

/-! ## Bytes that are cut off -/

namespace Utf8

/-- Bytes that follow a lead byte, when they are cut off: the character is still there, or it is
not complete. -/
theorem follow_append {code width n : Nat} {ranges : List (UInt8 × UInt8)} {a b : Bytes} {c : Char}
    (h : follow code width ranges (a ++ b) = .char c n) :
    follow code width ranges a = .char c n ∧ n ≤ width + a.length ∨
      follow code width ranges a = .cut := by
  induction ranges generalizing code width a with
  | nil =>
    rw [follow] at h ⊢
    injection h with hc hn
    exact Or.inl ⟨by rw [hc, hn], by omega⟩
  | cons range ranges ih =>
    obtain ⟨low, high⟩ := range
    cases a with
    | nil => exact Or.inr rfl
    | cons x a =>
      rw [List.cons_append, follow] at h
      rw [follow, List.length_cons]
      split at h
      · rename_i hrange
        rw [if_pos hrange]
        rcases ih h with ⟨hsame, hn⟩ | hcut
        · exact Or.inl ⟨hsame, by omega⟩
        · exact Or.inr hcut
      · cases h

theorem headAt_append {x : UInt8} {a b : Bytes} {c : Char} {n : Nat}
    (h : headAt x (a ++ b) = .char c n) :
    headAt x a = .char c n ∧ n ≤ a.length + 1 ∨ headAt x a = .cut := by
  rw [headAt] at h ⊢
  cases hlead : lead x with
  | none =>
    rw [hlead] at h
    cases h
  | some found =>
    rw [hlead] at h
    rcases follow_append h with ⟨hsame, hn⟩ | hcut
    · exact Or.inl ⟨hsame, by omega⟩
    · exact Or.inr hcut

/-- Bytes of a text that are cut off give the characters that are complete, and perhaps the
beginning of one more. -/
theorem exists_segmentsAfter_of_append {pass : Nat} {a b : Bytes} {t : Text}
    (hpass : pass ≤ a.length) (h : segmentsAfter pass (a ++ b) = t.map .char) :
    ∃ u, u <+: t ∧ (segmentsAfter pass a = u.map .char ∨
      segmentsAfter pass a = u.map .char ++ [.cut]) := by
  induction a generalizing pass t with
  | nil =>
    refine ⟨[], List.nil_prefix, Or.inl ?_⟩
    cases pass <;> rfl
  | cons x a ih =>
    cases pass with
    | succ pass => exact ih (Nat.le_of_succ_le_succ hpass) h
    | zero =>
      rw [List.cons_append, segmentsAfter] at h
      cases hhead : headAt x (a ++ b) with
      | broken n =>
        rw [hhead] at h
        cases t <;> cases h
      | cut =>
        rw [hhead] at h
        cases t <;> cases h
      | char c n =>
        rw [hhead] at h
        cases t with
        | nil => cases h
        | cons d t =>
          injection h with hc h
          injection hc with hc
          rw [segmentsAfter]
          rcases headAt_append hhead with ⟨hsame, hn⟩ | hcut
          · obtain ⟨u, hu, hsegments⟩ := ih (by omega) h
            refine ⟨c :: u, hc ▸ List.cons_prefix_cons.mpr ⟨rfl, hu⟩, ?_⟩
            rw [hsame]
            rcases hsegments with hsegments | hsegments
            · exact Or.inl (congrArg (Segment.char c :: ·) hsegments)
            · exact Or.inr (congrArg (Segment.char c :: ·) hsegments)
          · rw [hcut]
            exact ⟨[], List.nil_prefix, Or.inr rfl⟩

/-! ## Surrogates -/

/-- All bytes that may follow a lead byte lie below those that may lead. -/
theorem le_of_mem_lead {x : UInt8} {bits : Nat} {ranges : List (UInt8 × UInt8)}
    (h : lead x = some (bits, ranges)) : ∀ r ∈ ranges, r.2 ≤ 0xbf := by
  have hall : (ranges.all fun r => decide (r.2 ≤ 0xbf)) = true := by
    unfold lead at h
    simp only at h
    split_ifs at h <;> cases h <;> decide
  intro r hr
  exact of_decide_eq_true (List.all_eq_true.mp hall r hr)

/-- A byte that may only lead is no part of a character before it. -/
theorem le_of_follow {code width n : Nat} {ranges : List (UInt8 × UInt8)} {a b : Bytes}
    {x : UInt8} {c : Char} (hranges : ∀ r ∈ ranges, r.2 ≤ 0xbf) (hx : 0xbf < x)
    (h : follow code width ranges (a ++ x :: b) = .char c n) : n ≤ width + a.length := by
  induction ranges generalizing code width a with
  | nil =>
    rw [follow] at h
    injection h with _ hn
    omega
  | cons range ranges ih =>
    obtain ⟨low, high⟩ := range
    obtain ⟨hrange, hranges⟩ := List.forall_mem_cons.mp hranges
    cases a with
    | nil =>
      rw [List.nil_append, follow, if_neg] at h
      · cases h
      · intro hin
        exact absurd (UInt8.le_trans hin.2 hrange) (UInt8.not_le.mpr hx)
    | cons y a =>
      rw [List.cons_append, follow] at h
      split at h
      · have hn := ih hranges h
        rw [List.length_cons]
        omega
      · cases h

/-- From a byte that may only lead, the bytes of a text are those of a text again. -/
theorem exists_segments_of_lead {pass : Nat} {a b : Bytes} {x : UInt8} {t : Text}
    (hpass : pass ≤ a.length) (hx : 0xbf < x)
    (h : segmentsAfter pass (a ++ x :: b) = t.map .char) :
    ∃ u : Text, segments (x :: b) = u.map .char := by
  induction a generalizing pass t with
  | nil =>
    obtain rfl : pass = 0 := Nat.le_zero.mp hpass
    exact ⟨t, h⟩
  | cons y a ih =>
    cases pass with
    | succ pass => exact ih (Nat.le_of_succ_le_succ hpass) h
    | zero =>
      rw [List.cons_append, segmentsAfter] at h
      cases hhead : headAt y (a ++ x :: b) with
      | broken n =>
        rw [hhead] at h
        cases t <;> cases h
      | cut =>
        rw [hhead] at h
        cases t <;> cases h
      | char c n =>
        rw [hhead] at h
        cases t with
        | nil => cases h
        | cons d t =>
          injection h with _ h
          refine ih ?_ h
          rw [headAt] at hhead
          cases hlead : lead y with
          | none =>
            rw [hlead] at hhead
            cases hhead
          | some found =>
            rw [hlead] at hhead
            have hn := le_of_follow (le_of_mem_lead hlead) hx hhead
            omega

theorem exists_of_endsInSurrogate {bytes : Bytes} (h : endsInSurrogate bytes = true) :
    ∃ front x, bytes = front ++ [0xed, x] ∧ 0xa0 ≤ x := by
  fun_induction endsInSurrogate bytes with
  | case1 => cases h
  | case2 a b =>
    simp only [Bool.and_eq_true, decide_eq_true_eq] at h
    exact ⟨[], b, by rw [h.1.1]; rfl, h.1.2⟩
  | case3 y rest _ ih =>
    obtain ⟨front, x, heq, hx⟩ := ih h
    exact ⟨y :: front, x, by rw [heq]; rfl, hx⟩

/-- The beginning of a surrogate is no part of the bytes of a text. -/
theorem not_endsInSurrogate {a b : Bytes} {t : Text} (h : segments (a ++ b) = t.map .char) :
    endsInSurrogate a = false := by
  rw [← Bool.not_eq_true]
  intro hend
  obtain ⟨front, x, rfl, hx⟩ := exists_of_endsInSurrogate hend
  have hsplit : front ++ [0xed, x] ++ b = front ++ 0xed :: x :: b := by simp
  rw [segments, hsplit] at h
  obtain ⟨u, hu⟩ := exists_segments_of_lead (Nat.zero_le _) (by decide : (0xbf : UInt8) < 0xed) h
  have hlead : lead 0xed = some (13, [(0x80, 0x9f), (0x80, 0xbf)]) := by decide
  have hhead : headAt 0xed (x :: b) = .broken 1 := by
    have hout : ¬((0x80 : UInt8) ≤ x ∧ x ≤ 0x9f) := by
      intro hin
      exact absurd (UInt8.le_trans hx hin.2) (by decide)
    rw [headAt, hlead]
    simp only [follow, if_neg hout]
  rw [segments, segmentsAfter, hhead] at hu
  cases u <;> cases hu

/-- Bytes of a text that are cut off settle a beginning of the text. -/
theorem exists_settled_of_append {a b : Bytes} {t : Text} (h : segments (a ++ b) = t.map .char) :
    ∃ u, u <+: t ∧ settled a = u.map .char := by
  obtain ⟨u, hu, hsegments⟩ := exists_segmentsAfter_of_append (Nat.zero_le _) h
  have hchars : (u.map Segment.char).filter (· ≠ .cut) = u.map .char := by
    rw [List.filter_eq_self]
    intro s hs
    obtain ⟨c, _, rfl⟩ := List.mem_map.mp hs
    rfl
  refine ⟨u, hu, ?_⟩
  rw [settled, not_endsInSurrogate h, if_neg Bool.false_ne_true, segments]
  rcases hsegments with hsegments | hsegments
  · rw [hsegments, hchars]
  · rw [hsegments, List.filter_append, hchars]
    exact List.append_nil _

/-- Segments that are read strictly are characters. -/
theorem eq_map_of_mapM_char? {segments : List Segment} {t : Text}
    (h : segments.mapM Segment.char? = some t) : segments = t.map .char := by
  induction segments generalizing t with
  | nil =>
    cases h
    rfl
  | cons s segments ih =>
    rw [List.mapM_cons] at h
    obtain ⟨c, hc, h⟩ := Option.bind_eq_some_iff.mp h
    obtain ⟨rest, hrest, h⟩ := Option.bind_eq_some_iff.mp h
    cases h
    cases s with
    | char d =>
      cases hc
      rw [ih hrest]
      rfl
    | broken => cases hc
    | cut => cases hc

end Utf8

/-! ## Line ends -/

namespace TextFile

/-- Without the carriage return that waits for what follows, a beginning of a text is read as a
beginning of what the text is read as. -/
theorem normalizeNewlines_withoutPending_prefix {u t : Text} (h : u <+: t) :
    normalizeNewlines (withoutPending u) <+: normalizeNewlines t := by
  obtain ⟨rest, rfl⟩ := h
  unfold withoutPending
  split
  · rename_i hlast
    obtain ⟨front, rfl⟩ := List.getLast?_eq_some_iff.mp hlast
    rw [List.dropLast_concat, List.append_assoc, normalizeNewlines_append]
    · exact List.prefix_append _ _
    · intro _ hfeed
      cases hfeed
  · rename_i hlast
    rw [normalizeNewlines_append fun h => absurd h hlast]
    exact List.prefix_append _ _

/-! ## Chunks -/

/-- The mark at the front of bytes that are cut off: it is dropped from both, or from neither, or
what is there may still become one and counts as nothing. -/
theorem dropMark_append (a b : Bytes) :
    dropMark a = [] ∨ dropMark (a ++ b) = dropMark a ++ b := by
  have hmark : mark.length = 3 := rfl
  by_cases hpart : a.length < 3 ∧ a.isPrefixOf mark = true
  · exact Or.inl (if_pos hpart)
  · right
    have hpart' : ¬((a ++ b).length < 3 ∧ (a ++ b).isPrefixOf mark = true) := by
      intro h
      rw [List.length_append, List.isPrefixOf_iff_prefix] at h
      refine hpart ⟨by omega, ?_⟩
      exact List.isPrefixOf_iff_prefix.mpr ((List.prefix_append a b).trans h.2)
    rw [dropMark, dropMark, if_neg hpart, if_neg hpart']
    rcases Nat.lt_or_ge a.length 3 with hshort | hlong
    · have hnone : mark.isPrefixOf a = false := by
        rw [← Bool.not_eq_true, List.isPrefixOf_iff_prefix]
        intro h
        have := h.length_le
        omega
      have hnone' : mark.isPrefixOf (a ++ b) = false := by
        rw [← Bool.not_eq_true, List.isPrefixOf_iff_prefix]
        intro h
        have hfront : a <+: mark :=
          List.prefix_of_prefix_length_le (List.prefix_append a b) h (by omega)
        exact hpart ⟨hshort, List.isPrefixOf_iff_prefix.mpr hfront⟩
      rw [hnone, hnone']
      rfl
    · have hsame : mark.isPrefixOf (a ++ b) = mark.isPrefixOf a := by
        rw [Bool.eq_iff_iff, List.isPrefixOf_iff_prefix, List.isPrefixOf_iff_prefix]
        constructor
        · intro h
          exact List.prefix_of_prefix_length_le h (List.prefix_append a b) hlong
        · intro h
          exact h.trans (List.prefix_append a b)
      rw [hsame]
      split
      · rw [List.drop_append_of_le_length hlong]
      · rfl

/-- Bytes that are read strictly, as characters. -/
theorem exists_segments_of_decode {bytes : Bytes} {t : Text} (h : decode .strict bytes = .ok t) :
    ∃ read : Text, Utf8.segments (dropMark bytes) = read.map .char ∧
      t = normalizeNewlines read := by
  rw [decode, textOf.eq_def] at h
  simp only at h
  split at h
  · rename_i read hread
    refine ⟨read, Utf8.eq_map_of_mapM_char? hread, ?_⟩
    cases h
    rfl
  · cases h

/-- What the first bytes of a file give settles a beginning of its text. -/
theorem exists_decodeSettled {a b : Bytes} {t : Text} (h : decode .strict (a ++ b) = .ok t) :
    ∃ u, decodeSettled .strict a = .ok u ∧ u <+: t := by
  obtain ⟨read, hread, rfl⟩ := exists_segments_of_decode h
  rcases dropMark_append a b with hnone | hsame
  · refine ⟨[], ?_, List.nil_prefix⟩
    rw [decodeSettled, hnone]
    rfl
  · rw [hsame] at hread
    obtain ⟨u, hu, hsettled⟩ := Utf8.exists_settled_of_append hread
    have hchars : (u.map Utf8.Segment.char).mapM Utf8.Segment.char? = some u := by
      rw [← Utf8.segments_encode]
      exact Utf8.decode?_encode u
    refine ⟨normalizeNewlines (withoutPending u), ?_, normalizeNewlines_withoutPending_prefix hu⟩
    rw [decodeSettled, hsettled, textOf, hchars]
    rfl

theorem request_pos (wanted bytes chars : Nat) : 0 < request wanted bytes chars := by
  have hchunk : 0 < chunkSize := by decide
  unfold request
  split <;> omega

/-- Reading on from some chunk gives enough of the text, whatever chunks follow. -/
theorem exists_readStartFrom {s : Stream} (before : Bytes) {rest : Bytes} {t : Text}
    (hs : s.Delivers rest) (h : decode .strict (before ++ rest) = .ok t) (count : Nat) {fuel : Nat}
    (hfuel : rest.length < fuel) (known lastBytes lastChars : Nat) :
    ∃ u, readStartFrom .strict count fuel before known lastBytes lastChars s = .ok u ∧
      u.take count = t.take count := by
  -- each chunk takes a byte, and so the fuel lasts
  induction fuel generalizing s before rest known lastBytes lastChars with
  | zero => cases hfuel
  | succ fuel ih =>
    unfold readStartFrom
    rcases hs.exists_read (request_pos (count - known) lastBytes lastChars) with
      ⟨rfl, next, hread⟩ | ⟨chunk, next, more, hne, rfl, hread, hnext⟩
    · rw [List.append_nil] at h
      refine ⟨t, ?_, rfl⟩
      rw [hread]
      exact h
    · rw [← List.append_assoc] at h
      obtain ⟨u, hu, hprefix⟩ := exists_decodeSettled h
      rw [hread]
      simp only [bind, Except.bind, if_neg hne, hu]
      split
      · rename_i hcount
        refine ⟨u, rfl, ?_⟩
        obtain ⟨other, rfl⟩ := hprefix
        rw [List.take_append_of_le_length hcount]
      · refine ih _ hnext h ?_ _ _ _
        have hpos : 0 < chunk.length := List.length_pos_iff.mpr hne
        rw [List.length_append] at hfuel
        omega

/-- The start of a file is the start of its text. -/
theorem readStart_eq_take {s : Stream} {bytes : Bytes} {t : Text} (hs : s.Delivers bytes)
    (h : decode .strict bytes = .ok t) (count : Nat) :
    readStart .strict count s = .ok (t.take count) := by
  have hfuel : bytes.length < s.size + 1 := Nat.lt_succ_of_le hs.length_le_size
  obtain ⟨u, hu, htake⟩ := exists_readStartFrom [] hs h count hfuel 0 0 0
  rw [readStart, hu, ← htake]
  rfl

/-! ## Whole files -/

theorem exists_delivers_of_readAllFrom {d : Decoding} {fuel : Nat} {before : Bytes} {s : Stream}
    {t : Text} (hfuel : s.size < fuel) (h : readAllFrom d fuel before s = .ok t) :
    ∃ bytes, s.Delivers bytes ∧ decode d (before ++ bytes) = .ok t := by
  have hchunk : 0 < chunkSize := by decide
  induction fuel generalizing before s with
  | zero => cases hfuel
  | succ fuel ih =>
    unfold readAllFrom at h
    obtain ⟨⟨chunk, next⟩, hread, h⟩ := exists_of_bind_eq_ok h
    simp only at h
    split at h
    · rename_i hnil
      refine ⟨[], (Stream.delivers_of_read hread hchunk).1 hnil, ?_⟩
      rw [List.append_nil]
      exact h
    · rename_i hne
      obtain ⟨_, _, h⟩ := exists_of_bind_eq_ok h
      have hpos : 0 < chunk.length := List.length_pos_iff.mpr hne
      have hsize := (Stream.delivers_of_read hread hchunk).2.2
      obtain ⟨bytes, hnext, hbytes⟩ := ih (by omega) h
      refine ⟨chunk ++ bytes, (Stream.delivers_of_read hread hchunk).2.1 hne bytes hnext, ?_⟩
      rw [← List.append_assoc]
      exact hbytes

/-- A file that can be read to its end delivers the bytes of its text. -/
theorem exists_delivers_of_readAll {d : Decoding} {s : Stream} {t : Text}
    (h : readAll d s = .ok t) : ∃ bytes, s.Delivers bytes ∧ decode d bytes = .ok t :=
  exists_delivers_of_readAllFrom (Nat.lt_succ_self _) h

/-- A text in UTF-8, with a byte order mark at its front or without, reads as itself with its line
ends normalized. -/
theorem decode_strict_encode (t : Text) :
    decode .strict (mark ++ Utf8.encode t) = .ok (normalizeNewlines t) ∧
      (t.head? ≠ some '\uFEFF' →
        decode .strict (Utf8.encode t) = .ok (normalizeNewlines t)) := by
  have hchars : (Utf8.segments (Utf8.encode t)).mapM Utf8.Segment.char? = some t :=
    Utf8.decode?_encode t
  have hmark : dropMark (mark ++ Utf8.encode t) = Utf8.encode t := by
    have hlong : ¬(mark ++ Utf8.encode t).length < 3 := by
      rw [List.length_append]
      exact Nat.not_lt.mpr (Nat.le_add_right 3 _)
    have hfront : mark.isPrefixOf (mark ++ Utf8.encode t) = true :=
      List.isPrefixOf_iff_prefix.mpr (List.prefix_append _ _)
    rw [dropMark, if_neg fun h => hlong h.1, if_pos hfront]
    rfl
  constructor
  · rw [decode, hmark, textOf, hchars]
    rfl
  · intro hhead
    rw [decode, dropMark_encode hhead, textOf, hchars]
    rfl

end TextFile

/-- The start of a cached file that can be read to its end. -/
theorem readCached_of_readAll {tree : FileTree} {base : Path} {path : Text} {compressed : Bool}
    {s : Stream} {t : Text} (hopen : TextFile.cached tree base path compressed = .ok s)
    (h : TextFile.readAll .strict s = .ok t) :
    readCached tree base path compressed = .ok (t.take tagsBudget) := by
  obtain ⟨bytes, hs, hbytes⟩ := TextFile.exists_delivers_of_readAll h
  rw [readCached, hopen]
  exact TextFile.readStart_eq_take hs hbytes tagsBudget

end HitListing
