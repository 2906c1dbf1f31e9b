import HitListing.Proofs.CrossReference

/-!
# Cross-references that are cut off

The start of a cross-reference that does not fit the budget.  A tag that is cut
off is dropped, and so nothing of it is shown.  A character whose markup is cut
off is not: what is left of its markup is shown, and is a beginning of the text
only where `CutChar.IsHarmless` says so (`readTags_cutReference`).
-/

namespace HitListing

namespace Markup

/-! ## The place of the cut -/

/-- A character whose markup is cut off, at its front or further on. -/
structure CutChar where
  char : Char
  /-- What is left of its markup. -/
  part : Text
  /-- The text behind it. -/
  behind : Text
deriving DecidableEq, Repr

/-- Whether what is left of the markup of a character shows a beginning of the text: nothing is
left, or only the semicolon is missing, or what is left is a number that shows nothing, or the text
itself goes on like that. -/
def CutChar.IsHarmless (c : CutChar) : Prop :=
  c.part = [] ∨ c.part ++ [';'] = escapeChar c.char ∨ c.part = "&#x2".toList ∨
    c.char = '&' ∧ c.part <+: '&' :: c.behind

instance (c : CutChar) : Decidable c.IsHarmless :=
  inferInstanceAs (Decidable (c.part = [] ∨ c.part ++ [';'] = escapeChar c.char ∨
    c.part = "&#x2".toList ∨ c.char = '&' ∧ c.part <+: '&' :: c.behind))

/-- The character at which the first `n` characters of an escaped text end. -/
def cutCharIn? : Nat → Text → Option CutChar
  | _, [] => none
  | n, c :: t =>
    if (escapeChar c).length ≤ n then cutCharIn? (n - (escapeChar c).length) t
    else some ⟨c, (escapeChar c).take n, t⟩

/-- The character at which the first `n` characters of a token end, unless it is a tag, with
`after` as the text behind the token. -/
def Token.cutChar? (n : Nat) (after : Text) : Token → Option CutChar
  | .text t => (cutCharIn? n t).map fun c => { c with behind := c.behind ++ after }
  | _ => none

namespace Document

/-- The tokens of a document that lie within its first `n` characters. -/
def within : Nat → Document → Document
  | _, [] => []
  | n, token :: d =>
    if token.write.length ≤ n then token :: within (n - token.write.length) d else []

/-- The character at which the first `n` characters of a document end, unless they end within a
tag. -/
def cutChar? : Nat → Document → Option CutChar
  | _, [] => none
  | n, token :: d =>
    if token.write.length ≤ n then cutChar? (n - token.write.length) d
    else token.cutChar? n (content d)

end Document

/-! ## Characters that are cut off -/

/-- The characters that are escaped. -/
def specialChars : List Char :=
  ['&', '<', '>', '"', '\'']

theorem escapeChar_of_not_mem {c : Char} (h : c ∉ specialChars) : escapeChar c = [c] := by
  simp only [specialChars, List.mem_cons, List.not_mem_nil, or_false, not_or] at h
  obtain ⟨hamp, hlt, hgt, hquote, hapostrophe⟩ := h
  rw [escapeChar, if_neg hamp, if_neg hlt, if_neg hgt, if_neg hquote, if_neg hapostrophe]

/-- Text without special characters takes as much room when it is escaped. -/
theorem length_escape_replicate {c : Char} (hc : c ∉ specialChars) (n : Nat) :
    (escape (List.replicate n c)).length = n := by
  induction n with
  | zero => rfl
  | succ n ih =>
    rw [List.replicate_succ, escape, List.flatMap_cons, escapeChar_of_not_mem hc,
      List.length_append]
    show 1 + (escape (List.replicate n c)).length = n + 1
    rw [ih, Nat.add_comm]

/-- What the beginning of the markup of a character shows. -/
def partMeaning (c : Char) (part : Text) : Text :=
  if part ≠ [] ∧ part ++ [';'] = escapeChar c then [c]
  else if part = "&#x2".toList then []
  else part

theorem unescape_part {c : Char} {k : Nat} (hk : k < (escapeChar c).length) :
    unescape ((escapeChar c).take k) = .ok (partMeaning c ((escapeChar c).take k)) := by
  have hspecial : (specialChars.all fun c => (List.range (escapeChar c).length).all fun k =>
      unescape ((escapeChar c).take k) = .ok (partMeaning c ((escapeChar c).take k))) = true := by
    decide +kernel
  by_cases hc : c ∈ specialChars
  · have hparts := List.all_eq_true.mp (List.all_eq_true.mp hspecial c hc)
    exact of_decide_eq_true (hparts k (List.mem_range.mpr hk))
  · rw [escapeChar_of_not_mem hc] at hk
    obtain rfl : k = 0 := Nat.lt_one_iff.mp hk
    rfl

/-- What is left of markup that is cut off further on begins with an ampersand. -/
theorem exists_take_escapeChar {c : Char} {k : Nat} (hk : k < (escapeChar c).length)
    (hne : (escapeChar c).take k ≠ []) : ∃ more, (escapeChar c).take k = '&' :: more := by
  have hspecial : (specialChars.all fun c => (escapeChar c).head? = some '&') = true := by
    decide +kernel
  by_cases hc : c ∈ specialChars
  · have hfirst := of_decide_eq_true (List.all_eq_true.mp hspecial c hc)
    obtain ⟨more, hmore⟩ := List.head?_eq_some_iff.mp hfirst
    cases k with
    | zero => exact absurd List.take_zero hne
    | succ k => exact ⟨more.take k, by rw [hmore, List.take_succ_cons]⟩
  · rw [escapeChar_of_not_mem hc] at hk hne
    obtain rfl : k = 0 := Nat.lt_one_iff.mp hk
    exact absurd rfl hne

/-- The beginning of the markup of a character shows a beginning of the text if it is harmless. -/
theorem partMeaning_prefix_iff {c : Char} {k : Nat} (hk : k < (escapeChar c).length)
    (behind : Text) :
    partMeaning c ((escapeChar c).take k) <+: c :: behind ↔
      CutChar.IsHarmless ⟨c, (escapeChar c).take k, behind⟩ := by
  have hfirst := exists_take_escapeChar hk
  generalize (escapeChar c).take k = part at hfirst ⊢
  unfold partMeaning CutChar.IsHarmless
  simp only
  by_cases hnil : part = []
  · rw [if_neg fun h => h.1 hnil, hnil, if_neg (by decide)]
    exact iff_of_true List.nil_prefix (Or.inl rfl)
  by_cases hsemicolon : part ++ [';'] = escapeChar c
  · rw [if_pos ⟨hnil, hsemicolon⟩]
    exact iff_of_true (List.prefix_append [c] behind) (Or.inr (Or.inl hsemicolon))
  by_cases hnumber : part = "&#x2".toList
  · rw [if_neg fun h => hsemicolon h.2, if_pos hnumber]
    exact iff_of_true List.nil_prefix (Or.inr (Or.inr (Or.inl hnumber)))
  obtain ⟨more, rfl⟩ := hfirst hnil
  rw [if_neg fun h => hsemicolon h.2, if_neg hnumber, or_iff_right hnil, or_iff_right hsemicolon,
    or_iff_right hnumber]
  constructor
  · intro h
    obtain rfl := (List.cons_prefix_cons.mp h).1
    exact ⟨rfl, h⟩
  · rintro ⟨rfl, h⟩
    exact h

/-- Escaped text that is cut off ends at one of its characters. -/
theorem exists_cutCharIn? {t : Text} {n : Nat} (h : n < (escape t).length) :
    ∃ front c k behind, t = front ++ c :: behind ∧ k < (escapeChar c).length ∧
      (escape t).take n = escape front ++ (escapeChar c).take k ∧
        cutCharIn? n t = some ⟨c, (escapeChar c).take k, behind⟩ := by
  induction t generalizing n with
  | nil => cases h
  | cons d t ih =>
    have hescape : escape (d :: t) = escapeChar d ++ escape t := List.flatMap_cons
    rw [hescape, List.length_append] at h
    rw [hescape, cutCharIn?]
    by_cases hlength : (escapeChar d).length ≤ n
    · obtain ⟨front, c, k, behind, rfl, hk, htake, hcut⟩ :=
        ih (n := n - (escapeChar d).length) (by omega)
      refine ⟨d :: front, c, k, behind, rfl, hk, ?_, ?_⟩
      · rw [List.take_append, List.take_of_length_le hlength, htake, ← List.append_assoc]
        rfl
      · rw [if_pos hlength, hcut]
    · have hlt : n < (escapeChar d).length := Nat.lt_of_not_le hlength
      refine ⟨[], d, n, t, rfl, hlt, ?_, if_neg hlength⟩
      rw [List.take_append_of_le_length (Nat.le_of_lt hlt)]
      rfl

/-- Escaped text that is cut off shows a beginning of what it stands for, with what follows it,
exactly if the character at its end is harmless. -/
theorem exists_strip_take_escape {t : Text} {n : Nat} (h : n < (escape t).length) (after : Text) :
    ∃ shown, strip ((escape t).take n) = .ok shown ∧
      (shown <+: t ++ after ↔ ∀ c ∈ (cutCharIn? n t).map fun c =>
        { c with behind := c.behind ++ after }, c.IsHarmless) := by
  obtain ⟨front, c, k, behind, rfl, hk, htake, hcut⟩ := exists_cutCharIn? h
  refine ⟨front ++ partMeaning c ((escapeChar c).take k), ?_, ?_⟩
  · have hrun : '<' ∉ (escape (front ++ c :: behind)).take n := fun hin =>
      (isClean_escape _ '<' (List.mem_of_mem_take hin)).2.1 rfl
    have hend : ∀ c ∈ ([] : Text).head?, c = '<' := nofun
    have hstrip := strip_run hrun hend
    rw [List.append_nil] at hstrip
    rw [hstrip, htake, unescape_escape_append, unescape_part hk]
    show Except.ok (front ++ partMeaning c ((escapeChar c).take k) ++ []) = _
    rw [List.append_nil]
  · rw [hcut, List.append_assoc, List.cons_append, List.prefix_append_right_inj,
      partMeaning_prefix_iff hk]
    simp

/-! ## Tags that are cut off -/

/-- A tag that is cut off is dropped. -/
theorem dropPartialTag_take {inner : Text} (hopen : '<' ∉ inner) (hend : '>' ∉ inner) {n : Nat}
    (hn : n < ('<' :: (inner ++ ['>'])).length) :
    dropPartialTag (('<' :: (inner ++ ['>'])).take n) = [] := by
  cases n with
  | zero => rfl
  | succ n =>
    have hn : n ≤ inner.length := by
      simp only [List.length_cons, List.length_append, List.length_nil] at hn
      omega
    rw [List.take_succ_cons, List.take_append_of_le_length hn]
    exact dropPartialTag_open (fun h => hopen (List.mem_of_mem_take h))
      (fun h => hend (List.mem_of_mem_take h)) []

theorem Attribute.IsXref.not_mem_write {a : Attribute} (h : a.IsXref) :
    '<' ∉ a.write ∧ '>' ∉ a.write := by
  have hname {c : Char} (hc : c.isAlpha = false ∧ c ≠ '-') : c ∉ a.name :=
    fun hin => (h.1.2 c hin).ne hc rfl
  have hopen : '<' ∉ a.value := fun hin => (h.2 '<' hin).2.1 rfl
  have hend : '>' ∉ a.value := fun hin => (h.2 '>' hin).2.2 rfl
  constructor
  · simp [write, quoted, hname, hopen]
  · simp [write, quoted, hname, hend]

/-- A token that is cut off shows a beginning of the text from it on, exactly if the character at
its end is harmless. -/
theorem Token.IsXref.exists_strip_take {token : Token} (h : token.IsXref) {n : Nat}
    (hn : n < token.write.length) (after : Text) :
    ∃ shown, strip (dropPartialTag (token.write.take n)) = .ok shown ∧
      (shown <+: token.content ++ after ↔ ∀ c ∈ token.cutChar? n after, c.IsHarmless) := by
  -- of a tag nothing is left that could show anything
  have htag {tag inner : Text} (heq : tag = '<' :: (inner ++ ['>'])) (hopen : '<' ∉ inner)
      (hend : '>' ∉ inner) (htoken : n < tag.length) :
      strip (dropPartialTag (tag.take n)) = .ok [] := by
    rw [heq] at htoken ⊢
    rw [dropPartialTag_take hopen hend htoken]
    rfl
  have hname {name : Text} (hname : IsLetters name) {c : Char} (hc : c.isAlpha = false) :
      c ∉ name := fun hin => ne_of_isAlpha (hname.2 c hin) hc rfl
  have hnone : ∀ c ∈ (none : Option CutChar), c.IsHarmless := by
    intro c hc
    cases hc
  cases token with
  | text t =>
    have hclosed : IsClosed ((escape t).take n) := isClosed_of_not_mem fun hin =>
      (isClean_escape t '<' (List.mem_of_mem_take hin)).2.1 rfl
    show ∃ shown, strip (dropPartialTag ((escape t).take n)) = .ok shown ∧ _
    rw [dropPartialTag_of_isClosed hclosed]
    exact exists_strip_take_escape hn after
  | opening name attributes =>
    have hattributes {c : Char} (hc : ∀ a ∈ attributes, c ∉ a.write) :
        c ∉ attributes.flatMap (·.write) := by
      intro hin
      obtain ⟨a, ha, hin⟩ := List.mem_flatMap.mp hin
      exact hc a ha hin
    have hwrite : openTag name attributes =
        '<' :: ((name ++ attributes.flatMap (·.write)) ++ ['>']) := by
      rw [openTag, List.append_assoc]
    refine ⟨[], htag hwrite ?_ ?_ hn, iff_of_true List.nil_prefix hnone⟩ <;>
      rw [List.mem_append, not_or]
    · exact ⟨hname h.1.1 (by decide), hattributes fun a ha => (h.2 a ha).not_mem_write.1⟩
    · exact ⟨hname h.1.1 (by decide), hattributes fun a ha => (h.2 a ha).not_mem_write.2⟩
  | closing name =>
    have hwrite : closeTag name = '<' :: (('/' :: name) ++ ['>']) := rfl
    refine ⟨[], htag hwrite ?_ ?_ hn, iff_of_true List.nil_prefix hnone⟩ <;>
      rw [List.mem_cons, not_or]
    · exact ⟨by decide, hname h (by decide)⟩
    · exact ⟨by decide, hname h (by decide)⟩
  | single name => exact h.elim
  | anchor link number => exact h.elim

/-! ## Documents that are cut off -/

namespace Document

/-- The start of a cross-reference shows what its whole tokens show, and then a beginning of the
text that follows, exactly if the character at its end is harmless. -/
theorem IsXref.exists_strip_take {d : Document} (hd : d.IsXref) (n : Nat) :
    ∃ shown rest, strip (dropPartialTag (d.write.take n)) =
        ((within n d).shown >>= fun first => .ok (first ++ shown)) ∧
      d.content = (within n d).content ++ rest ∧
        (shown <+: rest ↔ ∀ c ∈ cutChar? n d, c.IsHarmless) := by
  induction d generalizing n with
  | nil =>
    refine ⟨[], [], ?_, rfl, iff_of_true List.nil_prefix nofun⟩
    rw [write, List.flatMap_nil, List.take_nil]
    rfl
  | cons token d ih =>
    obtain ⟨htoken, hrest⟩ := List.forall_mem_cons.mp hd
    have hwrite : write (token :: d) = token.write ++ write d := List.flatMap_cons
    rw [hwrite, within, cutChar?]
    by_cases hlength : token.write.length ≤ n
    · obtain ⟨shown, rest, hstrip, hcontent, hshown⟩ := ih hrest (n - token.write.length)
      rw [if_pos hlength, if_pos hlength]
      refine ⟨shown, rest, ?_, ?_, hshown⟩
      · rw [List.take_append, List.take_of_length_le hlength,
          dropPartialTag_append htoken.isClosed_write, token.strip_write htoken.isPlain, hstrip,
          shown_cons]
        cases token.shown with
        | error f => rfl
        | ok first =>
          cases Document.shown (within (n - token.write.length) d) with
          | error f => rfl
          | ok second =>
            show Except.ok (first ++ (second ++ shown)) = Except.ok (first ++ second ++ shown)
            rw [List.append_assoc]
      · rw [content, List.flatMap_cons, content, List.flatMap_cons, List.append_assoc]
        exact congrArg _ hcontent
    · have hlt : n < token.write.length := Nat.lt_of_not_le hlength
      obtain ⟨shown, hstrip, hshown⟩ := htoken.exists_strip_take hlt (content d)
      rw [if_neg hlength, if_neg hlength, List.take_append_of_le_length (Nat.le_of_lt hlt)]
      refine ⟨shown, token.content ++ content d, ?_, rfl, hshown⟩
      rw [hstrip]
      rfl

theorem IsXref.within {d : Document} (hd : d.IsXref) (n : Nat) : (within n d).IsXref := by
  induction d generalizing n with
  | nil => exact nofun
  | cons token d ih =>
    obtain ⟨htoken, hrest⟩ := List.forall_mem_cons.mp hd
    unfold Document.within
    split
    · exact List.forall_mem_cons.mpr ⟨htoken, ih hrest _⟩
    · exact nofun

/-- The start of a cross-reference shows a beginning of its text exactly if the values in its
whole tags can be read and the character at its end is harmless. -/
theorem IsXref.exists_prefix_iff {d : Document} (hd : d.IsXref) (n : Nat) :
    (∃ t, strip (dropPartialTag (d.write.take n)) = .ok t ∧ t <+: d.content) ↔
      (∀ value ∈ (Document.within n d).values, ¬HasLongReference value) ∧
        ∀ c ∈ cutChar? n d, c.IsHarmless := by
  obtain ⟨shown, rest, hstrip, hcontent, hshown⟩ := hd.exists_strip_take n
  rw [hstrip, hcontent, ← hshown]
  constructor
  · rintro ⟨t, ht, hprefix⟩
    obtain ⟨first, hfirst, ht⟩ := exists_of_bind_eq_ok ht
    obtain ⟨rfl, hvalues⟩ := (hd.within n).shown_eq_ok_iff.mp hfirst
    cases ht
    exact ⟨hvalues, (List.prefix_append_right_inj _).mp hprefix⟩
  · rintro ⟨hvalues, hprefix⟩
    rw [(hd.within n).shown_eq_ok_iff.mpr ⟨rfl, hvalues⟩]
    exact ⟨_, rfl, (List.prefix_append_right_inj _).mpr hprefix⟩

end Document

end Markup

/-! ## Files -/

open Markup

/-- The start of a file that holds a cross-reference shows a beginning of its text exactly if the
values in its whole tags can be read and the character at its end is harmless. -/
theorem HoldsText.exists_prefix_iff {tree : FileTree} {base : Path} {path : Text}
    {compressed : Bool} {d : Document} (hfile : HoldsText tree base path compressed d.write)
    (hd : d.IsXref) :
    (∃ t, (readTags tree base path compressed).result = .ok t ∧ t <+: d.content) ↔
      (∀ value ∈ (d.normalized.within tagsBudget).values, ¬HasLongReference value) ∧
        ∀ c ∈ d.normalized.cutChar? tagsBudget, c.IsHarmless := by
  rw [hfile.readTags_eq hd, ← d.content_normalized]
  exact hd.normalized.exists_prefix_iff tagsBudget

/-- Wherever the budget falls in a cross-reference, the text of its file is a beginning of the text
of the cross-reference exactly if the values in the tags before that place can be read and a
character that is cut off there is harmless; nothing is noted. -/
theorem readTags_cutReference {tree : FileTree} {base : Path} {path : Text} {compressed : Bool}
    {d : Document} (hd : d.IsXref) (hfile : HoldsText tree base path compressed d.write) :
    (readTags tree base path compressed).log = [] ∧
      ((∃ t, (readTags tree base path compressed).result = .ok t ∧ t <+: d.content) ↔
        (∀ value ∈ (d.normalized.within tagsBudget).values, ¬HasLongReference value) ∧
          ∀ c ∈ d.normalized.cutChar? tagsBudget, c.IsHarmless) := by
  refine ⟨?_, hfile.exists_prefix_iff hd⟩
  rw [hfile.readTags_eq hd]

/-- A long word, then an ampersand within whose markup the budget falls, and another letter. -/
def cutAmpersand : Document :=
  [.text (List.replicate 8190 'x'), .text "&y"]

/-- A file that holds it. -/
def cutAmpersandFile : File :=
  ⟨["data".toList, "xref".toList, "a.c".toList], Utf8.encode cutAmpersand.write, 0⟩

/-- The cache with that file. -/
def cutAmpersandTree : FileTree :=
  .ofFiles [cutAmpersandFile]

theorem isXref_cutAmpersand : cutAmpersand.IsXref := by
  refine List.forall_mem_cons.mpr ⟨?_, by decide⟩
  intro hin
  exact absurd (List.eq_of_mem_replicate hin) (by decide)

theorem holdsText_cutAmpersand :
    HoldsText cutAmpersandTree (.ofText "data/xref") "a.c" false cutAmpersand.write := by
  have hhead : cutAmpersand.write.head? = some 'x' := rfl
  have hread : cutAmpersandTree.readBytes (TextFile.cachedPath (.ofText "data/xref") "a.c" false) =
      .ok cutAmpersandFile.content := by
    refine FileTree.readBytes_of_follow ?_ ?_ rfl ?_ rfl
    · decide +kernel
    · decide +kernel
    · decide +kernel
  refine ⟨_, _, hread, rfl, Or.inr ⟨?_, rfl⟩⟩
  rw [hhead]
  decide

/-- The case of a budget that falls within the markup of an ampersand. -/
theorem readTags_cutReference_ampersand :
    cutAmpersand.IsXref ∧
      HoldsText cutAmpersandTree (.ofText "data/xref") "a.c" false cutAmpersand.write ∧
      ((∃ t, (readTags cutAmpersandTree (.ofText "data/xref") "a.c" false).result = .ok t ∧
          t <+: cutAmpersand.content) ↔
        (∀ value ∈ (cutAmpersand.normalized.within tagsBudget).values, ¬HasLongReference value) ∧
          ∀ c ∈ cutAmpersand.normalized.cutChar? tagsBudget, c.IsHarmless) :=
  ⟨isXref_cutAmpersand, holdsText_cutAmpersand,
    (readTags_cutReference isXref_cutAmpersand holdsText_cutAmpersand).2⟩

/-- What is left of the markup of an ampersand may be shown. -/
theorem not_readTags_cutAmpersand :
    cutAmpersand.IsXref ∧ tagsBudget < cutAmpersand.write.length ∧
      HoldsText cutAmpersandTree (.ofText "data/xref") "a.c" false cutAmpersand.write ∧
      ¬∃ t, (readTags cutAmpersandTree (.ofText "data/xref") "a.c" false).result = .ok t ∧
        t <+: cutAmpersand.content := by
  have hword : (Token.text (List.replicate 8190 'x')).write.length = 8190 :=
    length_escape_replicate (by decide) 8190
  have hlength : tagsBudget < cutAmpersand.write.length := by
    rw [cutAmpersand, Document.write, List.flatMap_cons, List.length_append, hword]
    decide
  have hcut : cutAmpersand.normalized.cutChar? tagsBudget =
      some ⟨'&', "&a".toList, "y".toList⟩ := by
    show Document.cutChar? tagsBudget cutAmpersand = _
    rw [cutAmpersand, Document.cutChar?, hword]
    decide
  refine ⟨isXref_cutAmpersand, hlength, holdsText_cutAmpersand, ?_⟩
  rw [holdsText_cutAmpersand.exists_prefix_iff isXref_cutAmpersand, hcut]
  intro h
  exact absurd (h.2 _ rfl) (by decide)

end HitListing
