import HitListing.Proofs.FileStart
import HitListing.Proofs.SafeDocuments

/-!
# The text of a cross-reference

A cross-reference is a document of escaped texts and of tags.  A file that holds
all of one within the budget gives its text back, unless the value of a tag
cannot be read (`readTags_crossReference`): values are not shown, but their
references are replaced all the same.
-/

namespace HitListing

/-! ## Tags that are cut off -/

/-- Whether each tag that a text begins is ended by a bracket behind it. -/
def IsClosed (t : Text) : Prop :=
  ∀ before behind, t = before ++ '<' :: behind → '>' ∈ behind

theorem isClosed_of_not_mem {t : Text} (h : '<' ∉ t) : IsClosed t := by
  rintro before behind rfl
  exact absurd (List.mem_append_right before List.mem_cons_self) h

/-- A text that ends with a bracket ends all of its tags. -/
theorem isClosed_concat (t : Text) : IsClosed (t ++ ['>']) := by
  intro before behind heq
  rcases List.eq_nil_or_concat behind with rfl | ⟨front, last, rfl⟩
  · have hlast := (List.append_inj' heq rfl).2
    cases hlast
  · have hsplit : t ++ ['>'] = (before ++ '<' :: front) ++ [last] := by
      rw [heq]
      simp
    have hlast := (List.append_inj' hsplit rfl).2
    rw [List.concat_eq_append, ← hlast]
    exact List.mem_append_right front List.mem_cons_self

theorem isClosed_append {a b : Text} (ha : IsClosed a) (hb : IsClosed b) : IsClosed (a ++ b) := by
  intro before behind heq
  rcases List.append_eq_append_iff.mp heq with ⟨more, rfl, hb'⟩ | ⟨more, rfl, hmore⟩
  · exact hb more behind hb'
  · cases more with
    | nil => exact hb [] behind hmore.symm
    | cons c more =>
      injection hmore with hc hmore
      rw [hmore]
      exact List.mem_append_left b (ha before more (by rw [hc]))

/-- A text ends all of its tags, or it has a last one that it does not end. -/
theorem isClosed_or_exists_open (t : Text) :
    IsClosed t ∨ ∃ before behind, t = before ++ '<' :: behind ∧ '<' ∉ behind ∧ '>' ∉ behind := by
  by_cases hopen : '<' ∈ t
  · obtain ⟨before, behind, rfl, hlast⟩ := Text.exists_last_of_mem hopen
    by_cases hend : '>' ∈ behind
    · left
      intro front more heq
      rcases List.append_eq_append_iff.mp heq with ⟨between, _, hmore⟩ | ⟨between, _, hmore⟩
      · cases between with
        | nil =>
          injection hmore with _ hmore
          exact hmore ▸ hend
        | cons c between =>
          injection hmore with _ hmore
          refine absurd ?_ hlast
          rw [hmore]
          exact List.mem_append_right between List.mem_cons_self
      · cases between with
        | nil =>
          injection hmore with _ hmore
          exact hmore ▸ hend
        | cons c between =>
          injection hmore with _ hmore
          rw [hmore]
          exact List.mem_append_right between (List.mem_cons_of_mem _ hend)
    · exact Or.inr ⟨before, behind, rfl, hlast, hend⟩
  · exact Or.inl (isClosed_of_not_mem hopen)

theorem dropPartialTag_of_isClosed {t : Text} (h : IsClosed t) : dropPartialTag t = t := by
  by_cases hopen : '<' ∈ t
  · obtain ⟨before, behind, rfl, hlast⟩ := Text.exists_last_of_mem hopen
    rw [dropPartialTag, Text.cutAtLast?_append_cons hlast]
    exact if_pos (List.contains_iff_mem.mpr (h before behind rfl))
  · rw [dropPartialTag, Text.cutAtLast?_eq_none hopen]

/-- A tag at the end that is not ended is dropped. -/
theorem dropPartialTag_open {behind : Text} (hopen : '<' ∉ behind) (hend : '>' ∉ behind)
    (before : Text) : dropPartialTag (before ++ '<' :: behind) = before := by
  rw [dropPartialTag, Text.cutAtLast?_append_cons hopen]
  exact if_neg fun h => hend (List.contains_iff_mem.mp h)

/-- What is dropped at the end does not depend on tags that are ended before it. -/
theorem dropPartialTag_append {a : Text} (ha : IsClosed a) (t : Text) :
    dropPartialTag (a ++ t) = a ++ dropPartialTag t := by
  rcases isClosed_or_exists_open t with ht | ⟨before, behind, rfl, hopen, hend⟩
  · rw [dropPartialTag_of_isClosed (isClosed_append ha ht), dropPartialTag_of_isClosed ht]
  · rw [← List.append_assoc, dropPartialTag_open hopen hend, dropPartialTag_open hopen hend]

/-! ## Line ends -/

/-- A character that is no line feed stays as it is. -/
theorem exists_of_normalizeNewlines_eq_cons {t u : Text} {c : Char} (hc : c ≠ '\n')
    (h : normalizeNewlines t = c :: u) : ∃ rest, t = c :: rest ∧ u = normalizeNewlines rest := by
  fun_cases normalizeNewlines t with
  | case1 => cases h
  | case2 rest =>
    injection h with hfeed _
    exact absurd hfeed.symm hc
  | case3 d rest hpair =>
    rw [normalizeNewlines.eq_3 d rest fun more hd => hpair more hd] at h
    injection h with hd hu
    split at hd
    · exact absurd hd.symm hc
    · exact ⟨rest, by rw [hd], hu.symm⟩

theorem takeWhile_isDigit_normalizeNewlines (t : Text) :
    (normalizeNewlines t).takeWhile Char.isDigit = t.takeWhile Char.isDigit := by
  have hfeed : Char.isDigit '\n' = false := by decide
  have hreturn : Char.isDigit '\r' = false := by decide
  fun_induction normalizeNewlines t with
  | case1 => rfl
  | case2 rest ih =>
    rw [List.takeWhile_cons_of_neg (by simp [hfeed]),
      List.takeWhile_cons_of_neg (by simp [hreturn])]
  | case3 c rest _ ih =>
    by_cases hc : c = '\r'
    · rw [if_pos hc, hc, List.takeWhile_cons_of_neg (by simp [hfeed]),
        List.takeWhile_cons_of_neg (by simp [hreturn])]
    · rw [if_neg hc, List.takeWhile_cons, List.takeWhile_cons, ih]

/-- No character is new in a text with its line ends normalized, apart from line feeds. -/
theorem mem_of_mem_normalizeNewlines {t : Text} {c : Char} (h : c ∈ normalizeNewlines t) :
    c ∈ t ∨ c = '\n' := by
  fun_induction normalizeNewlines t with
  | case1 => exact Or.inl h
  | case2 rest ih =>
    rcases List.mem_cons.mp h with rfl | h
    · exact Or.inr rfl
    · rcases ih h with h | h
      · exact Or.inl (List.mem_cons_of_mem _ (List.mem_cons_of_mem _ h))
      · exact Or.inr h
  | case3 d rest _ ih =>
    rcases List.mem_cons.mp h with rfl | h
    · split
      · exact Or.inr rfl
      · exact Or.inl List.mem_cons_self
    · rcases ih h with h | h
      · exact Or.inl (List.mem_cons_of_mem _ h)
      · exact Or.inr h

namespace Markup

theorem startsLongReference_normalizeNewlines (t : Text) :
    StartsLongReference (normalizeNewlines t) ↔ StartsLongReference t := by
  constructor
  · intro h
    have hlong := h
    obtain ⟨digits, after, heq, _⟩ := h
    obtain ⟨rest, rfl, hhash⟩ := exists_of_normalizeNewlines_eq_cons (by decide) heq
    obtain ⟨rest, rfl, hrest⟩ := exists_of_normalizeNewlines_eq_cons (by decide) hhash.symm
    rw [heq, hrest, startsLongReference_hash, takeWhile_isDigit_normalizeNewlines] at hlong
    rwa [startsLongReference_hash]
  · intro h
    have hlong := h
    obtain ⟨digits, after, rfl, _⟩ := h
    rw [startsLongReference_hash] at hlong
    rwa [normalizeNewlines_cons (by decide), normalizeNewlines_cons (by decide),
      startsLongReference_hash, takeWhile_isDigit_normalizeNewlines]

/-- Normalizing line ends makes no reference longer or shorter. -/
theorem hasLongReference_normalizeNewlines (t : Text) :
    HasLongReference (normalizeNewlines t) ↔ HasLongReference t := by
  fun_induction normalizeNewlines t with
  | case1 => rfl
  | case2 rest ih =>
    rw [hasLongReference_cons, or_iff_right (not_startsLongReference_cons (by decide) _), ih,
      hasLongReference_cons, or_iff_right (not_startsLongReference_cons (by decide) _),
      hasLongReference_cons, or_iff_right (not_startsLongReference_cons (by decide) _)]
  | case3 c rest hpair ih =>
    have hstart := startsLongReference_normalizeNewlines (c :: rest)
    rw [normalizeNewlines.eq_3 c rest fun more hc => hpair more hc] at hstart
    rw [hasLongReference_cons, hasLongReference_cons, hstart, ih]

/-! ## Cross-references -/

namespace Attribute

/-- An attribute with the line ends of its value normalized. -/
def normalized (a : Attribute) : Attribute :=
  ⟨a.name, normalizeNewlines a.value⟩

/-- Whether an attribute may stand in a cross-reference. -/
def IsXref (a : Attribute) : Prop :=
  IsKey a.name ∧ IsClean a.value

instance (a : Attribute) : Decidable a.IsXref :=
  inferInstanceAs (Decidable (IsKey a.name ∧ IsClean a.value))

end Attribute

namespace Token

/-- Whether a token may stand in a cross-reference. -/
def IsXref : Token → Prop
  | text t => '\r' ∉ t
  | opening name attributes => IsElement name ∧ ∀ a ∈ attributes, a.IsXref
  | closing name => IsLetters name
  | single _ => False
  | anchor _ _ => False

instance : DecidablePred IsXref
  | text t => inferInstanceAs (Decidable ('\r' ∉ t))
  | opening name attributes =>
    inferInstanceAs (Decidable (IsElement name ∧ ∀ a ∈ attributes, a.IsXref))
  | closing name => inferInstanceAs (Decidable (IsLetters name))
  | single _ => .isFalse id
  | anchor _ _ => .isFalse id

/-- The text that a token of a cross-reference stands for. -/
def content : Token → Text
  | text t => t
  | _ => []

/-- A token as it is read from a file. -/
def normalized : Token → Token
  | opening name attributes => opening name (attributes.map (·.normalized))
  | token => token

end Token

namespace Document

/-- Whether a document is a cross-reference. -/
def IsXref (d : Document) : Prop :=
  ∀ token ∈ d, token.IsXref

instance (d : Document) : Decidable d.IsXref :=
  inferInstanceAs (Decidable (∀ token ∈ d, token.IsXref))

/-- The text of a cross-reference: that of its texts, one after another. -/
def content (d : Document) : Text :=
  d.flatMap (·.content)

/-- A document as it is read from a file. -/
def normalized (d : Document) : Document :=
  d.map (·.normalized)

end Document

/-! ## How a cross-reference is read from a file -/

theorem not_mem_escape_return {t : Text} (h : '\r' ∉ t) : '\r' ∉ escape t := by
  intro hin
  obtain ⟨c, hc, hin⟩ := List.mem_flatMap.mp hin
  have hreturn : c ≠ '\r' := by
    rintro rfl
    exact h hc
  unfold escapeChar at hin
  split_ifs at hin <;> revert hin
  case neg => exact fun hin => hreturn (List.mem_singleton.mp hin).symm
  all_goals decide

theorem not_mem_of_isKey {name : Text} (h : IsKey name) : '\r' ∉ name :=
  fun hin => (h.2 '\r' hin).ne (by decide) rfl

theorem not_mem_of_isLetters {name : Text} (h : IsLetters name) : '\r' ∉ name :=
  fun hin => ne_of_isAlpha (h.2 '\r' hin) (by decide) rfl

namespace Attribute

variable {a : Attribute}

theorem IsXref.isPlain (h : a.IsXref) : a.IsPlain :=
  ⟨h.1, fun hquote => (h.2 '"' hquote).1 rfl⟩

theorem IsXref.normalized (h : a.IsXref) : a.normalized.IsXref := by
  refine ⟨h.1, fun c hc => ?_⟩
  rcases mem_of_mem_normalizeNewlines hc with hc | rfl
  · exact h.2 c hc
  · decide

theorem IsXref.normalizeNewlines_write (h : a.IsXref) (rest : Text) :
    normalizeNewlines (a.write ++ rest) = a.normalized.write ++ normalizeNewlines rest := by
  have hwrite (b : Attribute) (rest : Text) :
      b.write ++ rest = (' ' :: (b.name ++ ['=', '"'])) ++ (b.value ++ ('"' :: rest)) := by
    simp [write, quoted]
  have hfront : '\r' ∉ ' ' :: (a.name ++ ['=', '"']) := by
    simp [not_mem_of_isKey h.1]
  have hquote : ('"' :: rest).head? ≠ some '\n' := by
    simp
  rw [hwrite, normalizeNewlines_append_of_not_mem hfront,
    normalizeNewlines_append fun _ => hquote, normalizeNewlines_cons (by decide), hwrite]
  rfl

theorem normalizeNewlines_flatMap_write {attributes : List Attribute}
    (h : ∀ a ∈ attributes, a.IsXref) (rest : Text) :
    normalizeNewlines (attributes.flatMap (·.write) ++ rest) =
      (attributes.map (·.normalized)).flatMap (·.write) ++ normalizeNewlines rest := by
  induction attributes with
  | nil => rfl
  | cons a attributes ih =>
    obtain ⟨ha, hrest⟩ := List.forall_mem_cons.mp h
    rw [List.flatMap_cons, List.append_assoc, ha.normalizeNewlines_write, ih hrest, List.map_cons,
      List.flatMap_cons, List.append_assoc]

end Attribute

namespace Token

variable {token : Token}

theorem IsXref.isPlain (h : token.IsXref) : token.IsPlain := by
  cases token with
  | text t => trivial
  | opening name attributes => exact ⟨h.1, fun a ha => (h.2 a ha).isPlain⟩
  | closing name => exact fun hin => ne_of_isAlpha (h.2 '>' hin) (by decide) rfl
  | single name => exact h.elim
  | anchor link number => exact h.elim

theorem IsXref.normalized (h : token.IsXref) : token.normalized.IsXref := by
  cases token with
  | text t => exact h
  | opening name attributes =>
    refine ⟨h.1, fun a ha => ?_⟩
    obtain ⟨b, hb, rfl⟩ := List.mem_map.mp ha
    exact (h.2 b hb).normalized
  | closing name => exact h
  | single name => exact h
  | anchor link number => exact h

/-- Only the values of a token change when its line ends are normalized. -/
theorem IsXref.normalizeNewlines_write (h : token.IsXref) (rest : Text) :
    normalizeNewlines (token.write ++ rest) = token.normalized.write ++ normalizeNewlines rest := by
  cases token with
  | text t => exact normalizeNewlines_append_of_not_mem (not_mem_escape_return h) rest
  | opening name attributes =>
    have hwrite (attributes : List Attribute) (rest : Text) :
        openTag name attributes ++ rest =
          ('<' :: name) ++ (attributes.flatMap (·.write) ++ ('>' :: rest)) := by
      simp [openTag]
    have hfront : '\r' ∉ '<' :: name := by
      simp [not_mem_of_isLetters h.1.1]
    show normalizeNewlines (openTag name attributes ++ rest) =
      openTag name (attributes.map (·.normalized)) ++ normalizeNewlines rest
    rw [hwrite, normalizeNewlines_append_of_not_mem hfront,
      Attribute.normalizeNewlines_flatMap_write h.2, normalizeNewlines_cons (by decide), hwrite]
  | closing name =>
    have hname : '\r' ∉ name := not_mem_of_isLetters h
    refine normalizeNewlines_append_of_not_mem ?_ rest
    simp [write, closeTag, hname]
  | single name => exact h.elim
  | anchor link number => exact h.elim

/-- Each tag that a token begins it also ends. -/
theorem IsXref.isClosed_write (h : token.IsXref) : IsClosed token.write := by
  cases token with
  | text t => exact isClosed_of_not_mem fun hin => (isClean_escape t '<' hin).2.1 rfl
  | opening name attributes =>
    have h := isClosed_concat ('<' :: (name ++ attributes.flatMap (·.write)))
    rwa [List.cons_append, List.append_assoc] at h
  | closing name => exact isClosed_concat ('<' :: '/' :: name)
  | single name => exact h.elim
  | anchor link number => exact h.elim

/-- A token shows its text, if its values can be read. -/
theorem IsXref.shown_eq_ok_iff (h : token.IsXref) {t : Text} :
    token.shown = .ok t ↔
      t = token.content ∧ ∀ value ∈ token.values, ¬HasLongReference value := by
  have hnone : (∀ value ∈ ([] : List Text), ¬HasLongReference value) := nofun
  cases token with
  | text u => exact ⟨fun h => ⟨(Except.ok.inj h).symm, hnone⟩, fun h => congrArg _ h.1.symm⟩
  | closing name => exact ⟨fun h => ⟨(Except.ok.inj h).symm, hnone⟩, fun h => congrArg _ h.1.symm⟩
  | single name => exact h.elim
  | anchor link number => exact h.elim
  | opening name attributes =>
    have hvalues : Succeeds (attributes.mapM fun a => unescape a.quoted) ↔
        ∀ value ∈ attributes.map (·.value), ¬HasLongReference value := by
      rw [succeeds_mapM_iff, List.forall_mem_map]
      refine forall₂_congr fun a _ => ?_
      rw [succeeds_unescape_iff, a.hasLongReference_quoted]
    show (attributes.mapM fun a => unescape a.quoted) >>= (fun _ => .ok []) = .ok t ↔
      t = [] ∧ ∀ value ∈ attributes.map (·.value), ¬HasLongReference value
    rw [← hvalues]
    constructor
    · intro h
      obtain ⟨found, hfound, h⟩ := exists_of_bind_eq_ok h
      exact ⟨(Except.ok.inj h).symm, found, hfound⟩
    · rintro ⟨rfl, found, hfound⟩
      rw [hfound]
      rfl

end Token

namespace Document

variable {d : Document}

theorem IsXref.isPlain (h : d.IsXref) : ∀ token ∈ d, token.IsPlain :=
  fun token htoken => (h token htoken).isPlain

theorem IsXref.normalized (h : d.IsXref) : d.normalized.IsXref := by
  intro token htoken
  obtain ⟨other, hother, rfl⟩ := List.mem_map.mp htoken
  exact (h other hother).normalized

/-- What is read from the file of a cross-reference is one again. -/
theorem IsXref.normalizeNewlines_write (h : d.IsXref) :
    normalizeNewlines d.write = d.normalized.write := by
  induction d with
  | nil => rfl
  | cons token d ih =>
    obtain ⟨htoken, hrest⟩ := List.forall_mem_cons.mp h
    rw [write, List.flatMap_cons, htoken.normalizeNewlines_write]
    exact congrArg _ (ih hrest)

theorem content_normalized (d : Document) : d.normalized.content = d.content := by
  have htoken (token : Token) : token.normalized.content = token.content := by
    cases token <;> rfl
  rw [content, normalized, List.flatMap_map]
  simp only [htoken]
  rfl

/-- The line ends of values do not matter for whether they can be read. -/
theorem forall_values_normalized (d : Document) :
    (∀ value ∈ d.normalized.values, ¬HasLongReference value) ↔
      ∀ value ∈ d.values, ¬HasLongReference value := by
  have htoken (token : Token) : (∀ value ∈ token.normalized.values, ¬HasLongReference value) ↔
      ∀ value ∈ token.values, ¬HasLongReference value := by
    cases token with
    | opening name attributes =>
      show (∀ value ∈ (attributes.map (·.normalized)).map (·.value), ¬HasLongReference value) ↔
        ∀ value ∈ attributes.map (·.value), ¬HasLongReference value
      simp only [List.forall_mem_map]
      exact forall₂_congr fun a _ => not_congr (hasLongReference_normalizeNewlines a.value)
    | _ => rfl
  rw [values, values, normalized, List.flatMap_map]
  simp only [List.forall_mem_flatMap]
  exact forall₂_congr fun token _ => htoken token

theorem IsXref.isClosed_write (h : d.IsXref) : IsClosed d.write := by
  induction d with
  | nil => exact isClosed_of_not_mem (by simp [write])
  | cons token d ih =>
    obtain ⟨htoken, hrest⟩ := List.forall_mem_cons.mp h
    exact isClosed_append htoken.isClosed_write (ih hrest)

/-- A cross-reference shows its text, if its values can be read. -/
theorem IsXref.shown_eq_ok_iff (h : d.IsXref) {t : Text} :
    d.shown = .ok t ↔ t = d.content ∧ ∀ value ∈ d.values, ¬HasLongReference value := by
  induction d generalizing t with
  | nil =>
    constructor
    · intro h
      exact ⟨(Except.ok.inj h).symm, nofun⟩
    · rintro ⟨rfl, _⟩
      rfl
  | cons token d ih =>
    obtain ⟨htoken, hrest⟩ := List.forall_mem_cons.mp h
    rw [shown_cons, values, List.flatMap_cons, List.forall_mem_append]
    constructor
    · intro h
      obtain ⟨first, hfirst, h⟩ := exists_of_bind_eq_ok h
      obtain ⟨rest, hshown, h⟩ := exists_of_bind_eq_ok h
      obtain ⟨rfl, hvalues⟩ := htoken.shown_eq_ok_iff.mp hfirst
      obtain ⟨rfl, hothers⟩ := (ih hrest).mp hshown
      exact ⟨(Except.ok.inj h).symm, hvalues, hothers⟩
    · rintro ⟨rfl, hvalues, hothers⟩
      rw [htoken.shown_eq_ok_iff.mpr ⟨rfl, hvalues⟩, (ih hrest).mpr ⟨rfl, hothers⟩]
      rfl

end Document

end Markup

/-! ## Files -/

/-- Whether the file at a cached path holds a text in UTF-8, with a byte order mark at its front or
without, packed or not. -/
def HoldsText (tree : FileTree) (base : Path) (path : Text) (compressed : Bool) (t : Text) : Prop :=
  ∃ stored bytes, tree.readBytes (TextFile.cachedPath base path compressed) = .ok stored ∧
    (if compressed then (Gzip.stream stored).Delivers bytes else stored = bytes) ∧
      (bytes = TextFile.mark ++ Utf8.encode t ∨
        t.head? ≠ some '\uFEFF' ∧ bytes = Utf8.encode t)

/-- The start of a file that holds a text. -/
theorem HoldsText.readCached_eq {tree : FileTree} {base : Path} {path : Text} {compressed : Bool}
    {t : Text} (h : HoldsText tree base path compressed t) :
    readCached tree base path compressed = .ok ((normalizeNewlines t).take tagsBudget) := by
  obtain ⟨stored, bytes, hread, hpacked, hbytes⟩ := h
  have hdecode : TextFile.decode .strict bytes = .ok (normalizeNewlines t) := by
    rcases hbytes with rfl | ⟨hhead, rfl⟩
    · exact (TextFile.decode_strict_encode t).1
    · exact (TextFile.decode_strict_encode t).2 hhead
  have hopen : TextFile.cached tree base path compressed =
      .ok (if compressed then Gzip.stream stored else .ofBytes stored) := by
    rw [TextFile.cached, hread]
    rfl
  have hdelivers :
      (if compressed then Gzip.stream stored else Stream.ofBytes stored).Delivers bytes := by
    cases compressed with
    | true => exact hpacked
    | false =>
      obtain rfl : stored = bytes := hpacked
      exact Stream.delivers_ofBytes stored
  rw [readCached, hopen]
  exact TextFile.readStart_eq_take hdelivers hdecode tagsBudget

open Markup

/-- Reading a file that holds a cross-reference only strips the start of it. -/
theorem HoldsText.readTags_eq {tree : FileTree} {base : Path} {path : Text} {compressed : Bool}
    {d : Document} (hfile : HoldsText tree base path compressed d.write) (hd : d.IsXref) :
    readTags tree base path compressed =
      ⟨[], [], strip (dropPartialTag (d.normalized.write.take tagsBudget))⟩ := by
  rw [readTags, hfile.readCached_eq, hd.normalizeNewlines_write]
  rfl

/-- A cross-reference within the budget is stripped as a whole. -/
theorem Markup.Document.IsXref.strip_take {d : Document} (hd : d.IsXref)
    (hlength : d.write.length ≤ tagsBudget) :
    strip (dropPartialTag (d.normalized.write.take tagsBudget)) = d.normalized.shown := by
  have hwhole : d.normalized.write.length ≤ tagsBudget := by
    rw [← hd.normalizeNewlines_write]
    exact Nat.le_trans (length_normalizeNewlines_le _) hlength
  rw [List.take_of_length_le hwhole, dropPartialTag_of_isClosed hd.normalized.isClosed_write,
    Document.strip_write hd.normalized.isPlain]

/-- The text of a file that holds a cross-reference within the budget is that of the
cross-reference, exactly if the values in it can be read, and nothing is noted. -/
theorem readTags_crossReference {tree : FileTree} {base : Path} {path : Text} {compressed : Bool}
    {d : Document} (hd : d.IsXref) (hlength : d.write.length ≤ tagsBudget)
    (hfile : HoldsText tree base path compressed d.write) :
    (readTags tree base path compressed).log = [] ∧
      ((readTags tree base path compressed).result = .ok d.content ↔
        ∀ value ∈ d.values, ¬HasLongReference value) := by
  rw [hfile.readTags_eq hd, hd.strip_take hlength]
  refine ⟨rfl, ?_⟩
  show d.normalized.shown = .ok d.content ↔ _
  rw [hd.normalized.shown_eq_ok_iff, d.content_normalized, eq_self_iff_true, true_and,
    d.forall_values_normalized]

/-- A word in an element with an attribute. -/
def boldWordReference : Document :=
  [.opening "b" [⟨"class", "x"⟩], .text "a<b", .closing "b"]

/-- That document in UTF-8 behind a byte order mark, packed without being compressed. -/
def boldWordPacked : Bytes :=
  [0x1f, 0x8b, 8, 0, 0, 0, 0, 0, 0, 3, 1, 26, 0, 0xe5, 0xff] ++
    (TextFile.mark ++ Utf8.encode boldWordReference.write) ++ [0xbe, 0xaa, 0x04, 0xc2, 26, 0, 0, 0]

/-- A file that holds it. -/
def boldWordTree : FileTree :=
  .ofFiles [⟨["data".toList, "xref".toList, "a.c.gz".toList], boldWordPacked, 0⟩]

/-- The case of a packed file. -/
theorem readTags_crossReference_packed :
    boldWordReference.IsXref ∧ boldWordReference.write.length ≤ tagsBudget ∧
      HoldsText boldWordTree (.ofText "data/xref") "a.c" true boldWordReference.write ∧
      (readTags boldWordTree (.ofText "data/xref") "a.c" true).log = [] ∧
      ((readTags boldWordTree (.ofText "data/xref") "a.c" true).result = .ok "a<b" ↔
        ∀ value ∈ boldWordReference.values, ¬HasLongReference value) := by
  have hd : boldWordReference.IsXref := by decide +kernel
  have hlength : boldWordReference.write.length ≤ tagsBudget := by decide +kernel
  have hfile : HoldsText boldWordTree (.ofText "data/xref") "a.c" true boldWordReference.write := by
    have hstream : Gzip.stream boldWordPacked =
        .stretch (TextFile.mark ++ Utf8.encode boldWordReference.write) none .ended := by
      decide +kernel
    have hread : boldWordTree.readBytes (TextFile.cachedPath (.ofText "data/xref") "a.c" true) =
        .ok boldWordPacked := by
      rfl
    refine ⟨boldWordPacked, _, hread, ?_, Or.inl rfl⟩
    rw [if_pos rfl, hstream]
    have h := Stream.Delivers.stretch
      (by decide : TextFile.mark ++ Utf8.encode boldWordReference.write ≠ []) .ended
    rwa [List.append_nil] at h
  exact ⟨hd, hlength, hfile, readTags_crossReference hd hlength hfile⟩

/-- A reference with one digit too many. -/
def longReference : Text :=
  "&#" ++ List.replicate (maxDigits + 1) '1'

/-- A tag with that value. -/
def longValueReference : Document :=
  [.opening "a" [⟨"b", longReference⟩]]

/-- A file that holds it. -/
def longValueFile : File :=
  ⟨["data".toList, "xref".toList, "a.c".toList], Utf8.encode longValueReference.write, 0⟩

/-- The cache with that file. -/
def longValueTree : FileTree :=
  .ofFiles [longValueFile]

/-- The value of a tag may keep the text of a cross-reference from being read. -/
theorem not_readTags_longValue :
    longValueReference.IsXref ∧ longValueReference.write.length ≤ tagsBudget ∧
      HoldsText longValueTree (.ofText "data/xref") "a.c" false longValueReference.write ∧
      (readTags longValueTree (.ofText "data/xref") "a.c" false).result ≠
        .ok longValueReference.content := by
  have hd : longValueReference.IsXref := by decide +kernel
  have hlength : longValueReference.write.length ≤ tagsBudget := by decide +kernel
  have hfile : HoldsText longValueTree (.ofText "data/xref") "a.c" false
      longValueReference.write := by
    have hhead : longValueReference.write.head? = some '<' := rfl
    have hread : longValueTree.readBytes (TextFile.cachedPath (.ofText "data/xref") "a.c" false) =
        .ok longValueFile.content := by
      refine FileTree.readBytes_of_follow ?_ ?_ rfl ?_ rfl
      · decide +kernel
      · decide +kernel
      · decide +kernel
    refine ⟨_, _, hread, rfl, Or.inr ⟨?_, rfl⟩⟩
    rw [hhead]
    decide
  have hlong : HasLongReference longReference := by
    refine ⟨[], _, rfl, List.replicate (maxDigits + 1) '1', [], ?_, ?_, ?_⟩
    · rw [List.append_nil]
      rfl
    · intro c hc
      rw [List.eq_of_mem_replicate hc]
      rfl
    · rw [List.length_replicate]
      exact Nat.lt_succ_self _
  refine ⟨hd, hlength, hfile, ?_⟩
  have hresult : (readTags longValueTree (.ofText "data/xref") "a.c" false).result =
      longValueReference.normalized.shown := by
    rw [hfile.readTags_eq hd, ← hd.strip_take hlength]
  rw [hresult, ne_eq, hd.normalized.shown_eq_ok_iff, Document.forall_values_normalized]
  intro h
  exact h.2 longReference (List.mem_singleton.mpr rfl) hlong

end HitListing
