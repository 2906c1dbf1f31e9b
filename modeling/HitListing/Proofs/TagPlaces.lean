import HitListing.Proofs.Closings

/-!
# Start tags before a tag that is not ended

An ending that begins a tag, and does not end it (`IsOpenTag`), leaves the attributes
before it as they are (`attributesFrom_append`).  The places within a start tag are
followed in the text with the ending and in the text without it (`Place.Continues`):
they are the same up to where the text ends, and from there on the ending has
attributes, but no end of the tag (`Place.IsOpen`).
-/

namespace HitListing.Markup

/-! ## Endings -/

/-- Whether a text, behind another, begins a tag that it does not end.  No quote of it may stand
in the other. -/
structure IsOpenTag (w t : Text) : Prop where
  head : w.head? = some '<'
  notEnded : '>' ∉ w
  quotes : ∀ c ∈ w, isQuote c = true → c ∉ t

theorem IsOpenTag.mono {w s t : Text} (h : IsOpenTag w t) (hs : s ⊆ t) : IsOpenTag w s where
  head := h.head
  notEnded := h.notEnded
  quotes c hc hquote hin := h.quotes c hc hquote (hs hin)

theorem forall_mem_head? {w : Text} (h : w.head? = some '<') {P : Char → Prop} (hopen : P '<') :
    ∀ c ∈ w.head?, P c := by
  intro c hc
  rw [h] at hc
  exact Option.some.inj hc ▸ hopen

section Stretches

variable {p : Char → Bool} {t w : Text}

/-- An ending whose first character fails a test does not lengthen the stretch that passes it. -/
theorem takeWhile_append_of_head (h : ∀ c ∈ w.head?, p c = false) (t : Text) :
    (t ++ w).takeWhile p = t.takeWhile p ∧ (t ++ w).dropWhile p = t.dropWhile p ++ w := by
  have hw : w.takeWhile p = [] ∧ w.dropWhile p = w := by
    cases w with
    | nil => exact ⟨rfl, rfl⟩
    | cons c w =>
      have hc : ¬p c = true := by simp [h c rfl]
      exact ⟨List.takeWhile_cons_of_neg hc, List.dropWhile_cons_of_neg hc⟩
  rw [List.takeWhile_append, List.dropWhile_append, hw.1, hw.2, List.append_nil]
  constructor
  · split
    · rename_i hlength
      exact ((List.takeWhile_prefix p).eq_of_length hlength).symm
    · rfl
  · split
    · rename_i hnil
      rw [List.isEmpty_iff.mp hnil, List.nil_append]
    · rfl

/-- An ending does not lengthen a stretch that ends before it. -/
theorem takeWhile_append_of_dropWhile (h : t.dropWhile p ≠ []) (w : Text) :
    (t ++ w).takeWhile p = t.takeWhile p ∧ (t ++ w).dropWhile p = t.dropWhile p ++ w := by
  have hlength : (t.takeWhile p).length ≠ t.length := by
    intro hlength
    have hwhole := congrArg List.length (List.takeWhile_append_dropWhile (p := p) (l := t))
    rw [List.length_append, hlength, Nat.add_eq_left] at hwhole
    exact h (List.length_eq_zero_iff.mp hwhole)
  have hsome : ¬(t.dropWhile p).isEmpty = true := by
    rwa [List.isEmpty_iff]
  rw [List.takeWhile_append, List.dropWhile_append, if_neg hlength, if_neg hsome]
  exact ⟨rfl, rfl⟩

/-- A stretch that goes on into the ending. -/
theorem dropWhile_append_of_eq_nil (h : t.dropWhile p = []) (w : Text) :
    (t ++ w).dropWhile p = w.dropWhile p := by
  rw [List.dropWhile_append, h]
  rfl

/-- What stands behind a stretch fails the test. -/
theorem head?_dropWhile_eq_false (p : Char → Bool) (t : Text) :
    ∀ c ∈ (t.dropWhile p).head?, p c = false := by
  intro c hc
  cases hdrop : t.dropWhile p with
  | nil =>
    rw [hdrop] at hc
    cases hc
  | cons d rest =>
    rw [hdrop] at hc
    cases hc
    have hne : t.dropWhile p ≠ [] := by simp [hdrop]
    have hnot := List.head_dropWhile_not p hne
    simpa [hdrop] using hnot

end Stretches

namespace Place

/-! ## Places -/

/-- Whether a place within a tag, before a gap, leads to an attribute or to the end of the text,
and the tag is not ended behind it. -/
structure LeadsOn (p : Place) : Prop where
  notEnded : '>' ∉ p.rest
  next : ∀ c ∈ p.rest.head?,
    opensAttribute p.before = true ∨ isBlank c = true ∨ c = '/' ∨ c = '='

/-- Whether an attribute begins at a place, or an equals sign stands there, or the text ends; the
tag is not ended behind it. -/
structure IsOpen (p : Place) : Prop where
  notEnded : '>' ∉ p.rest
  next : ∀ c ∈ p.rest.head?,
    opensAttribute p.before = true ∧ isAttributeStart c = true ∨ c = '='

/-- Whether one place lies within a text and the other is the same place in the text with an
ending; or the one is the end of the text, and the other, within the ending, has a property. -/
inductive Continues (w : Text) (IsWithin : Place → Prop) : Place → Place → Prop where
  | same {before : Char} {rest : Text} (hrest : rest ≠ []) :
    Continues w IsWithin ⟨before, rest⟩ ⟨before, rest ++ w⟩
  | behind {before : Char} {q : Place} (hq : IsWithin q) :
    Continues w IsWithin ⟨before, []⟩ q

/-! ## Gaps -/

theorem skipGap_suffix (before : Char) (t : Text) : (skipGap before t).rest <:+ t := by
  fun_induction skipGap before t with
  | case1 before => exact List.suffix_refl _
  | case2 before rest => exact List.suffix_refl _
  | case3 before c rest _ _ ih => exact ih.trans (List.suffix_cons c rest)
  | case4 before c rest _ _ => exact List.suffix_refl _

/-- Behind a gap begins an attribute. -/
theorem LeadsOn.isOpen_skipGap {p : Place} (h : p.LeadsOn) : (skipGap p.before p.rest).IsOpen := by
  obtain ⟨before, rest⟩ := p
  obtain ⟨hend, hnext⟩ := h
  simp only at hend hnext ⊢
  fun_induction skipGap before rest with
  | case1 before => exact ⟨hend, nofun⟩
  | case2 before rest => exact absurd (List.mem_cons_of_mem _ List.mem_cons_self) hend
  | case3 before c rest _ hgap ih =>
    refine ih (fun hin => hend (List.mem_cons_of_mem c hin)) fun d _ => Or.inl ?_
    rw [opensAttribute, Bool.or_assoc, hgap, Bool.or_true]
  | case4 before c rest _ hgap =>
    refine ⟨hend, fun d hd => ?_⟩
    cases hd
    rw [Bool.not_eq_true, Bool.or_eq_false_iff, decide_eq_false_iff_not] at hgap
    have hbracket : c ≠ '>' := fun heq => hend (heq ▸ List.mem_cons_self)
    rcases hnext c rfl with hopens | hblank | rfl | rfl
    · exact Or.inl ⟨hopens, by simp [isAttributeStart, hgap, hbracket]⟩
    · rw [hgap.1] at hblank
      cases hblank
    · exact absurd rfl hgap.2
    · exact Or.inr rfl

/-- The gaps before and behind the end of a text. -/
theorem Continues.skipGap {w : Text} (hw : '>' ∉ w) {p q : Place}
    (h : Continues w LeadsOn p q) :
    Continues w IsOpen (skipGap p.before p.rest) (skipGap q.before q.rest) := by
  cases h with
  | behind hq => exact .behind hq.isOpen_skipGap
  | same hrest =>
    rename_i before rest
    simp only
    fun_induction Markup.skipGap before rest with
    | case1 before => exact absurd rfl hrest
    | case2 before rest => exact .same nofun
    | case3 before c rest hend hgap ih =>
      have hend' : ∀ more, c = '/' → rest ++ w = '>' :: more → False := by
        intro more hc heq
        cases rest with
        | nil =>
          refine hw ?_
          rw [← List.nil_append w, heq]
          exact List.mem_cons_self
        | cons d rest =>
          injection heq with hd _
          exact hend rest hc (by rw [hd])
      rw [List.cons_append, skipGap.eq_3 before c (rest ++ w) hend', if_pos hgap]
      rcases eq_or_ne rest [] with rfl | hne
      · refine .behind (LeadsOn.isOpen_skipGap (p := ⟨c, w⟩) ⟨hw, fun d _ => Or.inl ?_⟩)
        rw [opensAttribute, Bool.or_assoc, hgap, Bool.or_true]
      · exact ih hne
    | case4 before c rest hend hgap =>
      have hend' : ∀ more, c = '/' → rest ++ w = '>' :: more → False := by
        intro more hc
        rw [hc] at hgap
        exact absurd rfl hgap
      rw [List.cons_append, skipGap.eq_3 before c (rest ++ w) hend', if_neg hgap]
      exact .same nofun

/-- Whether what is found at a place in a text, and the place behind it, are what is found in the
text with an ending.  What is found may differ if it reaches the end of the text. -/
structure Agrees {α : Type} (w : Text) (IsWithin : Place → Prop) (r s : α × Place) : Prop where
  place : Continues w IsWithin r.2 s.2
  value : r.2.rest ≠ [] → s.1 = r.1

end Place

open Place

/-! ## Values -/

/-- A value without quotes at the front of a text, and the place behind it. -/
def bareValue (before : Char) (start : Text) : Text × Place :=
  (start.takeWhile isBareValueChar,
    .after before (start.takeWhile isBareValueChar) (start.dropWhile isBareValueChar))

/-- The value of an attribute behind `count` equals signs, and the place behind it. -/
def valueBehindMarks? (count : Nat) (t : Text) : Option (Text × Place) :=
  let before := (t.takeWhile isBlank).getLastD '='
  match t.dropWhile isBlank with
  | q :: more =>
    if isQuote q then
      match Text.cutAt? q more with
      | some (inside, rest) => some (q :: inside ++ [q], ⟨q, rest⟩)
      | none =>
        if !(t.takeWhile isBlank).isEmpty then some ([], ⟨'=', t⟩)
        else if 1 < count then some (bareValue before ('=' :: q :: more))
        else none
    else some (bareValue before (q :: more))
  | [] => some (bareValue before [])

theorem attributeValue?_eq (t : Text) :
    attributeValue? t =
      if ((t.dropWhile isBlank).takeWhile (· = '=')).isEmpty then none
      else valueBehindMarks? ((t.dropWhile isBlank).takeWhile (· = '=')).length
        ((t.dropWhile isBlank).dropWhile (· = '=')) := by
  unfold attributeValue? valueBehindMarks?
  simp only
  split
  · rfl
  · split <;> rename_i heq <;> simp only [heq] <;> rfl

/-- The value behind the name of an attribute, or none behind its last character. -/
def valueBehindName (last : Char) (t : Text) : Text × Place :=
  (attributeValue? t).getD ([], ⟨last, t⟩)

theorem valueBehindMarks?_suffix {count : Nat} {t value : Text} {p : Place}
    (h : valueBehindMarks? count t = some (value, p)) : p.rest <:+ t := by
  have hbody : t.dropWhile isBlank <:+ t := List.dropWhile_suffix isBlank
  unfold valueBehindMarks? at h
  simp only at h
  split at h
  · rename_i q more heq
    rw [heq] at hbody
    have hbare : (q :: more).dropWhile isBareValueChar <:+ t :=
      (List.dropWhile_suffix isBareValueChar).trans hbody
    split at h
    · rcases cutAt?_cases q more with ⟨inside, rest, rfl, hq⟩ | hq
      · rw [cutAt?_append_cons hq] at h
        cases h
        exact ((List.suffix_cons q rest).trans (List.suffix_append inside _)).trans
          ((List.suffix_cons q _).trans hbody)
      · rw [cutAt?_eq_none hq] at h
        simp only at h
        split at h
        · cases h
          exact List.suffix_refl _
        · split at h
          · cases h
            show ('=' :: q :: more).dropWhile isBareValueChar <:+ t
            rwa [List.dropWhile_cons_of_pos (by decide)]
          · cases h
    · cases h
      exact hbare
  · cases h
    exact List.nil_suffix

theorem valueBehindName_suffix (last : Char) (t : Text) :
    (valueBehindName last t).2.rest <:+ t := by
  rw [valueBehindName, attributeValue?_eq]
  split
  · exact List.suffix_refl _
  · cases hvalue : valueBehindMarks? ((t.dropWhile isBlank).takeWhile (· = '=')).length
        ((t.dropWhile isBlank).dropWhile (· = '=')) with
    | none => exact List.suffix_refl _
    | some r =>
      exact (valueBehindMarks?_suffix hvalue).trans
        ((List.dropWhile_suffix _).trans (List.dropWhile_suffix _))

/-! ## Values that are not followed by the end of the tag -/

theorem leadsOn_bareValue {t : Text} (hend : '>' ∉ t.dropWhile isBareValueChar) (before : Char) :
    (bareValue before t).2.LeadsOn where
  notEnded := hend
  next c hc := by
    have hnot := head?_dropWhile_eq_false isBareValueChar t c hc
    have hbracket : c ≠ '>' := fun heq => hend (heq ▸ List.mem_of_mem_head? hc)
    rw [isBareValueChar, Bool.not_eq_false', Bool.or_eq_true, decide_eq_true_iff,
      or_iff_left hbracket] at hnot
    exact Or.inr (Or.inl hnot)

theorem leadsOn_valueBehindMarks? {count : Nat} {t value : Text} {p : Place} (hend : '>' ∉ t)
    (h : valueBehindMarks? count t = some (value, p)) : p.LeadsOn := by
  have hrest : '>' ∉ p.rest := fun hin => hend ((valueBehindMarks?_suffix h).subset hin)
  have hbody : '>' ∉ t.dropWhile isBlank :=
    fun hin => hend ((List.dropWhile_suffix isBlank).subset hin)
  unfold valueBehindMarks? at h
  simp only at h
  split at h
  · rename_i q more heq
    rw [heq] at hbody
    have hbare : '>' ∉ (q :: more).dropWhile isBareValueChar :=
      fun hin => hbody ((List.dropWhile_suffix _).subset hin)
    split at h
    · rename_i hquote
      split at h
      · cases h
        refine ⟨hrest, fun _ _ => Or.inl ?_⟩
        rw [opensAttribute, hquote]
        rfl
      · split at h
        · rename_i hblanks
          cases h
          refine ⟨hrest, fun c hc => Or.inr (Or.inl ?_)⟩
          cases t with
          | nil => cases hc
          | cons d t =>
            cases hc
            by_contra hblank
            rw [List.takeWhile_cons_of_neg hblank] at hblanks
            cases hblanks
        · split at h
          · cases h
            refine leadsOn_bareValue ?_ _
            rwa [List.dropWhile_cons_of_pos (by decide)]
          · cases h
    · cases h
      exact leadsOn_bareValue hbare _
  · cases h
    exact leadsOn_bareValue (by simp) _

/-- What stands behind a name leads on. -/
theorem leadsOn_valueBehindName {t : Text} (hend : '>' ∉ t)
    (hname : ∀ c ∈ t.head?, isAttributeChar c = false) (last : Char) :
    (valueBehindName last t).2.LeadsOn := by
  have hself : LeadsOn ⟨last, t⟩ := by
    refine ⟨hend, fun c hc => Or.inr ?_⟩
    have hbracket : c ≠ '>' := fun heq => hend (heq ▸ List.mem_of_mem_head? hc)
    have hnot := hname c hc
    by_contra hother
    rw [not_or, not_or, Bool.not_eq_true] at hother
    simp [isAttributeChar, isAttributeStart, hother, hbracket] at hnot
  rw [valueBehindName, attributeValue?_eq]
  split
  · exact hself
  · cases hvalue : valueBehindMarks? ((t.dropWhile isBlank).takeWhile (· = '=')).length
        ((t.dropWhile isBlank).dropWhile (· = '=')) with
    | none => exact hself
    | some r =>
      refine leadsOn_valueBehindMarks? (fun hin => hend ?_) hvalue
      exact ((List.dropWhile_suffix _).trans (List.dropWhile_suffix _)).subset hin

/-! ## Values before an ending -/

theorem bareValue_append {w : Text} (hw : '>' ∉ w) (before : Char) (t : Text) :
    Agrees w LeadsOn (bareValue before t) (bareValue before (t ++ w)) := by
  rcases eq_or_ne (t.dropWhile isBareValueChar) [] with hnil | hne
  · have hplace : (bareValue before (t ++ w)).2.LeadsOn := by
      refine leadsOn_bareValue ?_ before
      rw [dropWhile_append_of_eq_nil hnil]
      exact fun hin => hw ((List.dropWhile_suffix _).subset hin)
    rw [bareValue, hnil]
    exact ⟨.behind hplace, fun hne => absurd rfl hne⟩
  · obtain ⟨htake, hdrop⟩ := takeWhile_append_of_dropWhile hne w
    rw [bareValue, bareValue, htake, hdrop]
    exact ⟨.same hne, fun _ => rfl⟩

theorem valueBehindMarks?_append {w t : Text} (hw : IsOpenTag w t) (count : Nat) :
    Option.Rel (Agrees w LeadsOn) (valueBehindMarks? count t)
      (valueBehindMarks? count (t ++ w)) := by
  obtain ⟨z, rfl⟩ := List.head?_eq_some_iff.mp hw.head
  have hblank : isBlank '<' = false := by decide
  obtain ⟨htake, hdrop⟩ := takeWhile_append_of_head (forall_mem_head? hw.head hblank) t
  unfold valueBehindMarks?
  simp only
  rw [htake, hdrop]
  cases hbody : t.dropWhile isBlank with
  | nil =>
    have hquote : isQuote '<' = false := by decide
    simp only [List.nil_append, hquote]
    exact .some (bareValue_append hw.notEnded _ [])
  | cons q more =>
    simp only [List.cons_append]
    split
    · rename_i hquote
      rcases cutAt?_cases q more with ⟨inside, rest, rfl, hq⟩ | hq
      · rw [List.append_assoc, List.cons_append, cutAt?_append_cons hq, cutAt?_append_cons hq]
        refine .some ⟨?_, fun _ => rfl⟩
        cases rest with
        | nil =>
          refine .behind ⟨hw.notEnded, fun _ _ => Or.inl ?_⟩
          show opensAttribute q = true
          rw [opensAttribute, hquote]
          rfl
        | cons d rest => exact .same nofun
      · have hq' : q ∉ more ++ '<' :: z := by
          rw [List.mem_append, not_or]
          refine ⟨hq, fun hin => hw.quotes q hin hquote ?_⟩
          refine (List.dropWhile_suffix isBlank).subset ?_
          rw [hbody]
          exact List.mem_cons_self
        rw [cutAt?_eq_none hq, cutAt?_eq_none hq']
        simp only
        split
        · refine .some ⟨.same ?_, fun _ => rfl⟩
          rintro rfl
          cases hbody
        · split
          · exact .some (bareValue_append hw.notEnded _ ('=' :: q :: more))
          · exact .none
    · exact .some (bareValue_append hw.notEnded _ (q :: more))

theorem attributeValue?_append {w t : Text} (hw : IsOpenTag w t) :
    Option.Rel (Agrees w LeadsOn) (attributeValue? t) (attributeValue? (t ++ w)) := by
  obtain ⟨_, hblanks⟩ :=
    takeWhile_append_of_head (forall_mem_head? hw.head (by decide : isBlank '<' = false)) t
  have hequals : decide ('<' = '=') = false := by decide
  obtain ⟨hmarks, hbehind⟩ := takeWhile_append_of_head (p := fun c => decide (c = '='))
    (forall_mem_head? hw.head hequals) (t.dropWhile isBlank)
  rw [attributeValue?_eq, attributeValue?_eq, hblanks, hmarks, hbehind]
  split
  · exact .none
  · refine valueBehindMarks?_append (hw.mono ?_) _
    exact ((List.dropWhile_suffix _).trans (List.dropWhile_suffix _)).subset

theorem valueBehindName_append {w t : Text} (hw : IsOpenTag w t) (ht : t ≠ []) (last : Char) :
    Agrees w LeadsOn (valueBehindName last t) (valueBehindName last (t ++ w)) := by
  have h := attributeValue?_append hw
  unfold valueBehindName
  generalize attributeValue? t = r, attributeValue? (t ++ w) = s at h ⊢
  cases h with
  | none => exact ⟨.same ht, fun _ => rfl⟩
  | some h => exact h

/-! ## Attributes -/

theorem attribute?_eq (before c : Char) (more : Text) :
    attribute? ⟨before, c :: more⟩ =
      if opensAttribute before && isAttributeStart c then
        let r := valueBehindName ((c :: more.takeWhile isAttributeChar).getLastD c)
          (more.dropWhile isAttributeChar)
        some (r.1, skipGap r.2.before r.2.rest)
      else none := by
  unfold attribute? valueBehindName
  simp only
  cases attributeValue? (more.dropWhile isAttributeChar) <;> rfl

/-- The place behind an attribute is further on. -/
theorem attribute?_suffix {before c : Char} {more : Text} {r : Text × Place}
    (h : attribute? ⟨before, c :: more⟩ = some r) : r.2.rest <:+ more := by
  rw [attribute?_eq] at h
  split at h
  · cases h
    exact ((skipGap_suffix _ _).trans (valueBehindName_suffix _ _)).trans
      (List.dropWhile_suffix isAttributeChar)
  · cases h

theorem attributesFrom_suffix (count : Nat) (p : Place) :
    (attributesFrom count p).2.rest <:+ p.rest := by
  induction count generalizing p with
  | zero => exact List.suffix_refl _
  | succ count ih =>
    obtain ⟨before, rest⟩ := p
    rw [attributesFrom]
    cases rest with
    | nil => exact List.suffix_refl _
    | cons c more =>
      cases hattribute : attribute? ⟨before, c :: more⟩ with
      | none => exact List.suffix_refl _
      | some r =>
        exact ((ih r.2).trans (attribute?_suffix hattribute)).trans (List.suffix_cons c more)

/-- What stands behind an attribute in a tag that is not ended is open again. -/
theorem isOpen_skipGap_valueBehindName {t : Text} (hend : '>' ∉ t.dropWhile isAttributeChar)
    (last : Char) :
    (skipGap (valueBehindName last (t.dropWhile isAttributeChar)).2.before
      (valueBehindName last (t.dropWhile isAttributeChar)).2.rest).IsOpen :=
  (leadsOn_valueBehindName hend (head?_dropWhile_eq_false _ t) last).isOpen_skipGap

/-- From an open place the attributes go on to the end of the text or to an equals sign. -/
theorem attributesFrom_of_isOpen {count : Nat} {p : Place} (hp : p.IsOpen)
    (hcount : p.rest.length ≤ count) : ∀ c ∈ (attributesFrom count p).2.rest.head?, c = '=' := by
  induction count generalizing p with
  | zero =>
    rw [Nat.le_zero, List.length_eq_zero_iff] at hcount
    rw [attributesFrom, hcount]
    intro c hc
    cases hc
  | succ count ih =>
    obtain ⟨before, rest⟩ := p
    rw [attributesFrom]
    cases rest with
    | nil =>
      intro c hc
      cases hc
    | cons c more =>
      cases hattribute : attribute? ⟨before, c :: more⟩ with
      | some r =>
        have hlength := (attribute?_suffix hattribute).length_le
        rw [attribute?_eq] at hattribute
        split at hattribute
        · cases hattribute
          refine ih (isOpen_skipGap_valueBehindName (fun hin => hp.notEnded ?_) _) ?_
          · exact List.mem_cons_of_mem c ((List.dropWhile_suffix _).subset hin)
          · exact Nat.le_trans hlength (Nat.le_of_succ_le_succ hcount)
        · cases hattribute
      | none =>
        intro d hd
        cases hd
        rw [attribute?_eq] at hattribute
        split at hattribute
        · cases hattribute
        · rename_i hno
          rcases hp.next c rfl with hyes | hequals
          · exact absurd (by rw [hyes.1, hyes.2]; rfl) hno
          · exact hequals

theorem attribute?_append {w t : Text} (hw : IsOpenTag w t) (ht : t ≠ []) (before : Char) :
    Option.Rel (Agrees w IsOpen) (attribute? ⟨before, t⟩) (attribute? ⟨before, t ++ w⟩) := by
  obtain ⟨c, more, rfl⟩ := List.exists_cons_of_ne_nil ht
  rw [List.cons_append, attribute?_eq, attribute?_eq]
  split
  · refine .some ?_
    rcases eq_or_ne (more.dropWhile isAttributeChar) [] with hnil | hne
    · rw [hnil, dropWhile_append_of_eq_nil hnil]
      refine ⟨.behind (isOpen_skipGap_valueBehindName (fun hin => hw.notEnded ?_) _), ?_⟩
      · exact (List.dropWhile_suffix _).subset hin
      · exact fun hne => absurd rfl hne
    · obtain ⟨htake, hdrop⟩ := takeWhile_append_of_dropWhile hne w
      rw [htake, hdrop]
      have hagrees := valueBehindName_append (hw.mono ?_) hne
        ((c :: more.takeWhile isAttributeChar).getLastD c)
      · refine ⟨hagrees.place.skipGap hw.notEnded, fun hrest => hagrees.value fun hnil => ?_⟩
        rw [hnil] at hrest
        exact hrest rfl
      · exact List.subset_cons_of_subset c (List.dropWhile_suffix _).subset
  · exact .none

/-- The attributes before an ending: they reach the end of the text, and with the ending its end
or an equals sign, or they are the same with the ending. -/
theorem attributesFrom_append {w : Text} {count more : Nat} {p q : Place}
    (hw : IsOpenTag w p.rest) (h : Continues w IsOpen p q) (hcount : p.rest.length ≤ count)
    (hmore : q.rest.length ≤ more) :
    (attributesFrom count p).2.rest = [] ∧
        (∀ c ∈ (attributesFrom more q).2.rest.head?, c = '=') ∨
      (attributesFrom more q).1 = (attributesFrom count p).1 ∧
        (attributesFrom count p).2.rest ≠ [] ∧
        (attributesFrom more q).2.rest = (attributesFrom count p).2.rest ++ w := by
  induction count generalizing more p q with
  | zero =>
    rw [Nat.le_zero, List.length_eq_zero_iff] at hcount
    cases h with
    | same hrest => exact absurd hcount hrest
    | behind hq => exact Or.inl ⟨rfl, attributesFrom_of_isOpen hq hmore⟩
  | succ count ih =>
    cases h with
    | behind hq => exact Or.inl ⟨rfl, attributesFrom_of_isOpen hq hmore⟩
    | same hrest =>
      rename_i before rest
      have hagrees := attribute?_append hw hrest before
      obtain ⟨c, rest, rfl⟩ := List.exists_cons_of_ne_nil hrest
      cases more with
      | zero => cases hmore
      | succ more =>
        rw [attributesFrom, attributesFrom]
        generalize hp : attribute? ⟨before, c :: rest⟩ = r at hagrees ⊢
        generalize hq : attribute? ⟨before, c :: rest ++ w⟩ = s at hagrees ⊢
        cases hagrees with
        | none => exact Or.inr ⟨rfl, hrest, rfl⟩
        | some hagrees =>
          rename_i r s
          have hp := attribute?_suffix hp
          have hq := attribute?_suffix hq
          have hshort := Nat.le_trans hp.length_le (Nat.le_of_succ_le_succ hcount)
          have hshort' := Nat.le_trans hq.length_le (Nat.le_of_succ_le_succ hmore)
          have hnext := hw.mono (hp.trans (List.suffix_cons c rest)).subset
          rcases ih hnext hagrees.place hshort hshort' with hend | ⟨hvalues, hne, hlast⟩
          · exact Or.inl hend
          · have hrest : r.2.rest ≠ [] := by
              intro hnil
              have hsuffix := attributesFrom_suffix count r.2
              rw [hnil] at hsuffix
              exact hne (List.suffix_nil.mp hsuffix)
            refine Or.inr ⟨?_, hne, hlast⟩
            show s.1 :: _ = r.1 :: _
            rw [hvalues, hagrees.value hrest]

end HitListing.Markup
