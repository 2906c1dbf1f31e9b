import HitListing.Proofs.LowerCase
import HitListing.Proofs.TagPlaces

/-!
# Constructs before a tag that is not ended

A construct lies within the text (`length_le_of_construct`), and what is dropped of a
text ends with a bracket (`construct_of_not_mem`).  So a tag that begins at the end of
a text, and is not ended, leaves the constructs before it as they are
(`construct_append`).  Only a start tag that ends within its name may go on with the
tag; then it is shown, and never ended.
-/

namespace HitListing.Markup

open Place

/-! ## Start tags -/

/-- The characters that may be the name of a tag at the front of a text. -/
def tagName (t : Text) : Text :=
  (t.drop 1).takeWhile isTagNameChar

/-- What stands behind the name of a tag at the front of a text. -/
def behindName (t : Text) : Text :=
  (t.drop 1).dropWhile isTagNameChar

/-- Whether a character may stand in the gap behind the name of a tag. -/
def isGapChar (c : Char) : Bool :=
  isBlank c || c = '/'

/-- The place behind the name of a tag and the gap that follows. -/
def tagPlace (t : Text) : Place :=
  .after ((tagName t).getLastD '<') ((behindName t).takeWhile isGapChar)
    ((behindName t).dropWhile isGapChar)

/-- What a start tag with a name and a gap turns out to be: `length` characters stand from its front
on, and `found` are its values and the place behind its attributes. -/
def tagFrom (name gap : Text) (length : Nat) (found : List Text × Place) : StartTag :=
  let passed := length - found.2.rest.length
  match found.2.rest with
  | '>' :: _ => .complete name found.1 (found.1.isEmpty && gap.getLast? = some '/') (passed + 1)
  | '/' :: '>' :: _ => .complete name found.1 true (passed + 2)
  | [] => .incomplete
  | c :: _ => if c.isAlpha || c = '=' || c = '/' then .incomplete else .shown found.1 passed

theorem startTag_eq (t : Text) :
    startTag t = tagFrom (tagName t) ((behindName t).takeWhile isGapChar) t.length
      (attributesFrom t.length (tagPlace t)) :=
  rfl

theorem tagFrom_incomplete {name gap : Text} {length : Nat} {found : List Text × Place}
    (h : ∀ c ∈ found.2.rest.head?, c = '=') : tagFrom name gap length found = .incomplete := by
  unfold tagFrom
  simp only
  cases hrest : found.2.rest with
  | nil => rfl
  | cons c more =>
    rw [hrest] at h
    obtain rfl := h c rfl
    rfl

theorem tagFrom_cons {name gap : Text} {length : Nat} {found : List Text × Place} {c : Char}
    {more : Text} (h : found.2.rest = c :: more) :
    tagFrom name gap length found =
      if c = '>' then
        .complete name found.1 (found.1.isEmpty && gap.getLast? = some '/')
          (length - found.2.rest.length + 1)
      else if c = '/' ∧ more.head? = some '>' then
        .complete name found.1 true (length - found.2.rest.length + 2)
      else if c.isAlpha || c = '=' || c = '/' then .incomplete
      else .shown found.1 (length - found.2.rest.length) := by
  unfold tagFrom
  simp only
  rw [h]
  split
  · rename_i heq
    injection heq with hc _
    rw [if_pos hc]
  · rename_i heq
    injection heq with hc hmore
    rw [if_neg (by rw [hc]; decide), if_pos ⟨hc, by rw [hmore]; rfl⟩]
  · rename_i heq
    cases heq
  · rename_i hbracket hslash heq
    cases heq
    have hclosing : ¬(c = '/' ∧ more.head? = some '>') := by
      rintro ⟨hc, hhead⟩
      obtain ⟨rest, hmore⟩ := List.head?_eq_some_iff.mp hhead
      exact hslash rest hc hmore
    rw [if_neg hbracket, if_neg hclosing]

theorem tagFrom_append {name gap w : Text} {length : Nat} {found other : List Text × Place}
    (hw : w.head? = some '<') (hne : found.2.rest ≠ []) (hvalues : other.1 = found.1)
    (hrest : other.2.rest = found.2.rest ++ w) :
    tagFrom name gap (length + w.length) other = tagFrom name gap length found := by
  have hpassed : length + w.length - other.2.rest.length = length - found.2.rest.length := by
    rw [hrest, List.length_append, Nat.add_sub_add_right]
  obtain ⟨c, more, hfound⟩ := List.exists_cons_of_ne_nil hne
  have hother : other.2.rest = c :: (more ++ w) := by
    rw [hrest, hfound, List.cons_append]
  have hhead : (more ++ w).head? = some '>' ↔ more.head? = some '>' := by
    cases more with
    | nil =>
      rw [List.nil_append, hw]
      decide
    | cons d more => rfl
  rw [tagFrom_cons hfound, tagFrom_cons hother, hpassed, hvalues]
  simp only [hhead]

/-- An ending does not change a name that ends before it, nor the gap behind the name. -/
theorem behindName_append {w t : Text} (hw : w.head? = some '<') (hname : behindName t ≠ []) :
    tagName (t ++ w) = tagName t ∧
      (behindName (t ++ w)).takeWhile isGapChar = (behindName t).takeWhile isGapChar ∧
        (behindName (t ++ w)).dropWhile isGapChar = (behindName t).dropWhile isGapChar ++ w := by
  have hdrop : (t ++ w).drop 1 = t.drop 1 ++ w := by
    cases t with
    | nil => exact absurd rfl hname
    | cons c t => rfl
  obtain ⟨hsame, hbehind⟩ := takeWhile_append_of_dropWhile hname w
  unfold tagName behindName
  rw [hdrop, hsame, hbehind]
  exact ⟨rfl, takeWhile_append_of_head (forall_mem_head? hw (by decide : isGapChar '<' = false)) _⟩

/-- With an ending, the attributes begin at the same place. -/
theorem tagPlace_append {w t : Text} (hw : IsOpenTag w t) (hname : behindName t ≠ []) :
    Continues w IsOpen (tagPlace t) (tagPlace (t ++ w)) := by
  obtain ⟨hsame, hgap, hrest⟩ := behindName_append hw.head hname
  unfold tagPlace
  rw [hsame, hgap, hrest]
  rcases eq_or_ne ((behindName t).dropWhile isGapChar) [] with hnil | hne
  · rw [hnil]
    refine .behind ⟨hw.notEnded, forall_mem_head? hw.head (Or.inl ⟨?_, by decide⟩)⟩
    -- the gap is not empty, and an attribute may stand behind its last character
    rcases List.eq_nil_or_concat ((behindName t).takeWhile isGapChar) with hgap | ⟨front, c, hgap⟩
    · have hwhole := List.takeWhile_append_dropWhile (p := isGapChar) (l := behindName t)
      rw [hgap, hnil] at hwhole
      exact absurd hwhole.symm hname
    · have hc : isGapChar c = true := by
        refine List.all_eq_true.mp (List.all_takeWhile (l := behindName t)) c ?_
        rw [hgap, List.concat_eq_append]
        exact List.mem_concat_self
      show opensAttribute (((behindName t).takeWhile isGapChar).getLastD _) = true
      rw [hgap, List.concat_eq_append, List.getLastD_concat, opensAttribute, Bool.or_assoc]
      rw [isGapChar] at hc
      rw [hc, Bool.or_true]
  · exact .same hne

theorem tagPlace_suffix (t : Text) : (tagPlace t).rest <:+ behindName t :=
  List.dropWhile_suffix isGapChar

theorem behindName_suffix (t : Text) : behindName t <:+ t :=
  (List.dropWhile_suffix isTagNameChar).trans (List.drop_suffix 1 t)

/-- A start tag whose name ends within a text is the same with an ending. -/
theorem startTag_append {w t : Text} (hw : IsOpenTag w t) (hname : behindName t ≠ []) :
    startTag (t ++ w) = startTag t := by
  have hplace := (tagPlace_suffix t).trans (behindName_suffix t)
  have hplace' := (tagPlace_suffix (t ++ w)).trans (behindName_suffix (t ++ w))
  have hcontinues := tagPlace_append hw hname
  obtain ⟨hsame, hgap, _⟩ := behindName_append hw.head hname
  rw [startTag_eq, startTag_eq, hsame, hgap]
  rcases attributesFrom_append (hw.mono hplace.subset) hcontinues hplace.length_le
    hplace'.length_le with ⟨hnil, hequals⟩ | ⟨hvalues, hne, hrest⟩
  · rw [tagFrom_incomplete hequals, tagFrom_incomplete (by rw [hnil]; exact nofun)]
  · rw [List.length_append]
    rw [List.length_append] at hvalues hrest
    exact tagFrom_append hw.head hne hvalues hrest

/-- A start tag that ends within its name. -/
theorem startTag_of_behindName {t : Text} (hname : behindName t = []) :
    startTag t = .incomplete := by
  have hplace : (tagPlace t).rest = [] := by
    have hsuffix := tagPlace_suffix t
    rw [hname] at hsuffix
    exact List.suffix_nil.mp hsuffix
  have hlast := attributesFrom_suffix t.length (tagPlace t)
  rw [hplace] at hlast
  rw [startTag_eq, tagFrom_incomplete]
  rw [List.suffix_nil.mp hlast]
  exact nofun

/-- A start tag lies within the text.  What is shown of one that is none goes beyond its name. -/
theorem startTag_cases {t : Text} (ht : t ≠ []) :
    startTag t = .incomplete ∨
      (∃ values n, startTag t = .shown values n ∧ (tagName t).length < n ∧ n ≤ t.length) ∨
        ∃ name values selfClosing n, startTag t = .complete name values selfClosing n ∧
          '>' ∈ t ∧ n ≤ t.length := by
  have hsuffix := (attributesFrom_suffix t.length (tagPlace t)).trans (tagPlace_suffix t)
  have hlength : t.length = 1 + (tagName t).length + (behindName t).length := by
    obtain ⟨c, rest, rfl⟩ := List.exists_cons_of_ne_nil ht
    have hwhole := congrArg List.length (List.takeWhile_append_dropWhile (p := isTagNameChar)
      (l := rest))
    rw [List.length_append] at hwhole
    show rest.length + 1 = 1 + (rest.takeWhile isTagNameChar).length +
      (rest.dropWhile isTagNameChar).length
    omega
  rw [startTag_eq]
  generalize attributesFrom t.length (tagPlace t) = found at hsuffix ⊢
  have hpassed := hsuffix.length_le
  cases hrest : found.2.rest with
  | nil => exact Or.inl (tagFrom_incomplete (by rw [hrest]; exact nofun))
  | cons c more =>
    have hmem {d : Char} (hd : d ∈ c :: more) : d ∈ t := by
      refine (behindName_suffix t).subset (hsuffix.subset ?_)
      rw [hrest]
      exact hd
    rw [tagFrom_cons hrest, hrest]
    rw [hrest, List.length_cons] at hpassed
    rw [List.length_cons]
    split
    · rename_i hc
      refine Or.inr (Or.inr ⟨_, _, _, _, rfl, hmem (hc ▸ List.mem_cons_self), ?_⟩)
      omega
    · split
      · rename_i hclosing
        obtain ⟨rest, rfl⟩ := List.head?_eq_some_iff.mp hclosing.2
        refine Or.inr (Or.inr ⟨_, _, _, _, rfl,
          hmem (List.mem_cons_of_mem c List.mem_cons_self), ?_⟩)
        rw [List.length_cons] at hpassed ⊢
        omega
      · split
        · exact Or.inl rfl
        · refine Or.inr (Or.inl ⟨_, _, rfl, ?_, ?_⟩) <;> omega

/-! ## Constructs -/

/-- The number of characters that a construct takes, if it is complete. -/
def Construct.length? : Construct → Option Nat
  | .dropped n | .literal n | .opensRaw _ n => some n
  | .incomplete => none

/-- A document type ends at the next bracket, too. -/
theorem lengthThrough?_doctype {t : Text} (h : startsDoctype t = true) :
    (lengthThrough? '>' (t.drop 7)).map (· + 9) = (lengthThrough? '>' t).map (· + 2) := by
  have hnot : '>' ∉ t.take 7 := by
    intro hin
    have hlower := mem_lower_of_mem (by decide) (by decide +kernel : '>' ∈ lowerChar '>') hin
    rw [of_decide_eq_true h] at hlower
    exact absurd hlower (by decide)
  have hwhole := lengthThrough?_append hnot (t.drop 7)
  rw [List.take_append_drop] at hwhole
  rw [hwhole]
  cases hfound : lengthThrough? '>' (t.drop 7) with
  | none => rfl
  | some n =>
    have hlong : 7 ≤ t.length := by
      by_contra hshort
      rw [List.drop_of_length_le (by omega)] at hfound
      cases hfound
    rw [List.length_take_of_le hlong]
    rfl

theorem construct_declaration {rest : Text} (hcomment : ∀ more, rest ≠ '-' :: '-' :: more)
    (hsection : ∀ more, rest ≠ '[' :: more) :
    construct ('<' :: '!' :: rest) = .ok (.ofLength? ((lengthThrough? '>' rest).map (· + 2))) := by
  rw [construct.eq_4 rest hcomment hsection]
  split
  · rename_i hdoctype
    rw [lengthThrough?_doctype hdoctype]
  · rfl

theorem construct_other {c : Char} (hslash : c ≠ '/') (hmark : c ≠ '!') (hquestion : c ≠ '?')
    (halpha : c.isAlpha = false) (rest : Text) :
    construct ('<' :: c :: rest) = .ok (.literal 1) := by
  rw [construct.eq_6 c rest hslash (fun _ hc => absurd hc hmark) (fun _ hc => absurd hc hmark) hmark
    hquestion, if_neg (by rw [halpha]; decide)]

/-- What a construct can be: it is dropped up to where a search stops, or shown from its first
character on, or a start tag, or not complete. -/
inductive Construct.Found (t : Text) : Construct → Prop where
  | closed {search? : Text → Option Nat} {n : Nat} (hsearch : StopsAtBracket search?)
    (hn : n ≤ t.length) : Found t (.ofLength? ((search? (t.drop n)).map (· + n)))
  | sign : Found t (.literal 1)
  | incomplete : Found t .incomplete
  | tag {k : Construct} (h : startConstruct t = .ok k) : Found t k

theorem found_of_markedSection {t : Text} {k : Construct} (h : markedSection t = .ok k) :
    Construct.Found ('<' :: '!' :: '[' :: t) k := by
  have hdouble := stopsAtBracket_lengthThroughClose? endsAtBracket_doubleClose?
  have hsingle := stopsAtBracket_lengthThroughClose? endsAtBracket_singleClose?
  have hlength : 3 ≤ ('<' :: '!' :: '[' :: t).length := Nat.le_add_left 3 t.length
  unfold markedSection at h
  split at h
  · cases h
    exact .incomplete
  · simp only at h
    split at h
    · cases h
    · split at h
      · cases h
        exact .incomplete
      · split at h
        · cases h
          exact .closed hdouble hlength
        · split at h
          · cases h
            exact .closed hsingle hlength
          · cases h

theorem found_of_construct {t : Text} {k : Construct} (h : construct t = .ok k) (ht : t ≠ []) :
    Construct.Found t k := by
  have hbracket := stopsAtBracket_lengthThrough?
  have hlength (a b : Char) (rest : Text) : 2 ≤ (a :: b :: rest).length :=
    Nat.le_add_left 2 rest.length
  rw [construct.eq_def] at h
  split at h
  · cases h
    exact .closed hbracket (hlength _ _ _)
  · cases h
    exact .closed (stopsAtBracket_lengthThroughClose? endsAtBracket_commentClose?)
      (Nat.le_add_left 4 _)
  · exact found_of_markedSection h
  · split at h
    · rename_i hdoctype
      cases h
      rw [lengthThrough?_doctype hdoctype]
      exact .closed hbracket (hlength _ _ _)
    · cases h
      exact .closed hbracket (hlength _ _ _)
  · cases h
    exact .closed hbracket (hlength _ _ _)
  · split at h
    · exact .tag h
    · cases h
      exact .sign
  · cases h
    exact .sign

/-- The constructs that a start tag may be. -/
theorem startConstruct_cases {t : Text} {k : Construct} (h : startConstruct t = .ok k)
    (ht : t ≠ []) :
    k = .incomplete ∨ (∃ n, k = .literal n ∧ (tagName t).length < n ∧ n ≤ t.length) ∨
      '>' ∈ t ∧ ∀ n ∈ k.length?, n ≤ t.length := by
  unfold startConstruct at h
  rcases startTag_cases ht with htag | ⟨values, n, htag, hname, hn⟩ |
    ⟨name, values, selfClosing, n, htag, hend, hn⟩
  · rw [htag] at h
    cases h
    exact Or.inl rfl
  · rw [htag] at h
    obtain ⟨_, _, h⟩ := exists_of_bind_eq_ok h
    cases h
    exact Or.inr (Or.inl ⟨n, rfl, hname, hn⟩)
  · rw [htag] at h
    obtain ⟨_, _, h⟩ := exists_of_bind_eq_ok h
    refine Or.inr (Or.inr ⟨hend, ?_⟩)
    split at h <;> cases h <;> exact fun _ heq => Option.some.inj heq ▸ hn

/-- A construct lies within the text. -/
theorem length_le_of_construct {t : Text} {k : Construct} (h : construct t = .ok k) (ht : t ≠ [])
    {n : Nat} (hn : k.length? = some n) : n ≤ t.length := by
  cases found_of_construct h ht with
  | incomplete => cases hn
  | sign =>
    cases hn
    exact List.length_pos_iff.mpr ht
  | closed hsearch hm =>
    rename_i search? m
    cases hfound : search? (t.drop m) with
    | none =>
      rw [hfound] at hn
      cases hn
    | some i =>
      rw [hfound] at hn
      cases hn
      have hi := hsearch.le_length _ _ hfound
      rw [List.length_drop] at hi
      show i + m ≤ t.length
      omega
  | tag htag =>
    rcases startConstruct_cases htag ht with rfl | ⟨m, rfl, _, hm⟩ | ⟨_, hm⟩
    · cases hn
    · cases hn
      exact hm
    · exact hm n hn

/-- In a text without brackets nothing is complete but what is shown as it is. -/
theorem construct_of_not_mem {t : Text} {k : Construct} (h : construct t = .ok k) (ht : t ≠ [])
    (hend : '>' ∉ t) : k = .incomplete ∨ ∃ n, k = .literal n ∧ 0 < n := by
  cases found_of_construct h ht with
  | incomplete => exact Or.inl rfl
  | sign => exact Or.inr ⟨1, rfl, Nat.one_pos⟩
  | closed hsearch hm =>
    rw [hsearch.eq_none fun hin => hend ((List.drop_suffix _ t).subset hin)]
    exact Or.inl rfl
  | tag htag =>
    rcases startConstruct_cases htag ht with rfl | ⟨n, rfl, hn, _⟩ | ⟨hin, _⟩
    · exact Or.inl rfl
    · exact Or.inr ⟨n, rfl, Nat.zero_lt_of_lt hn⟩
    · exact absurd hin hend

/-! ## Constructs before the tag -/

section Append

variable {w t : Text}

/-- A marked section is not ended if only blanks follow its name, and else it is the same with the
tag behind it. -/
theorem markedSection_append {k : Construct} (hw : IsOpenTag w t)
    (h : markedSection (t ++ w) = .ok k) : markedSection t = .ok k := by
  have hdouble := stopsAtBracket_lengthThroughClose? endsAtBracket_doubleClose?
  have hsingle := stopsAtBracket_lengthThroughClose? endsAtBracket_singleClose?
  obtain ⟨z, rfl⟩ := List.head?_eq_some_iff.mp hw.head
  cases t with
  | nil => cases h
  | cons c t =>
    obtain ⟨hname, hbehind⟩ := takeWhile_append_of_head (p := isSectionChar)
      (forall_mem_head? hw.head (by decide)) (c :: t)
    have hlonger : ((c :: t ++ '<' :: z).dropWhile isSectionChar).all isBlank = false := by
      have hblank : ('<' :: z).all isBlank = false := rfl
      rw [hbehind, List.all_append, hblank, Bool.and_false]
    unfold markedSection at h ⊢
    rw [List.cons_append] at h
    simp only [Text.drop_length_takeWhile] at h ⊢
    rw [← List.cons_append, hlonger, hname, hdouble.append _ _ hw.notEnded,
      hsingle.append _ _ hw.notEnded, if_neg Bool.false_ne_true] at h
    by_cases hblank : ((c :: t).dropWhile isSectionChar).all isBlank = true
    · rw [hblank]
      have hnot : '>' ∉ c :: t := by
        rw [← List.takeWhile_append_dropWhile (p := isSectionChar) (l := c :: t),
          List.mem_append, not_or]
        refine ⟨fun hin => ?_, fun hin => ?_⟩
        · exact not_mem_takeWhile (by decide) _ hin
        · exact absurd (List.all_eq_true.mp hblank _ hin) (by decide)
      rw [hdouble.eq_none hnot, hsingle.eq_none hnot] at h
      split at h
      · cases h
      · rename_i halpha
        rw [if_neg halpha, if_pos rfl]
        split at h
        · exact h
        · split at h
          · exact h
          · cases h
    · rw [if_neg hblank]
      exact h

theorem construct_mark_append {rest : Text} {k : Construct}
    (hw : IsOpenTag w ('<' :: '!' :: rest)) (h : construct ('<' :: '!' :: (rest ++ w)) = .ok k) :
    construct ('<' :: '!' :: rest) = .ok k := by
  by_cases hcomment : ∃ more, rest = '-' :: '-' :: more
  · obtain ⟨more, rfl⟩ := hcomment
    have hsearch := stopsAtBracket_lengthThroughClose? endsAtBracket_commentClose?
    rw [List.cons_append, List.cons_append, construct, hsearch.append _ _ hw.notEnded] at h
    exact h
  by_cases hsection : ∃ more, rest = '[' :: more
  · obtain ⟨more, rfl⟩ := hsection
    have hmore : more ⊆ '<' :: '!' :: '[' :: more :=
      (List.suffix_append ['<', '!', '['] more).subset
    exact markedSection_append (hw.mono hmore) h
  · rw [not_exists] at hcomment hsection
    obtain ⟨z, rfl⟩ := List.head?_eq_some_iff.mp hw.head
    rw [construct_declaration, stopsAtBracket_lengthThrough?.append _ _ hw.notEnded] at h
    · rw [construct_declaration hcomment hsection]
      exact h
    · intro more heq
      rcases rest with _ | ⟨c, _ | ⟨d, rest⟩⟩
      · cases heq
      · cases heq
      · cases heq
        exact hcomment rest rfl
    · intro more heq
      cases rest with
      | nil => cases heq
      | cons c rest =>
        cases heq
        exact hsection rest rfl

/-- A start tag whose name goes on with the tag may be shown as far as its name goes. -/
theorem startConstruct_append {k : Construct} (hw : IsOpenTag w t) (ht : t.head? = some '<')
    (h : startConstruct (t ++ w) = .ok k) :
    startConstruct t = .ok k ∨ '>' ∉ t ∧ ∃ n, k = .literal n ∧ t.length < n := by
  rcases eq_or_ne (behindName t) [] with hnil | hne
  · have hself : startConstruct t = .ok .incomplete := by
      rw [startConstruct, startTag_of_behindName hnil]
    obtain ⟨z, rfl⟩ := List.head?_eq_some_iff.mp hw.head
    obtain ⟨rest, rfl⟩ := List.head?_eq_some_iff.mp ht
    have hname : rest.takeWhile isTagNameChar = rest := by
      have hwhole := List.takeWhile_append_dropWhile (p := isTagNameChar) (l := rest)
      rwa [show rest.dropWhile isTagNameChar = [] from hnil, List.append_nil] at hwhole
    have hend : '>' ∉ '<' :: rest := by
      rw [List.mem_cons, not_or, ← hname]
      exact ⟨by decide, not_mem_takeWhile (by decide) rest⟩
    have hlonger : ('<' :: rest).length ≤ (tagName ('<' :: rest ++ '<' :: z)).length := by
      show rest.length + 1 ≤ ((rest ++ '<' :: z).takeWhile isTagNameChar).length
      rw [List.takeWhile_append, hname, if_pos rfl, List.length_append,
        List.takeWhile_cons_of_pos (by decide), List.length_cons]
      omega
    rcases startConstruct_cases h (List.cons_ne_nil _ _) with rfl | ⟨n, rfl, hn, _⟩ | ⟨hin, _⟩
    · exact Or.inl hself
    · exact Or.inr ⟨hend, n, rfl, Nat.lt_of_le_of_lt hlonger hn⟩
    · rcases List.mem_append.mp hin with hin | hin
      · exact absurd hin hend
      · exact absurd hin hw.notEnded
  · left
    rwa [startConstruct, ← startTag_append hw hne]

/-- A construct is the same with the tag behind it, unless it is a start tag that goes on with
it. -/
theorem construct_append {k : Construct} (hw : IsOpenTag w t) (ht : t.head? = some '<')
    (h : construct (t ++ w) = .ok k) :
    construct t = .ok k ∨ '>' ∉ t ∧ ∃ n, k = .literal n ∧ t.length < n := by
  obtain ⟨z, rfl⟩ := List.head?_eq_some_iff.mp hw.head
  obtain ⟨rest, rfl⟩ := List.head?_eq_some_iff.mp ht
  have hbracket := stopsAtBracket_lengthThrough?.append
  cases rest with
  | nil =>
    left
    rw [List.cons_append, List.nil_append,
      construct_other (by decide) (by decide) (by decide) (by decide)] at h
    exact h
  | cons c rest =>
    rw [List.cons_append, List.cons_append] at h
    by_cases hslash : c = '/'
    · subst hslash
      left
      rw [construct, hbracket _ _ hw.notEnded] at h
      exact h
    by_cases hquestion : c = '?'
    · subst hquestion
      left
      rw [construct, hbracket _ _ hw.notEnded] at h
      exact h
    by_cases hmark : c = '!'
    · subst hmark
      exact Or.inl (construct_mark_append hw h)
    by_cases halpha : c.isAlpha = true
    · rw [construct_of_isAlpha halpha] at h ⊢
      exact startConstruct_append hw rfl h
    · left
      rw [Bool.not_eq_true] at halpha
      rw [construct_other hslash hmark hquestion halpha] at h ⊢
      exact h

end Append

end HitListing.Markup
