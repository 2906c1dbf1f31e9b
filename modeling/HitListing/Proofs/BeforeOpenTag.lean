import HitListing.Proofs.Constructs
import HitListing.Proofs.StrippedLength

/-!
# Markup before a tag that is not ended

How the markup before a tag is read when the tag begins at the end of the text and is
not ended (`IsOpenTag`).  Each step before it is the same as without it, up to the
last one (`StepBefore`).  So the tag shows something, unless it lies in raw text,
which is lost up to the end of the text (`stripAfter_append`).
-/

namespace HitListing.Markup

/-! ## Steps -/

section Append

variable {w t : Text}

/-- What is shown of a construct that is not complete is the same with the tag behind it, unless it
is all that stands before the tag. -/
theorem incompleteLength_append {c : Char} {rest : Text} (hw : IsOpenTag w (c :: rest)) :
    incompleteLength (c :: rest ++ w) = incompleteLength (c :: rest) ∧
        incompleteLength (c :: rest) ≤ (c :: rest).length ∨
      '>' ∉ rest ∧ '<' ∉ rest ∧ incompleteLength (c :: rest) = 1 ∧
        incompleteLength (c :: rest ++ w) = (c :: rest).length := by
  obtain ⟨z, rfl⟩ := List.head?_eq_some_iff.mp hw.head
  have hend : (rest ++ '<' :: z).findIdx? (· = '>') = rest.findIdx? (· = '>') := by
    rw [List.findIdx?_append, findIdx?_eq_none_iff.mpr hw.notEnded]
    exact Option.or_none
  have hopen : (rest ++ '<' :: z).findIdx? (· = '<') =
      (rest.findIdx? (· = '<')).or (some rest.length) := by
    have hfirst : ('<' :: z).findIdx? (· = '<') = some 0 := rfl
    rw [List.findIdx?_append, hfirst, Option.map_some, Nat.zero_add]
  have hshort {d : Char} {n : Nat} (hsome : rest.findIdx? (· = d) = some n) : n < rest.length :=
    (List.findIdx?_eq_some_iff_findIdx_eq.mp hsome).1
  unfold incompleteLength
  rw [List.cons_append]
  simp only [List.drop_succ_cons, List.drop_zero, List.length_cons]
  rw [hend, hopen]
  cases hfound : rest.findIdx? (· = '>') with
  | some n =>
    have := hshort hfound
    exact Or.inl ⟨rfl, Nat.succ_le_succ this⟩
  | none =>
    cases hnext : rest.findIdx? (· = '<') with
    | some n =>
      have := hshort hnext
      exact Or.inl ⟨rfl, Nat.succ_le_succ (Nat.le_of_lt this)⟩
    | none => exact Or.inr ⟨findIdx?_eq_none_iff.mp hfound, findIdx?_eq_none_iff.mp hnext, rfl, rfl⟩

/-- How a step before the tag relates to the step at the same place in the text without the tag. -/
inductive StepBefore (w : Text) (mode : Mode) (t : Text) (s : Step) : Prop where
  /-- It is the same. -/
  | same (hstep : step mode t = .ok s) (hlength : s.length ≤ t.length)
  /-- Raw text is lost up to the end of the text. -/
  | lost {name : Text} (hmode : mode = .raw name) (hnone : findEndTag? name t = none)
  /-- What stands before the tag is not complete, and is shown. -/
  | last (hmode : mode = .markup) (hend : '>' ∉ t) (hnext : s.length = t.length ∧ s.mode = .markup)
    (hshown : strip t = .ok s.shown)
  /-- A start tag goes on with the tag, and is shown. -/
  | merged (hmode : mode = .markup) (hend : '>' ∉ t) (hshown : t.length < s.shown.length)

theorem rawStep_append (hw : IsOpenTag w t) (name : Text) :
    StepBefore w (.raw name) t (rawStep name (t ++ w)) := by
  have hsame := findEndTag?_append hw.notEnded name t
  cases hfound : findEndTag? name t with
  | none => exact .lost rfl hfound
  | some found =>
    obtain ⟨start, length⟩ := found
    have hlength := findEndTag?_le_length hfound
    have hstep : rawStep name (t ++ w) = rawStep name t := by
      have htag : ((t ++ w).drop start).take length = (t.drop start).take length := by
        rw [List.drop_append_of_le_length (by omega), List.take_append_of_le_length]
        rw [List.length_drop]
        omega
      rw [rawStep, rawStep, hsame, hfound]
      simp only
      rw [htag, List.take_append_of_le_length (by omega),
        List.take_append_of_le_length hlength]
    refine .same (congrArg Except.ok hstep.symm) ?_
    rw [hstep, rawStep, hfound]
    simp only
    split <;> exact hlength

/-- What is not complete and stands right before the tag is shown as it is without it. -/
theorem strip_incomplete {rest shown : Text}
    (hconstruct : construct ('<' :: rest) = .ok .incomplete) (hopen : '<' ∉ rest)
    (hlength : incompleteLength ('<' :: rest) = 1)
    (h : unescape ('<' :: rest) = .ok shown) : strip ('<' :: rest) = .ok shown := by
  rw [unescape_cons_of_ne (by decide)] at h
  obtain ⟨more, hmore, h⟩ := exists_of_bind_eq_ok h
  cases h
  have hstep : step .markup ('<' :: rest) = .ok ⟨['<'], 1, .markup⟩ := by
    show construct ('<' :: rest) >>= _ = _
    rw [hconstruct]
    show unescape (('<' :: rest).take (incompleteLength ('<' :: rest))) >>= _ = _
    rw [hlength]
    rfl
  have hrest : strip rest = .ok more := by
    have hrun := @strip_run rest [] hopen nofun
    rw [List.append_nil, hmore] at hrun
    rw [hrun]
    show Except.ok (more ++ []) = _
    rw [List.append_nil]
  rw [strip, stripAfter_cons, hstep]
  show strip rest >>= _ = _
  rw [hrest]
  rfl

/-- Text that is no tag ends where the tag begins. -/
theorem stepBefore_of_text {s : Step} (hw : IsOpenTag w t) (ht : t ≠ [])
    (hopen : t.head? ≠ some '<') (h : step .markup (t ++ w) = .ok s) :
    StepBefore w .markup t s := by
  obtain ⟨c, rest, rfl⟩ := List.exists_cons_of_ne_nil ht
  have hrun := (takeWhile_append_of_head (p := fun c => decide (c ≠ '<'))
    (forall_mem_head? hw.head (by decide)) (c :: rest)).1
  rw [step_text (t := c :: rest ++ w) hopen, hrun, ← step_text hopen] at h
  refine .same h ?_
  rw [step_text hopen] at h
  obtain ⟨shown, _, h⟩ := exists_of_bind_eq_ok h
  cases h
  exact (List.takeWhile_prefix _).length_le

theorem stepBefore_of_incomplete {rest : Text} {s : Step} (hw : IsOpenTag w ('<' :: rest))
    (hsame : construct ('<' :: rest) = .ok .incomplete)
    (hwhole : construct ('<' :: rest ++ w) = .ok .incomplete)
    (h : step .markup ('<' :: rest ++ w) = .ok s) : StepBefore w .markup ('<' :: rest) s := by
  have hstep {t : Text} (ht : construct ('<' :: t) = .ok .incomplete) :
      step .markup ('<' :: t) =
        unescape (('<' :: t).take (incompleteLength ('<' :: t))) >>= fun shown =>
          .ok ⟨shown, incompleteLength ('<' :: t), .markup⟩ := by
    show construct ('<' :: t) >>= _ = _
    rw [ht]
    rfl
  rw [List.cons_append, hstep (t := rest ++ w) hwhole, ← List.cons_append] at h
  rcases incompleteLength_append hw with ⟨heq, hle⟩ | ⟨hend, hrest, hone, hall⟩
  · rw [heq, List.take_append_of_le_length hle, ← hstep hsame] at h
    refine .same h ?_
    rw [hstep hsame] at h
    obtain ⟨shown, _, h⟩ := exists_of_bind_eq_ok h
    cases h
    exact hle
  · rw [hall, List.take_left' rfl] at h
    obtain ⟨shown, hshown, h⟩ := exists_of_bind_eq_ok h
    cases h
    refine .last rfl ?_ ⟨rfl, rfl⟩ (strip_incomplete hsame hrest hone hshown)
    rw [List.mem_cons, not_or]
    exact ⟨by decide, hend⟩

theorem step_append {mode : Mode} {s : Step} (hw : IsOpenTag w t) (ht : t ≠ [])
    (h : step mode (t ++ w) = .ok s) : StepBefore w mode t s := by
  cases mode with
  | raw name =>
    cases h
    exact rawStep_append hw name
  | markup =>
    by_cases hopen : t.head? = some '<'
    · obtain ⟨rest, rfl⟩ := List.head?_eq_some_iff.mp hopen
      have hwhole := h
      obtain ⟨k, hk, h⟩ := exists_of_bind_eq_ok h
      rcases construct_append hw hopen hk with hsame | ⟨hend, n, rfl, hn⟩
      · have hstep : step .markup ('<' :: rest) = construct ('<' :: rest) >>= _ := rfl
        rw [hsame] at hstep
        cases k with
        | incomplete => exact stepBefore_of_incomplete hw hsame hk hwhole
        | dropped n =>
          cases h
          exact .same hstep (length_le_of_construct hsame ht rfl)
        | opensRaw name n =>
          cases h
          exact .same hstep (length_le_of_construct hsame ht rfl)
        | literal n =>
          have hlength := length_le_of_construct hsame ht rfl
          cases h
          rw [List.take_append_of_le_length hlength]
          exact .same hstep hlength
      · cases h
        have hlength := length_le_of_construct hk (List.append_ne_nil_of_left_ne_nil ht w) rfl
        refine .merged rfl hend ?_
        show _ < (('<' :: rest ++ w).take n).length
        rwa [List.length_take_of_le hlength]
    · exact stepBefore_of_text hw ht hopen h

end Append

/-! ## The whole text -/

/-- Whether reading a text comes to its end within raw text. -/
def EndsRaw (mode : Mode) (t : Text) : Prop :=
  ∃ name, Reaches mode t (.raw name) []

theorem endsRaw_nil (mode : Mode) : EndsRaw mode [] ↔ ∃ name, mode = .raw name := by
  constructor
  · rintro ⟨name, h⟩
    cases h
    exact ⟨name, rfl⟩
  · rintro ⟨name, rfl⟩
    exact ⟨name, .here _ _⟩

theorem endsRaw_cons {mode : Mode} {c : Char} {rest : Text} {s : Step}
    (hstep : step mode (c :: rest) = .ok s) :
    EndsRaw mode (c :: rest) ↔ EndsRaw s.mode (rest.drop (s.length - 1)) := by
  constructor
  · rintro ⟨name, h⟩
    cases h with
    | next hother hnext =>
      rw [hstep] at hother
      cases hother
      exact ⟨name, hnext⟩
  · rintro ⟨name, h⟩
    exact ⟨name, .next hstep h⟩

/-- A text without brackets opens no raw text. -/
theorem mode_eq_of_not_mem {t : Text} {s : Step} (ht : t ≠ []) (hend : '>' ∉ t)
    (h : step .markup t = .ok s) : s.mode = .markup := by
  by_cases hopen : t.head? = some '<'
  · obtain ⟨rest, rfl⟩ := List.head?_eq_some_iff.mp hopen
    obtain ⟨k, hk, h⟩ := exists_of_bind_eq_ok h
    rcases construct_of_not_mem hk ht hend with rfl | ⟨n, rfl, _⟩
    · obtain ⟨shown, _, h⟩ := exists_of_bind_eq_ok h
      cases h
      rfl
    · cases h
      rfl
  · rw [step_text hopen] at h
    obtain ⟨shown, _, h⟩ := exists_of_bind_eq_ok h
    cases h
    rfl

theorem not_endsRaw_of_not_mem {t : Text} (hend : '>' ∉ t) : ¬EndsRaw .markup t := by
  have hreaches {mode last : Mode} {t u : Text} (h : Reaches mode t last u) :
      mode = .markup → '>' ∉ t → last = .markup := by
    induction h with
    | here =>
      intro hmode _
      exact hmode
    | next hstep _ ih =>
      intro hmode hend
      subst hmode
      refine ih (mode_eq_of_not_mem (List.cons_ne_nil _ _) hend hstep) fun hin => hend ?_
      exact List.mem_cons_of_mem _ ((List.drop_suffix _ _).subset hin)
  rintro ⟨name, h⟩
  exact absurd (hreaches h rfl hend) nofun

/-- Raw text without an end tag is lost. -/
theorem stripAfter_raw {name t : Text} (h : findEndTag? name t = none) :
    EndsRaw (.raw name) t ∧ stripAfter 0 (.raw name) t = .ok [] := by
  cases t with
  | nil => exact ⟨(endsRaw_nil _).mpr ⟨name, rfl⟩, rfl⟩
  | cons c rest =>
    have hstep : step (.raw name) (c :: rest) = .ok ⟨[], rest.length + 1, .raw name⟩ := by
      show Except.ok (rawStep name (c :: rest)) = _
      rw [rawStep, h]
      rfl
    have hdrop : rest.drop (rest.length + 1 - 1) = [] := List.drop_length
    rw [endsRaw_cons hstep, stripAfter_cons, hstep]
    show EndsRaw (.raw name) (rest.drop (rest.length + 1 - 1)) ∧
      stripAfter 0 (.raw name) (rest.drop (rest.length + 1 - 1)) >>= _ = _
    rw [hdrop]
    exact ⟨(endsRaw_nil _).mpr ⟨name, rfl⟩, rfl⟩

/-- A tag that is not ended shows something. -/
theorem strip_ne_nil {w t u : Text} (hw : IsOpenTag w t) (h : strip w = .ok u) : u ≠ [] := by
  obtain ⟨z, rfl⟩ := List.head?_eq_some_iff.mp hw.head
  rw [strip, stripAfter_cons] at h
  obtain ⟨s, hs, h⟩ := exists_of_bind_eq_ok h
  obtain ⟨more, _, h⟩ := exists_of_bind_eq_ok h
  cases h
  obtain ⟨k, hk, hs⟩ := exists_of_bind_eq_ok hs
  have hshown : s.shown ≠ [] := by
    rcases construct_of_not_mem hk (List.cons_ne_nil _ _) hw.notEnded with rfl | ⟨n, rfl, hn⟩
    · obtain ⟨shown, hshown, hs⟩ := exists_of_bind_eq_ok hs
      cases hs
      obtain ⟨n, hlength⟩ : ∃ n, incompleteLength ('<' :: z) = n + 1 := by
        unfold incompleteLength
        simp only
        split
        · exact ⟨_, rfl⟩
        · exact ⟨_, rfl⟩
        · exact ⟨0, rfl⟩
      rw [hlength, List.take_succ_cons, unescape_cons_of_ne (by decide)] at hshown
      obtain ⟨_, _, hshown⟩ := exists_of_bind_eq_ok hshown
      cases hshown
      exact List.cons_ne_nil _ _
    · cases hs
      obtain ⟨n, rfl⟩ := Nat.exists_eq_succ_of_ne_zero (Nat.pos_iff_ne_zero.mp hn)
      exact List.cons_ne_nil _ _
  exact List.append_ne_nil_of_left_ne_nil hshown more

/-- A tag that is not ended, at the end of a text, is lost in raw text, and else shows more than
the text before it. -/
theorem stripAfter_append {w t u : Text} {mode : Mode} (hw : IsOpenTag w t)
    (h : stripAfter 0 mode (t ++ w) = .ok u) :
    EndsRaw mode t ∧ stripAfter 0 mode t = .ok u ∨
      ¬EndsRaw mode t ∧ ∀ v, stripAfter 0 mode t = .ok v → v.length < u.length := by
  match t with
  | [] =>
    cases mode with
    | markup =>
      refine Or.inr ⟨not_endsRaw_of_not_mem nofun, fun v hv => ?_⟩
      cases hv
      exact List.length_pos_iff.mpr (strip_ne_nil hw h)
    | raw name =>
      refine Or.inl ⟨(stripAfter_raw rfl).1, ?_⟩
      rw [List.nil_append, (stripAfter_raw (findEndTag?_eq_none hw.notEnded name)).2] at h
      exact h
  | c :: rest =>
    have hwhole := h
    rw [List.cons_append, stripAfter_cons] at h
    obtain ⟨s, hs, h⟩ := exists_of_bind_eq_ok h
    obtain ⟨more, hmore, h⟩ := exists_of_bind_eq_ok h
    cases h
    cases step_append hw nofun hs with
    | same hstep hlength =>
      have hdrop : (rest ++ w).drop (s.length - 1) = rest.drop (s.length - 1) ++ w := by
        rw [List.drop_append_of_le_length]
        rw [List.length_cons] at hlength
        omega
      have hrest := hw.mono ((List.drop_suffix (s.length - 1) rest).trans
        (List.suffix_cons c rest)).subset
      rw [hdrop] at hmore
      rw [endsRaw_cons hstep, stripAfter_cons, hstep]
      rcases stripAfter_append hrest hmore with ⟨hraw, hsame⟩ | ⟨hraw, hless⟩
      · refine Or.inl ⟨hraw, ?_⟩
        show stripAfter 0 s.mode _ >>= _ = _
        rw [hsame]
        rfl
      · refine Or.inr ⟨hraw, fun v hv => ?_⟩
        have hv : stripAfter 0 s.mode _ >>= _ = .ok v := hv
        obtain ⟨shown, hshown, hv⟩ := exists_of_bind_eq_ok hv
        cases hv
        have := hless shown hshown
        rw [List.length_append, List.length_append]
        omega
    | lost hmode hnone =>
      rename_i name
      subst hmode
      obtain ⟨hraw, hnothing⟩ := stripAfter_raw hnone
      have hnone' := (findEndTag?_append hw.notEnded name (c :: rest)).trans hnone
      rw [(stripAfter_raw hnone').2] at hwhole
      exact Or.inl ⟨hraw, hnothing.trans hwhole⟩
    | last hmode hend hnext hshown =>
      subst hmode
      refine Or.inr ⟨not_endsRaw_of_not_mem hend, fun v hv => ?_⟩
      obtain rfl := Except.ok.inj (hshown.symm.trans hv)
      have hdrop : (rest ++ w).drop (s.length - 1) = w := by
        rw [hnext.1]
        exact List.drop_left
      rw [hdrop, hnext.2] at hmore
      have hpos := List.length_pos_iff.mpr (strip_ne_nil hw hmore)
      rw [List.length_append]
      omega
    | merged hmode hend hshown =>
      subst hmode
      refine Or.inr ⟨not_endsRaw_of_not_mem hend, fun v hv => ?_⟩
      have := length_stripAfter_le hv
      rw [List.length_append]
      omega
termination_by t.length
decreasing_by
  simp only [List.length_drop, List.length_cons]
  omega

end HitListing.Markup
