import HitListing.Proofs.Documents

/-!
# Where constructs are closed

What closes a construct ends with a bracket, whatever follows it
(`EndsAtBracket`).  So a construct that is closed within the beginning of a text is
closed at the same place in the whole text, and an ending without brackets closes
nothing (`StopsAtBracket`).
-/

namespace HitListing.Markup

/-! ## Closings behind blanks -/

/-- The closing behind the blanks at the front of a text. -/
def pastBlanks (close? : Text → Option Nat) (t : Text) : Option Nat :=
  (close? (t.drop (t.takeWhile isBlank).length)).map (· + (t.takeWhile isBlank).length)

theorem pastBlanks_cons (close? : Text → Option Nat) (c : Char) (t : Text) :
    pastBlanks close? (c :: t) =
      if isBlank c then (pastBlanks close? t).map (· + 1) else close? (c :: t) := by
  unfold pastBlanks
  by_cases hc : isBlank c = true
  · rw [if_pos hc, List.takeWhile_cons_of_pos hc, List.length_cons, List.drop_succ_cons,
      Option.map_map]
    rfl
  · rw [if_neg hc, List.takeWhile_cons_of_neg hc]
    exact Option.map_id'

/-! ## Searches that end at a bracket -/

/-- Whether what a search finds at the front of a text ends with a bracket, whatever follows. -/
def EndsAtBracket (close? : Text → Option Nat) : Prop :=
  ∀ t n, close? t = some n → ∃ front rest, t = front ++ '>' :: rest ∧ n = front.length + 1 ∧
    ∀ other, close? (front ++ '>' :: other) = some n

/-- Whether a search does not depend on an ending without brackets, and stays within the text. -/
structure StopsAtBracket (search? : Text → Option Nat) : Prop where
  nil : search? [] = none
  append : ∀ t w, '>' ∉ w → search? (t ++ w) = search? t
  le_length : ∀ t n, search? t = some n → n ≤ t.length

theorem StopsAtBracket.eq_none {search? : Text → Option Nat} (h : StopsAtBracket search?)
    {t : Text} (ht : '>' ∉ t) : search? t = none := by
  rw [← List.nil_append t, h.append [] t ht, h.nil]

/-- A bracket that stands in a text stands before an ending without brackets. -/
theorem exists_eq_append_cons {t w front rest : Text} (hw : '>' ∉ w)
    (h : t ++ w = front ++ '>' :: rest) : ∃ more, t = front ++ '>' :: more := by
  rcases List.append_eq_append_iff.mp h with ⟨between, _, hbetween⟩ | ⟨between, ht, hbetween⟩
  · refine absurd ?_ hw
    rw [hbetween]
    exact List.mem_append_right between List.mem_cons_self
  · cases between with
    | nil =>
      refine absurd ?_ hw
      rw [← List.nil_append w, ← hbetween]
      exact List.mem_cons_self
    | cons c between =>
      injection hbetween with hc _
      exact ⟨between, by rw [ht, hc]⟩

namespace EndsAtBracket

variable {close? : Text → Option Nat}

theorem stopsAtBracket (h : EndsAtBracket close?) : StopsAtBracket close? where
  nil := by
    cases hclose : close? [] with
    | none => rfl
    | some n =>
      obtain ⟨front, rest, heq, _⟩ := h [] n hclose
      exact absurd heq (by simp)
  append t w hw := by
    ext n
    constructor
    · intro hclose
      obtain ⟨front, rest, heq, _, hother⟩ := h _ n hclose
      obtain ⟨more, rfl⟩ := exists_eq_append_cons hw heq
      exact hother more
    · intro hclose
      obtain ⟨front, rest, rfl, _, hother⟩ := h t n hclose
      rw [List.append_assoc, List.cons_append]
      exact hother (rest ++ w)
  le_length t n hclose := by
    obtain ⟨front, rest, rfl, rfl, _⟩ := h t n hclose
    rw [List.length_append, List.length_cons]
    omega

/-- A closing that consists of a fixed beginning and another closing. -/
theorem behind {inner? : Text → Option Nat} (hinner : EndsAtBracket inner?) (start : Text)
    (hstart : ∀ t n, close? t = some n → start <+: t)
    (hclose : ∀ t, close? (start ++ t) = (inner? t).map (· + start.length)) :
    EndsAtBracket close? := by
  intro t n h
  obtain ⟨t, rfl⟩ := hstart t n h
  rw [hclose, Option.map_eq_some_iff] at h
  obtain ⟨m, hm, rfl⟩ := h
  obtain ⟨front, rest, rfl, rfl, hother⟩ := hinner t m hm
  refine ⟨start ++ front, rest, (List.append_assoc ..).symm, ?_, fun other => ?_⟩
  · rw [List.length_append]
    omega
  · rw [List.append_assoc, hclose, hother]
    rfl

theorem pastBlanks (h : EndsAtBracket close?) : EndsAtBracket (Markup.pastBlanks close?) := by
  have hend : isBlank '>' = false := by decide
  intro t n hclose
  induction t generalizing n with
  | nil =>
    obtain ⟨m, hm, _⟩ := Option.map_eq_some_iff.mp hclose
    have hnil : close? [] = some m := hm
    rw [h.stopsAtBracket.nil] at hnil
    cases hnil
  | cons c t ih =>
    rw [pastBlanks_cons] at hclose
    by_cases hc : isBlank c = true
    · rw [if_pos hc, Option.map_eq_some_iff] at hclose
      obtain ⟨m, hm, rfl⟩ := hclose
      obtain ⟨front, rest, rfl, rfl, hother⟩ := ih m hm
      refine ⟨c :: front, rest, rfl, rfl, fun other => ?_⟩
      rw [List.cons_append, pastBlanks_cons, if_pos hc, hother]
      rfl
    · rw [if_neg hc] at hclose
      obtain ⟨front, rest, heq, hn, hother⟩ := h _ n hclose
      refine ⟨front, rest, heq, hn, fun other => ?_⟩
      rw [← hother other]
      cases front with
      | nil => rw [List.nil_append, pastBlanks_cons, if_neg (by simp [hend])]
      | cons d front =>
        injection heq with hd _
        rw [List.cons_append, pastBlanks_cons, ← hd, if_neg hc]

end EndsAtBracket

/-! ## The closings -/

/-- A bracket at the front of a text. -/
def bracket? (t : Text) : Option Nat :=
  if t.head? = some '>' then some 1 else none

theorem endsAtBracket_bracket? : EndsAtBracket bracket? := by
  intro t n h
  unfold bracket? at h
  split at h
  · rename_i hhead
    obtain ⟨rest, rfl⟩ := List.head?_eq_some_iff.mp hhead
    cases h
    exact ⟨[], rest, rfl, rfl, fun _ => rfl⟩
  · cases h

theorem endsAtBracket_blanksAndEnd? : EndsAtBracket blanksAndEnd? := by
  have heq : blanksAndEnd? = pastBlanks bracket? := by
    funext t
    unfold blanksAndEnd? pastBlanks bracket?
    simp only
    split
    · exact congrArg some (Nat.add_comm _ 1)
    · rfl
  rw [heq]
  exact endsAtBracket_bracket?.pastBlanks

theorem endsAtBracket_commentClose? : EndsAtBracket commentClose? := by
  refine endsAtBracket_blanksAndEnd?.behind ['-', '-'] (fun t n h => ?_) fun _ => rfl
  unfold commentClose? at h
  split at h
  · exact ⟨_, rfl⟩
  · cases h

theorem endsAtBracket_singleClose? : EndsAtBracket singleClose? := by
  refine endsAtBracket_blanksAndEnd?.behind [']'] (fun t n h => ?_) fun _ => rfl
  unfold singleClose? at h
  split at h
  · exact ⟨_, rfl⟩
  · cases h

theorem endsAtBracket_doubleClose? : EndsAtBracket doubleClose? := by
  refine endsAtBracket_singleClose?.pastBlanks.behind [']'] (fun t n h => ?_) fun t => ?_
  · unfold doubleClose? at h
    split at h
    · exact ⟨_, rfl⟩
    · cases h
  · unfold pastBlanks
    rw [Option.map_map]
    rfl

/-- The end of an end tag behind its blanks: the name, and a bracket. -/
def nameAndEnd? (name t : Text) : Option Nat :=
  if (t.take name.length).length = name.length ∧
      (name.zip (t.take name.length)).all fun (a, b) => countsAs a b then
    (blanksAndEnd? (t.drop name.length)).map (· + name.length)
  else none

theorem endsAtBracket_nameAndEnd? (name : Text) : EndsAtBracket (nameAndEnd? name) := by
  intro t n h
  unfold nameAndEnd? at h
  split at h
  · rename_i hname
    obtain ⟨m, hm, rfl⟩ := Option.map_eq_some_iff.mp h
    obtain ⟨front, rest, heq, rfl, hother⟩ := endsAtBracket_blanksAndEnd? _ m hm
    refine ⟨t.take name.length ++ front, rest, ?_, ?_, fun other => ?_⟩
    · rw [List.append_assoc, ← heq, List.take_append_drop]
    · rw [List.length_append, hname.1]
      omega
    · have htake (more : Text) :
          (t.take name.length ++ more).take name.length = t.take name.length :=
        List.take_left' hname.1
      have hdrop (more : Text) : (t.take name.length ++ more).drop name.length = more :=
        List.drop_left' hname.1
      rw [List.append_assoc, nameAndEnd?, htake, hdrop, if_pos hname, hother]
      rfl
  · cases h

theorem endsAtBracket_endTag? (name : Text) : EndsAtBracket (endTag? name) := by
  refine (endsAtBracket_nameAndEnd? name).pastBlanks.behind ['<', '/'] (fun t n h => ?_)
    fun t => ?_
  · unfold endTag? at h
    split at h
    · exact ⟨_, rfl⟩
    · cases h
  · show endTag? name ('<' :: '/' :: t) = _
    unfold endTag? pastBlanks nameAndEnd?
    simp only
    split
    · rw [List.drop_drop, Option.map_map, Option.map_map]
      congr 1
      funext n
      show n + 2 + _ + name.length = n + name.length + _ + 2
      omega
    · rfl

/-! ## Searches for a closing -/

theorem stopsAtBracket_lengthThrough? : StopsAtBracket (lengthThrough? '>') := by
  refine EndsAtBracket.stopsAtBracket fun t n h => ?_
  by_cases hmem : '>' ∈ t
  · obtain ⟨front, rest, rfl, hfront⟩ := List.eq_append_cons_of_mem hmem
    rw [lengthThrough?_append_cons hfront] at h
    cases h
    exact ⟨front, rest, rfl, rfl, lengthThrough?_append_cons hfront⟩
  · rw [lengthThrough?, findIdx?_eq_none_iff.mpr hmem] at h
    cases h

theorem stopsAtBracket_lengthThroughClose? {close? : Text → Option Nat}
    (h : EndsAtBracket close?) : StopsAtBracket (lengthThroughClose? close?) where
  nil := rfl
  append t w hw := by
    induction t with
    | nil =>
      show lengthThroughClose? close? w = none
      induction w with
      | nil => rfl
      | cons c w ih =>
        rw [lengthThroughClose?, h.stopsAtBracket.eq_none hw]
        simp only
        rw [ih fun hin => hw (List.mem_cons_of_mem c hin)]
        rfl
    | cons c t ih =>
      rw [List.cons_append, lengthThroughClose?, ← List.cons_append,
        h.stopsAtBracket.append _ w hw, ih]
      rfl
  le_length t n hclose := by
    induction t generalizing n with
    | nil => cases hclose
    | cons c t ih =>
      rw [lengthThroughClose?] at hclose
      split at hclose
      · rename_i hfound
        cases hclose
        exact h.stopsAtBracket.le_length _ _ hfound
      · obtain ⟨m, hm, rfl⟩ := Option.map_eq_some_iff.mp hclose
        exact Nat.succ_le_succ (ih m hm)

theorem findEndTag?_eq_none {w : Text} (hw : '>' ∉ w) (name : Text) :
    findEndTag? name w = none := by
  induction w with
  | nil => rfl
  | cons c w ih =>
    rw [findEndTag?, (endsAtBracket_endTag? name).stopsAtBracket.eq_none hw]
    simp only
    rw [ih fun hin => hw (List.mem_cons_of_mem c hin)]
    rfl

/-- An ending without brackets brings no end tag. -/
theorem findEndTag?_append {w : Text} (hw : '>' ∉ w) (name t : Text) :
    findEndTag? name (t ++ w) = findEndTag? name t := by
  induction t with
  | nil => exact findEndTag?_eq_none hw name
  | cons c t ih =>
    rw [List.cons_append, findEndTag?, ← List.cons_append,
      (endsAtBracket_endTag? name).stopsAtBracket.append _ w hw, ih]
    rfl

theorem findEndTag?_le_length {name t : Text} {start length : Nat}
    (h : findEndTag? name t = some (start, length)) : start + length ≤ t.length := by
  induction t generalizing start with
  | nil => cases h
  | cons c t ih =>
    rw [findEndTag?] at h
    split at h
    · rename_i hfound
      cases h
      rw [Nat.zero_add]
      exact (endsAtBracket_endTag? name).stopsAtBracket.le_length _ _ hfound
    · obtain ⟨⟨i, n⟩, hfound, heq⟩ := Option.map_eq_some_iff.mp h
      cases heq
      have := ih hfound
      rw [List.length_cons]
      omega

end HitListing.Markup
