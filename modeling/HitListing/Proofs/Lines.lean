import HitListing.Proofs.Cutting
import HitListing.Proofs.Words
import HitListing.Text.Lines

/-!
# How two rules cut a text into lines

A file that has been read holds no carriage return, and its lines end at line
feeds alone.  The index cuts at more characters, but it cuts there as well:
the lines of the index are those of each line of the file in turn
(`indexLines_eq_flatMap`), and a line of the file without one of the further
breaks is one line of the index (`indexLines_of_isPlain`).
-/

namespace HitListing

/-- Whether only the index ends a line at the character. -/
def isExtraBreak (c : Char) : Bool :=
  isLineBreak c && c ≠ '\n' && c ≠ '\r'

/-- Whether the index sees no break within a line of a file. -/
def IsPlain (line : Text) : Prop :=
  ∀ c ∈ line, isExtraBreak c = false

instance (line : Text) : Decidable (IsPlain line) :=
  List.decidableBAll (fun c => isExtraBreak c = false) line

/-- The lines of a file that reads as the text, each without its end. -/
def fileLines (t : Text) : List Text :=
  (feedLines t).map dropNewline

/-! ## Line breaks and words -/

/-- A line break belongs to no word. -/
theorem isWordChar_of_isLineBreak {c : Char} (h : isLineBreak c = true) :
    isWordChar c = false := by
  simp only [isLineBreak, Bool.or_eq_true, decide_eq_true_eq] at h
  rcases h with ((((((((rfl | rfl) | rfl) | rfl) | rfl) | rfl) | rfl) | rfl) | rfl) | rfl <;>
    decide +kernel

theorem isLineBreak_of_isExtraBreak {c : Char} (h : isExtraBreak c = true) :
    isLineBreak c = true := by
  simp only [isExtraBreak, Bool.and_eq_true] at h
  exact h.1.1

/-! ## Reading a file -/

theorem length_normalizeNewlines_le (t : Text) : (normalizeNewlines t).length ≤ t.length := by
  fun_induction normalizeNewlines t with
  | case1 => exact Nat.le_refl 0
  | case2 rest ih =>
    simp only [List.length_cons]
    omega
  | case3 c rest _ ih =>
    simp only [List.length_cons]
    omega

/-- A text that has been read holds no carriage return. -/
theorem not_mem_normalizeNewlines (t : Text) : '\r' ∉ normalizeNewlines t := by
  fun_induction normalizeNewlines t with
  | case1 => simp
  | case2 rest ih => simpa using ih
  | case3 c rest _ ih =>
    rw [List.mem_cons, not_or]
    refine ⟨?_, ih⟩
    split
    · decide
    · rename_i hc
      exact fun h => hc h.symm

theorem normalizeNewlines_cons {c : Char} (hc : c ≠ '\r') (t : Text) :
    normalizeNewlines (c :: t) = c :: normalizeNewlines t := by
  rw [normalizeNewlines.eq_3 c t fun _ h _ => hc h, if_neg hc]

theorem normalizeNewlines_append_of_not_mem {a : Text} (ha : '\r' ∉ a) (b : Text) :
    normalizeNewlines (a ++ b) = a ++ normalizeNewlines b := by
  induction a with
  | nil => rfl
  | cons c a ih =>
    rw [List.mem_cons, not_or] at ha
    rw [List.cons_append, normalizeNewlines_cons (Ne.symm ha.1), ih ha.2, List.cons_append]

/-- Line ends on both sides of a place are normalized apart, unless it lies within one. -/
theorem normalizeNewlines_append {a b : Text}
    (h : a.getLast? = some '\r' → b.head? ≠ some '\n') :
    normalizeNewlines (a ++ b) = normalizeNewlines a ++ normalizeNewlines b := by
  fun_induction normalizeNewlines a with
  | case1 => rfl
  | case2 rest ih =>
    have hrest : rest.getLast? = some '\r' → b.head? ≠ some '\n' := by
      intro hlast
      refine h ?_
      rw [List.getLast?_cons, List.getLast?_cons, hlast]
      rfl
    exact congrArg ('\n' :: ·) (ih hrest)
  | case3 c rest hpair ih =>
    have hrest : rest.getLast? = some '\r' → b.head? ≠ some '\n' := by
      intro hlast
      refine h ?_
      rw [List.getLast?_cons, hlast]
      rfl
    have hnext : ∀ more, c = '\r' → rest ++ b = '\n' :: more → False := by
      rintro more rfl hfeed
      cases rest with
      | nil => exact h rfl (by rw [List.nil_append] at hfeed; rw [hfeed]; rfl)
      | cons d rest =>
        injection hfeed with hd _
        exact hpair rest rfl (by rw [hd])
    rw [List.cons_append, normalizeNewlines.eq_3 c (rest ++ b) hnext, ih hrest]
    rfl

/-! ## The lines of a file -/

/-- A line that ends at a line feed comes before the lines of what follows. -/
theorem feedLines_append_feed {body : Text} (hbody : '\n' ∉ body) (rest : Text) :
    feedLines (body ++ '\n' :: rest) = (body ++ ['\n']) :: feedLines rest := by
  induction body with
  | nil => simp [feedLines]
  | cons c body ih =>
    rw [List.mem_cons, not_or] at hbody
    have hc : ¬c = '\n' := fun h => hbody.1 h.symm
    rw [List.cons_append, feedLines, if_neg hc, ih hbody.2]
    rfl

/-- A text without a line feed is one line. -/
theorem feedLines_of_not_mem {body : Text} (hne : body ≠ []) (hbody : '\n' ∉ body) :
    feedLines body = [body] := by
  induction body with
  | nil => exact absurd rfl hne
  | cons c body ih =>
    rw [List.mem_cons, not_or] at hbody
    have hc : ¬c = '\n' := fun h => hbody.1 h.symm
    rw [feedLines, if_neg hc]
    cases body with
    | nil => rfl
    | cons d body => rw [ih (by simp) hbody.2]

/-- Induction on the lines of a file: nothing, a last line without a line feed, or a line
that ends at one. -/
theorem feedLines_induction {motive : Text → Prop} (nil : motive [])
    (last : ∀ body, body ≠ [] → '\n' ∉ body → motive body)
    (line : ∀ body rest, '\n' ∉ body → motive rest → motive (body ++ '\n' :: rest))
    (t : Text) : motive t := by
  by_cases hfeed : '\n' ∈ t
  · obtain ⟨body, rest, heq, hbody⟩ := List.eq_append_cons_of_mem hfeed
    rw [heq]
    exact line body rest hbody (feedLines_induction nil last line rest)
  · by_cases hne : t = []
    · exact hne ▸ nil
    · exact last t hne hfeed
termination_by t.length
decreasing_by
  rw [heq, List.length_append, List.length_cons]
  omega

/-- A line that has no end stays as it is. -/
theorem dropNewline_eq_self {body : Text} (hfeed : '\n' ∉ body) (hreturn : '\r' ∉ body) :
    dropNewline body = body := by
  refine Text.dropEndWhile_eq_self fun c hc => ?_
  have hmem : c ∈ body := List.mem_of_getLast? hc
  rw [Bool.or_eq_false_iff, decide_eq_false_iff_not, decide_eq_false_iff_not]
  exact ⟨fun h => hfeed (h ▸ hmem), fun h => hreturn (h ▸ hmem)⟩

/-- A line without its line feed. -/
theorem dropNewline_append_feed {body : Text} (hfeed : '\n' ∉ body) (hreturn : '\r' ∉ body) :
    dropNewline (body ++ ['\n']) = body := by
  have hdrop : dropNewline (body ++ ['\n']) = dropNewline body :=
    Text.dropEndWhile_append_singleton body (by decide)
  rw [hdrop, dropNewline_eq_self hfeed hreturn]

theorem fileLines_append_feed {body : Text} (hfeed : '\n' ∉ body) (hreturn : '\r' ∉ body)
    (rest : Text) : fileLines (body ++ '\n' :: rest) = body :: fileLines rest := by
  rw [fileLines, feedLines_append_feed hfeed, List.map_cons, dropNewline_append_feed hfeed hreturn]
  rfl

/-- What ends a line belongs to no word. -/
theorem words_dropNewline (line : Text) : words (dropNewline line) = words line := by
  obtain ⟨ending, hline, hending⟩ :=
    Text.exists_dropEndWhile (fun c => c = '\n' || c = '\r') line
  have hgap : ∀ c ∈ ending, isWordChar c = false := by
    intro c hc
    rcases Bool.or_eq_true_iff.mp (hending c hc) with h | h
    · rw [of_decide_eq_true h]
      decide
    · rw [of_decide_eq_true h]
      decide
  have h := words_append_gaps (dropNewline line) hgap
  rw [dropNewline, ← hline] at h
  exact h.symm

/-- Tabs are filled up with characters that belong to no word, as a tab does. -/
theorem words_append_expandTabsFrom {width : Nat} (hwidth : 0 < width) (a : Text) (column : Nat)
    (t : Text) : words (a ++ expandTabsFrom width column t) = words (a ++ t) := by
  induction t generalizing a column with
  | nil => rfl
  | cons c t ih =>
    rw [expandTabsFrom]
    by_cases htab : c = '\t'
    · -- at least one space stands for the tab
      obtain ⟨gap, hgap⟩ : ∃ gap, width - column % width = gap + 1 := by
        have := Nat.mod_lt column hwidth
        exact ⟨width - column % width - 1, by omega⟩
      have hspaces : ∀ d ∈ List.replicate gap ' ', isWordChar d = false := by
        intro d hd
        rw [List.eq_of_mem_replicate hd]
        decide
      have hrest := ih [] (column + (gap + 1))
      rw [List.nil_append, List.nil_append] at hrest
      rw [if_pos htab, htab, words_append_gap (by decide), hgap]
      simp only
      rw [List.replicate_succ, List.cons_append, words_append_gap (by decide),
        words_gaps_append hspaces, hrest]
    · have hrest := ih (a ++ [c]) (if c = '\n' || c = '\r' then 0 else column + 1)
      rw [List.append_assoc, List.append_assoc] at hrest
      rw [if_neg htab]
      exact hrest

/-- Filling up tabs keeps the words of a line. -/
theorem words_expandTabs {width : Nat} (hwidth : 0 < width) (line : Text) :
    words (expandTabs width line) = words line :=
  words_append_expandTabsFrom hwidth [] 0 line

/-! ## The lines of the index -/

/-- A carriage return and a line feed end one line. -/
theorem indexLines_pair (rest : Text) : indexLines ('\r' :: '\n' :: rest) = [] :: indexLines rest :=
  rfl

/-- A character that ends no line belongs to the first line. -/
theorem indexLines_cons {c : Char} (hc : isLineBreak c = false) (t : Text) :
    indexLines (c :: t) =
      match indexLines t with
      | [] => [[c]]
      | line :: more => (c :: line) :: more := by
  rw [indexLines.eq_def]
  split
  · rename_i h
    cases h
  · rename_i h
    injection h with h _
    subst h
    simp [isLineBreak] at hc
  · rename_i h
    injection h with h ht
    subst h ht
    exact if_neg (by simp [hc])

/-- A break ends an empty line, and a carriage return takes a line feed behind it along. -/
theorem indexLines_break {c : Char} (hc : isLineBreak c = true) {t : Text}
    (hpair : c = '\r' → ∀ rest, t ≠ '\n' :: rest) : indexLines (c :: t) = [] :: indexLines t := by
  rw [indexLines.eq_def]
  split
  · rename_i h
    cases h
  · rename_i h
    injection h with h ht
    exact absurd ht (hpair h _)
  · rename_i h
    injection h with h ht
    subst h ht
    rw [if_pos hc]

/-- The text up to a break is the first line. -/
theorem indexLines_append {body : Text} (hbody : ∀ c ∈ body, isLineBreak c = false) {t rest : Text}
    (ht : indexLines t = [] :: indexLines rest) :
    indexLines (body ++ t) = body :: indexLines rest := by
  induction body with
  | nil => exact ht
  | cons c body ih =>
    have hrest := ih fun d hd => hbody d (List.mem_cons_of_mem c hd)
    rw [List.cons_append, indexLines_cons (hbody c List.mem_cons_self), hrest]

/-- A text without a break is one line. -/
theorem indexLines_of_forall {body : Text} (hne : body ≠ [])
    (hbody : ∀ c ∈ body, isLineBreak c = false) : indexLines body = [body] := by
  induction body with
  | nil => exact absurd rfl hne
  | cons c body ih =>
    rw [indexLines_cons (hbody c List.mem_cons_self)]
    cases body with
    | nil => rfl
    | cons d body => rw [ih (by simp) fun e he => hbody e (List.mem_cons_of_mem c he)]

/-- Induction on the lines of the index: nothing, a last line without a break, or a line
and its break, which is a carriage return with a line feed or one character. -/
theorem indexLines_induction {motive : Text → Prop} (nil : motive [])
    (last : ∀ body, body ≠ [] → (∀ c ∈ body, isLineBreak c = false) → motive body)
    (pair : ∀ body rest, (∀ c ∈ body, isLineBreak c = false) → motive rest →
      motive (body ++ '\r' :: '\n' :: rest))
    (single : ∀ body c rest, (∀ d ∈ body, isLineBreak d = false) → isLineBreak c = true →
      (c = '\r' → ∀ more, rest ≠ '\n' :: more) → motive rest → motive (body ++ c :: rest))
    (t : Text) : motive t := by
  by_cases hbreak : ∃ c ∈ t, isLineBreak c = true
  · obtain ⟨body, c, rest, heq, hbody, hc⟩ : ∃ body c rest, t = body ++ c :: rest ∧
        (∀ d ∈ body, isLineBreak d = false) ∧ isLineBreak c = true := by
      have hfind : (t.find? isLineBreak).isSome = true := by simpa using hbreak
      obtain ⟨c, hc⟩ := Option.isSome_iff_exists.mp hfind
      obtain ⟨hbreak, body, rest, heq, hbody⟩ := List.find?_eq_some_iff_append.mp hc
      exact ⟨body, c, rest, heq, by simpa using hbody, hbreak⟩
    rw [heq]
    by_cases hpair : c = '\r' ∧ ∃ more, rest = '\n' :: more
    · obtain ⟨rfl, more, rfl⟩ := hpair
      exact pair body more hbody (indexLines_induction nil last pair single more)
    · exact single body c rest hbody hc (fun hcr more h => hpair ⟨hcr, more, h⟩)
        (indexLines_induction nil last pair single rest)
  · by_cases hne : t = []
    · exact hne ▸ nil
    · exact last t hne (by simpa using hbreak)
termination_by t.length
decreasing_by all_goals
  simp only [heq, List.length_append, List.length_cons]
  omega

/-- The lines of the index hold the words of the text: no word goes over a break. -/
theorem flatMap_words_indexLines (t : Text) : (indexLines t).flatMap words = words t := by
  induction t using indexLines_induction with
  | nil => rfl
  | last body hne hbody =>
    rw [indexLines_of_forall hne hbody]
    simp
  | pair body rest hbody ih =>
    have hfeed : isWordChar '\n' = false := by decide
    rw [indexLines_append hbody (indexLines_pair rest), List.flatMap_cons, ih,
      words_append_gap (isWordChar_of_isLineBreak (by decide)), words_cons_gap hfeed]
  | single body c rest hbody hc hpair ih =>
    rw [indexLines_append hbody (indexLines_break hc hpair), List.flatMap_cons, ih,
      words_append_gap (isWordChar_of_isLineBreak hc)]

/-- The index takes a carriage return and a line feed behind it for one break, and so
it finds the same lines in a text before and after it has been read. -/
theorem indexLines_normalizeNewlines (t : Text) :
    indexLines (normalizeNewlines t) = indexLines t := by
  fun_induction normalizeNewlines t with
  | case1 => rfl
  | case2 rest ih =>
    rw [indexLines_break (by decide) fun h => absurd h (by decide), ih, indexLines_pair]
  | case3 c rest hpair ih =>
    by_cases hc : c = '\r'
    · subst hc
      rw [if_pos rfl, indexLines_break (by decide) fun h => absurd h (by decide), ih,
        indexLines_break (by decide) fun _ r h => hpair r rfl h]
    rw [if_neg hc]
    by_cases hbreak : isLineBreak c = true
    · rw [indexLines_break hbreak fun h => absurd h hc, ih,
        indexLines_break hbreak fun h => absurd h hc]
    · have hbreak : isLineBreak c = false := by simpa using hbreak
      rw [indexLines_cons hbreak, ih, indexLines_cons hbreak]

/-- At a line feed the lines of the index come apart. -/
theorem indexLines_append_feed (a rest : Text) :
    indexLines (a ++ '\n' :: rest) = indexLines (a ++ ['\n']) ++ indexLines rest := by
  induction a using indexLines_induction with
  | nil => exact (indexLines_break (by decide) fun h => absurd h (by decide)).trans rfl
  | last body hne hbody =>
    have hfeed (r : Text) : indexLines ('\n' :: r) = [] :: indexLines r :=
      indexLines_break (by decide) fun h => absurd h (by decide)
    rw [indexLines_append hbody (hfeed rest), indexLines_append hbody (hfeed [])]
    rfl
  | pair body more hbody ih =>
    simp only [List.append_assoc, List.cons_append]
    rw [indexLines_append hbody (indexLines_pair _), indexLines_append hbody (indexLines_pair _),
      ih, List.cons_append]
  | single body c more hbody hc hpair ih =>
    simp only [List.append_assoc, List.cons_append]
    by_cases hend : c = '\r' ∧ more = []
    · -- the carriage return takes the line feed along
      obtain ⟨rfl, rfl⟩ := hend
      rw [List.nil_append, List.nil_append, indexLines_append hbody (indexLines_pair _),
        indexLines_append hbody (indexLines_pair _)]
      rfl
    · have hnext (r : Text) : c = '\r' → ∀ other, more ++ '\n' :: r ≠ '\n' :: other := by
        intro hcr other h
        cases more with
        | nil => exact hend ⟨hcr, rfl⟩
        | cons d more =>
          injection h with hd _
          exact hpair hcr more (by rw [hd])
      rw [indexLines_append hbody (indexLines_break hc (hnext rest)),
        indexLines_append hbody (indexLines_break hc (hnext [])), ih, List.cons_append]

/-- The lines of the index are those of each line of the file in turn. -/
theorem indexLines_eq_flatMap (t : Text) : indexLines t = (feedLines t).flatMap indexLines := by
  induction t using feedLines_induction with
  | nil => rfl
  | last body hne hbody =>
    rw [feedLines_of_not_mem hne hbody]
    simp
  | line body rest hbody ih =>
    rw [feedLines_append_feed hbody, indexLines_append_feed, List.flatMap_cons, ← ih]

theorem indexLines_ne_nil {t : Text} (h : t ≠ []) : indexLines t ≠ [] := by
  induction t using indexLines_induction with
  | nil => exact absurd rfl h
  | last body hne hbody =>
    rw [indexLines_of_forall hne hbody]
    simp
  | pair body rest hbody _ =>
    rw [indexLines_append hbody (indexLines_pair rest)]
    simp
  | single body c rest hbody hc hpair _ =>
    rw [indexLines_append hbody (indexLines_break hc hpair)]
    simp

/-- No line of the index holds a break. -/
theorem isLineBreak_of_mem_indexLines {t line : Text} (h : line ∈ indexLines t) :
    ∀ c ∈ line, isLineBreak c = false := by
  induction t using indexLines_induction with
  | nil => cases h
  | last body hne hbody =>
    rw [indexLines_of_forall hne hbody, List.mem_singleton] at h
    rw [h]
    exact hbody
  | pair body rest hbody ih =>
    rw [indexLines_append hbody (indexLines_pair rest), List.mem_cons] at h
    rcases h with rfl | h
    · exact hbody
    · exact ih h
  | single body c rest hbody hc hpair ih =>
    rw [indexLines_append hbody (indexLines_break hc hpair), List.mem_cons] at h
    rcases h with rfl | h
    · exact hbody
    · exact ih h

/-! ## A line of a file in the index -/

/-- Without further breaks, and without line ends, nothing ends a line. -/
theorem isLineBreak_of_isPlain {body : Text} (h : IsPlain body) (hfeed : '\n' ∉ body)
    (hreturn : '\r' ∉ body) : ∀ c ∈ body, isLineBreak c = false := by
  intro c hc
  have hplain := h c hc
  have hn : c ≠ '\n' := fun heq => hfeed (heq ▸ hc)
  have hr : c ≠ '\r' := fun heq => hreturn (heq ▸ hc)
  simpa [isExtraBreak, hn, hr] using hplain

/-- A line of a file without further breaks is one line of the index. -/
theorem indexLines_of_isPlain {body : Text} (h : IsPlain body) (hfeed : '\n' ∉ body)
    (hreturn : '\r' ∉ body) : indexLines (body ++ ['\n']) = [body] := by
  have hend : indexLines ['\n'] = [] :: indexLines [] :=
    indexLines_break (by decide) fun h => absurd h (by decide)
  rw [indexLines_append (isLineBreak_of_isPlain h hfeed hreturn) hend]
  rfl

/-- A line of a file with a further break is at least two lines of the index. -/
theorem two_le_length_indexLines {body : Text} (h : ¬IsPlain body) (hreturn : '\r' ∉ body) :
    2 ≤ (indexLines (body ++ ['\n'])).length := by
  have hextra : ∃ c ∈ body, isExtraBreak c = true := by simpa [IsPlain] using h
  obtain ⟨c, hc, hbreak⟩ := hextra
  have hfind : (body.find? isLineBreak).isSome = true := by
    rw [List.find?_isSome]
    exact ⟨c, hc, isLineBreak_of_isExtraBreak hbreak⟩
  obtain ⟨d, hd⟩ := Option.isSome_iff_exists.mp hfind
  obtain ⟨hbreak, before, rest, rfl, hbefore⟩ := List.find?_eq_some_iff_append.mp hd
  have hpair : d = '\r' → ∀ more, rest ++ ['\n'] ≠ '\n' :: more := by
    rintro rfl
    simp at hreturn
  have hfirst := indexLines_append (by simpa using hbefore) (indexLines_break hbreak hpair)
  have hrest : 0 < (indexLines (rest ++ ['\n'])).length :=
    List.length_pos_iff.mpr (indexLines_ne_nil (by simp))
  rw [List.append_assoc, List.cons_append, hfirst, List.length_cons]
  omega

end HitListing
