import HitListing.Highlight
import HitListing.Proofs.ContextLines
import HitListing.Proofs.Documents
import HitListing.Proofs.Pieces

/-!
# Words in bold

What can be read off a highlighted line.  Its text content is the line as it is
laid out, and its bold words are the words of the line that match, as they are
written there (`Terms.highlight_outcome`).

Highlighted lines and excerpts are stretches of escaped text, some of them in
bold.  Stripping gives the texts of the stretches back (`Stretch.strip_write`), and
the bold elements are the stretches in bold (`Stretch.boldTexts_write`).
-/

namespace HitListing

/-! ## Bold elements -/

namespace Markup

/-- The contents of the bold elements of markup, given what has been read of an element that is
still open. -/
def boldsFrom : Option Text → Text → List Text
  | _, [] => []
  | none, '<' :: 'b' :: '>' :: rest => boldsFrom (some []) rest
  | some inner, '<' :: '/' :: 'b' :: '>' :: rest => inner :: boldsFrom none rest
  | none, _ :: rest => boldsFrom none rest
  | some inner, c :: rest => boldsFrom (some (inner ++ [c])) rest

/-- The texts of the bold elements of markup, in order. -/
def boldTexts (markup : Text) : Except Fault (List Text) :=
  (boldsFrom none markup).mapM unescape

/-- Text outside of an element is passed over. -/
theorem boldsFrom_none_append {t : Text} (h : '<' ∉ t) (rest : Text) :
    boldsFrom none (t ++ rest) = boldsFrom none rest := by
  induction t with
  | nil => rfl
  | cons c t ih =>
    rw [List.mem_cons, not_or] at h
    rw [List.cons_append, boldsFrom, ih h.2]
    rintro more rfl
    exact absurd rfl h.1

/-- Text within an element is collected. -/
theorem boldsFrom_some_append {t : Text} (h : '<' ∉ t) (inner rest : Text) :
    boldsFrom (some inner) (t ++ rest) = boldsFrom (some (inner ++ t)) rest := by
  induction t generalizing inner with
  | nil => rw [List.nil_append, List.append_nil]
  | cons c t ih =>
    rw [List.mem_cons, not_or] at h
    rw [List.cons_append, boldsFrom, ih h.2, List.append_assoc, List.singleton_append]
    rintro more rfl
    exact absurd rfl h.1

theorem not_mem_escape (t : Text) : '<' ∉ escape t := fun h => (isClean_escape t '<' h).2.1 rfl

/-- Text in bold is one element. -/
theorem boldsFrom_bold (t rest : Text) :
    boldsFrom none (bold t ++ rest) = escape t :: boldsFrom none rest := by
  have hwrite : bold t ++ rest =
      '<' :: 'b' :: '>' :: (escape t ++ '<' :: '/' :: 'b' :: '>' :: rest) := by
    simp [bold]
  rw [hwrite, boldsFrom, boldsFrom_some_append (not_mem_escape t), boldsFrom, List.nil_append]

theorem strip_bold (t rest : Text) :
    strip (bold t ++ rest) = strip rest >>= fun more => .ok (t ++ more) := by
  have hwrite : bold t ++ rest = openTag "b" [] ++ (escape t ++ (closeTag "b" ++ rest)) := by
    simp [bold, openTag, closeTag]
  rw [hwrite, strip_openTag (by decide +kernel) (List.forall_mem_nil _), List.mapM_nil, pure_bind,
    strip_text, strip_closeTag (by decide)]

end Markup

/-- A stretch of text, in bold or not. -/
structure Stretch where
  isBold : Bool
  text : Text
deriving DecidableEq, Repr

namespace Stretch

open Markup

/-- The markup of a stretch. -/
def write (s : Stretch) : Text :=
  if s.isBold then bold s.text else escape s.text

/-- Stripping stretches of text gives their texts. -/
theorem strip_write (stretches : List Stretch) :
    strip (stretches.flatMap write) = .ok (stretches.flatMap (·.text)) := by
  induction stretches with
  | nil => rfl
  | cons s stretches ih =>
    rw [List.flatMap_cons, List.flatMap_cons, write]
    split
    · rw [strip_bold, ih]
      rfl
    · rw [strip_text, ih]
      rfl

/-- The bold elements among stretches are those in bold. -/
theorem boldsFrom_write (stretches : List Stretch) :
    boldsFrom none (stretches.flatMap write) =
      ((stretches.filter (·.isBold)).map (·.text)).map escape := by
  induction stretches with
  | nil => rfl
  | cons s stretches ih =>
    rw [List.flatMap_cons, write]
    by_cases hbold : s.isBold = true
    · rw [if_pos hbold, boldsFrom_bold, ih, List.filter_cons_of_pos hbold]
      rfl
    · rw [if_neg hbold, boldsFrom_none_append (not_mem_escape _), ih,
        List.filter_cons_of_neg hbold]

theorem boldTexts_write (stretches : List Stretch) :
    boldTexts (stretches.flatMap write) = .ok ((stretches.filter (·.isBold)).map (·.text)) := by
  rw [boldTexts, boldsFrom_write]
  exact mapM_map_eq_self _ unescape_escape

/-- If the words that pass a test are in bold, as they are, the stretches in bold are those
words. -/
theorem filter_isBold_map {stretchOf : Piece → Stretch} {test : Text → Bool}
    (hbold : ∀ p, (stretchOf p).isBold = (p.isWord && test p.text))
    (htext : ∀ p, p.isWord = true → (stretchOf p).text = p.text) (ps : List Piece) :
    ((ps.map stretchOf).filter (·.isBold)).map (·.text) = (wordPieces ps).filter test := by
  induction ps with
  | nil => rfl
  | cons p ps ih =>
    rw [List.map_cons]
    cases hword : p.isWord with
    | false =>
      rw [List.filter_cons_of_neg (by simp [hbold, hword]), wordPieces_cons_gap hword, ih]
    | true =>
      rw [wordPieces_cons_word hword]
      cases htest : test p.text with
      | false =>
        rw [List.filter_cons_of_neg (by simp [hbold, htest]),
          List.filter_cons_of_neg (by simp [htest]), ih]
      | true =>
        rw [List.filter_cons_of_pos (by simp [hbold, hword, htest]),
          List.filter_cons_of_pos htest, List.map_cons, htext p hword, ih]

end Stretch

/-! ## Highlighted lines -/

/-- Laying a line out keeps its words. -/
theorem words_layOut {tabSize : Int} {line shown : Text} (h : layOut tabSize line = .ok shown) :
    words shown = words line := by
  rw [layOut] at h
  split at h
  · cases h
    exact words_dropNewline line
  · split at h
    · cases h
      rw [words_expandTabs (by omega), words_dropNewline]
    · cases h

theorem layOut_of_bound_le {tabSize : Int} (h : tabSizeBound ≤ tabSize) (line : Text) :
    layOut tabSize line = .error .outOfRange := by
  have hbound : (0 : Int) < tabSizeBound := by decide
  rw [layOut, if_neg (by omega), if_neg (by omega)]

/-- A line can be laid out if the tab width is accepted. -/
theorem succeeds_layOut_iff (tabSize : Int) (line : Text) :
    Succeeds (layOut tabSize line) ↔ tabSize < tabSizeBound := by
  rcases Int.lt_or_le tabSize tabSizeBound with h | h
  · refine iff_of_true ?_ h
    rw [layOut, if_pos h]
    split
    · exact succeeds_ok _
    · exact succeeds_ok _
  · rw [layOut_of_bound_le h]
    exact iff_of_false (not_succeeds_error _) (by omega)

namespace Terms

/-- A piece of a line as a stretch of text. -/
def stretch (terms : Terms) (p : Piece) : Stretch :=
  ⟨p.isWord && terms.has p.text, p.text⟩

theorem highlightText_eq (terms : Terms) (line : Text) :
    terms.highlightText line = ((pieces line).map terms.stretch).flatMap Stretch.write := by
  rw [List.flatMap_map]
  rfl

theorem strip_highlightText (terms : Terms) (line : Text) :
    Markup.strip (terms.highlightText line) = .ok line := by
  rw [highlightText_eq, Stretch.strip_write, List.flatMap_map]
  exact congrArg Except.ok (flatMap_text_pieces line)

/-- The words of a line that match are in bold, and nothing else is. -/
theorem boldTexts_highlightText (terms : Terms) (line : Text) :
    Markup.boldTexts (terms.highlightText line) = .ok ((words line).filter terms.has) := by
  rw [highlightText_eq, Stretch.boldTexts_write,
    Stretch.filter_isBold_map (fun _ => rfl) (fun _ _ => rfl)]
  rfl

/-- What matches is what the matching words are in lower case. -/
theorem mem_matched_iff_mem_filter {terms : Terms} {line term : Text} :
    term ∈ terms.matched line ↔ term ∈ ((words line).filter terms.has).map lower := by
  rw [mem_matched, List.mem_map, List.mem_map]
  constructor
  · intro h
    obtain ⟨⟨word, hword, rfl⟩, hterm⟩ := h
    exact ⟨word, List.mem_filter.mpr ⟨hword, List.contains_iff_mem.mpr hterm⟩, rfl⟩
  · intro h
    obtain ⟨word, hword, rfl⟩ := h
    obtain ⟨hword, hterm⟩ := List.mem_filter.mp hword
    exact ⟨⟨word, hword, rfl⟩, List.contains_iff_mem.mp hterm⟩

/-- Whether a line is highlighted as it should be: it is shown as it is laid out, with the same
words, and exactly those of its words that match are in bold, at least one if anything matches. -/
def Highlights (terms : Terms) (tabSize : Int) (line : Text) : Prop :=
  ∃ shown highlighted, layOut tabSize line = .ok shown ∧
    terms.highlight tabSize line = .ok highlighted ∧ Markup.strip highlighted = .ok shown ∧
    words shown = words line ∧
    ∃ bolds, Markup.boldTexts highlighted = .ok bolds ∧ bolds = (words line).filter terms.has ∧
      (∀ term, term ∈ terms.matched line ↔ term ∈ bolds.map lower) ∧
      (terms.matched line ≠ [] → bolds ≠ [])

/-- With a tab width that is accepted each line is highlighted as it should be; with another one
no line can be laid out. -/
theorem highlight_outcome (terms : Terms) (tabSize : Int) (line : Text) :
    (tabSize < tabSizeBound ∧ terms.Highlights tabSize line) ∨
      (tabSizeBound ≤ tabSize ∧ layOut tabSize line = .error .outOfRange ∧
        terms.highlight tabSize line = .error .outOfRange) := by
  rcases Int.lt_or_le tabSize tabSizeBound with htab | htab
  · obtain ⟨shown, hshown⟩ := (succeeds_layOut_iff tabSize line).mpr htab
    have hwords := words_layOut hshown
    refine Or.inl ⟨htab, shown, terms.highlightText shown, hshown, by rw [highlight, hshown]; rfl,
      strip_highlightText terms shown, hwords, _, boldTexts_highlightText terms shown,
      by rw [hwords], ?_, ?_⟩
    · intro term
      rw [hwords]
      exact mem_matched_iff_mem_filter
    · intro hne hnone
      obtain ⟨term, hterm⟩ := List.exists_mem_of_ne_nil _ hne
      rw [mem_matched_iff_mem_filter, ← hwords, hnone] at hterm
      cases hterm
  · have hwide : layOut tabSize line = .error .outOfRange := layOut_of_bound_le htab line
    exact Or.inr ⟨htab, hwide, by rw [highlight, hwide]; rfl⟩

/-- The first tab width that is not accepted. -/
theorem not_highlights_tabSizeBound : ¬(Terms.ofList ["a"]).Highlights 2147483648 "a" := by
  intro h
  obtain ⟨shown, _, hshown, _⟩ := h
  rw [layOut_of_bound_le (by decide)] at hshown
  cases hshown

end Terms

end HitListing
