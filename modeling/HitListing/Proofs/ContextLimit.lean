import HitListing.Proofs.ContextFaults
import HitListing.Proofs.JsonText

/-!
# The limit of a context

With regular tables a line is shown if a word in it matches and, in a
definition search, the matches name a definition on it; how it is shown depends
on nothing but the line, its number and the tables.  The limit says how many of
these lines are shown, the first ones, and a link follows if there are more
(`renderLines_outcome`).  A line cannot be shown if its number has too many
digits or the tab width is refused (`faultOf`).

The lines are followed one by one with the room that is left
(`renderFrom_append`), so that what follows the first line that is too many is
seen not to matter.
-/

namespace HitListing

namespace SourceContext

/-! ## Lines that are to be shown -/

/-- A line as it is looked at. -/
def givenLine (p : Int × Text) : NumberedLine :=
  .ok (.int p.1, .str p.2)

/-- The same context with another limit. -/
def upTo (c : SourceContext) (limit : Nat) : SourceContext :=
  { c with limit := limit }

/-- The definitions on a line that its matching words name; none if that cannot be said. -/
def namedOn (c : SourceContext) (v : FileView) (p : Int × Text) : List Definition :=
  match definitionsOn v (.int p.1) (c.lineTerms.matched p.2) with
  | .ok found => found
  | .error _ => []

/-- Whether a line is to be shown if there is room: a word in it matches, and in a definition
search the matches name a definition on it. -/
def IsHitLine (c : SourceContext) (v : FileView) (p : Int × Text) : Prop :=
  c.lineTerms.matched p.2 ≠ [] ∧ (c.defSearch = true → c.namedOn v p ≠ [])

instance (c : SourceContext) (v : FileView) : DecidablePred (c.IsHitLine v) := fun _ =>
  inferInstanceAs (Decidable (_ ∧ (_ → _)))

/-- The lines that are to be shown if there is room. -/
def hitLines (c : SourceContext) (v : FileView) (lines : List (Int × Text)) : List (Int × Text) :=
  lines.filter (c.IsHitLine v)

/-- A line as it is shown. -/
def blockAt (c : SourceContext) (v : FileView) (p : Int × Text) : Except Fault Text :=
  c.block v (.int p.1) p.2 (c.namedOn v p)

/-- The link to all lines, if there are more of them than are shown. -/
def linkIf (c : SourceContext) (v : FileView) (more : Bool) : Text :=
  if more then c.moreLink v else []

variable {c : SourceContext} {v : FileView}

/-- With regular tables it can be said which definitions a line names. -/
theorem definitionsOn_eq_namedOn (hv : v.IsRegular) (p : Int × Text) :
    definitionsOn v (.int p.1) (c.lineTerms.matched p.2) = .ok (c.namedOn v p) ∧
      ∀ row ∈ c.namedOn v p, row.IsRegular := by
  have hnumber : (Json.int p.1).isScalar = true := rfl
  obtain ⟨found, hfound, hregular⟩ := exists_definitionsOn hv hnumber (c.lineTerms.matched p.2)
  rw [namedOn, hfound]
  exact ⟨rfl, hregular⟩

/-- With regular tables the lines that are chosen are those to be shown. -/
theorem shownWith_eq_ite (hv : v.IsRegular) (p : Int × Text) :
    c.shownWith v (.int p.1) p.2 =
      .ok (if c.IsHitLine v p then some (c.namedOn v p) else none) := by
  obtain ⟨hnamed, _⟩ := definitionsOn_eq_namedOn (c := c) hv p
  by_cases hhit : c.IsHitLine v p
  · rw [if_pos hhit, shownWith_eq_some_iff]
    exact ⟨hhit.1, hnamed, hhit.2⟩
  · rw [if_neg hhit]
    have hnumber : (Json.int p.1).isScalar = true := rfl
    obtain ⟨chosen, hchosen, _⟩ := exists_shownWith (c := c) hv hnumber p.2
    cases chosen with
    | none => exact hchosen
    | some found =>
      obtain ⟨hmatched, hfound, hne⟩ := shownWith_eq_some_iff.mp hchosen
      obtain rfl : found = c.namedOn v p := Except.ok.inj (hfound.symm.trans hnamed)
      exact absurd ⟨hmatched, hne⟩ hhit

/-! ## Line by line -/

/-- Of some lines the first that are to be shown are shown, as many as there is room for.  If that
is not all of them, the link follows and nothing else is looked at; otherwise what follows is
shown, in the room that is left. -/
theorem renderFrom_append (hv : v.IsRegular) (lines : List (Int × Text))
    (tail : List NumberedLine) {shown room : Nat} (hroom : c.limit = (shown + room : Nat)) :
    c.renderFrom v shown (lines.map givenLine ++ tail) =
      ((c.hitLines v lines).take room).mapM (c.blockAt v) >>= fun blocks =>
        (if room < (c.hitLines v lines).length then .ok (c.moreLink v)
          else c.renderFrom v (shown + (c.hitLines v lines).length) tail) >>= fun rest =>
            .ok (blocks.flatten ++ rest) := by
  -- along the lines; each line that is to be shown takes one place of the room that is left
  induction lines generalizing shown room with
  | nil =>
    have hnone : c.hitLines v [] = [] := rfl
    rw [hnone, List.take_nil, List.mapM_nil, pure_bind, if_neg (by simp)]
    exact (bind_pure _).symm
  | cons p lines ih =>
    rw [List.map_cons, List.cons_append, givenLine, renderFrom_cons_str, shownWith_eq_ite hv]
    by_cases hhit : c.IsHitLine v p
    · have hlines : c.hitLines v (p :: lines) = p :: c.hitLines v lines :=
        List.filter_cons_of_pos (decide_eq_true hhit)
      rw [if_pos hhit, hlines]
      show (if (shown : Int) = c.limit then Except.ok (c.moreLink v) else
        c.blockAt v p >>= fun start =>
          c.renderFrom v (shown + 1) (lines.map givenLine ++ tail) >>= fun more =>
            Except.ok (start ++ more)) = _
      cases room with
      | zero =>
        rw [if_pos (by omega), if_pos (by simp)]
        rfl
      | succ room =>
        have hrest : c.limit = (shown + 1 + room : Nat) := by omega
        have hcount : shown + 1 + (c.hitLines v lines).length =
            shown + (p :: c.hitLines v lines).length := by
          rw [List.length_cons]
          omega
        rw [if_neg (by omega), ih hrest, hcount, List.take_succ_cons, List.mapM_cons,
          List.length_cons]
        simp only [Nat.add_lt_add_iff_right, bind_assoc, pure_bind, List.flatten_cons,
          List.append_assoc]
        rfl
    · have hlines : c.hitLines v (p :: lines) = c.hitLines v lines :=
        List.filter_cons_of_neg (by simpa using hhit)
      rw [if_neg hhit, hlines]
      exact ih hroom

/-! ## The whole context -/

/-- The lines and what follows them, with a limit. -/
theorem renderLines_upTo (hv : v.IsRegular) (lines : List (Int × Text)) (limit : Nat)
    (tail : List NumberedLine) :
    (c.upTo limit).renderLines v (lines.map givenLine ++ tail) =
      ((c.hitLines v lines).take limit).mapM (c.blockAt v) >>= fun blocks =>
        (if limit < (c.hitLines v lines).length then .ok (c.moreLink v)
          else (c.upTo limit).renderFrom v (c.hitLines v lines).length tail) >>= fun rest =>
            .ok (blocks.flatten ++ rest) := by
  have hroom : (c.upTo limit).limit = ((0 : Nat) + limit : Nat) := by
    rw [Nat.zero_add]
    rfl
  have h := renderFrom_append (c := c.upTo limit) hv lines tail hroom
  rw [Nat.zero_add] at h
  exact h

theorem renderLines_upTo_all (hv : v.IsRegular) (lines : List (Int × Text)) (limit : Nat) :
    (c.upTo limit).renderLines v (lines.map givenLine) =
      ((c.hitLines v lines).take limit).mapM (c.blockAt v) >>= fun blocks =>
        .ok (blocks.flatten ++ c.linkIf v (limit < (c.hitLines v lines).length)) := by
  have h := renderLines_upTo (c := c) hv lines limit []
  rw [List.append_nil] at h
  rw [h, linkIf]
  congr 1
  funext blocks
  by_cases hmore : limit < (c.hitLines v lines).length
  · simp only [hmore, if_true, decide_true]
    rfl
  · simp only [hmore, if_false, decide_false]
    rfl

/-- Whether the limit decides exactly what is shown, given how each line is shown, which is the
same for every limit and among all lines. -/
structure LimitsExactly (c : SourceContext) (v : FileView)
    (block : Int × Text → Except Fault Text) : Prop where
  /-- The first lines to be shown are, as many as the limit says, and a link if there are more. -/
  shown : ∀ (lines : List (Int × Text)) (limit : Nat),
    (c.upTo limit).renderLines v (lines.map givenLine) =
      ((c.hitLines v lines).take limit).mapM block >>= fun blocks =>
        .ok (blocks.flatten ++ c.linkIf v (limit < (c.hitLines v lines).length))
  /-- Behind the first line that is too many, anything may come. -/
  unread : ∀ (lines : List (Int × Text)) (limit : Nat), limit < (c.hitLines v lines).length →
    ∀ tail other : List NumberedLine,
      (c.upTo limit).renderLines v (lines.map givenLine ++ tail) =
        (c.upTo limit).renderLines v (lines.map givenLine ++ other)
  /-- A larger limit only adds to the lines that are shown. -/
  grows : ∀ (lines : List (Int × Text)) (limit larger : Nat), limit ≤ larger →
    ∃ rest : Except Fault Text, (c.upTo larger).renderLines v (lines.map givenLine) =
      ((c.hitLines v lines).take limit).mapM block >>= fun blocks =>
        rest.map (blocks.flatten ++ ·)

/-! ### Lines that cannot be shown -/

/-- Why a line cannot be shown, if it cannot: its number has too many digits to be written, or the
tab width is refused. -/
def faultOf (v : FileView) (p : Int × Text) : Option Fault :=
  if 10 ^ maxDigits ≤ p.1.natAbs then some .badValue
  else if tabSizeBound ≤ v.tabSize then some .outOfRange
  else none

theorem faultOf_eq_none_iff {p : Int × Text} :
    faultOf v p = none ↔ (Json.int p.1).numeralsFit = true ∧ v.tabSize < tabSizeBound := by
  rw [faultOf, Json.numeralsFit_int_iff]
  split
  · simp only [reduceCtorEq, false_iff, not_and]
    omega
  · split
    · simp only [reduceCtorEq, false_iff, not_and]
      omega
    · simp only [true_iff]
      omega

/-- With regular tables a line that has no fault can be shown. -/
theorem succeeds_blockAt (hv : v.IsRegular) {p : Int × Text} (h : faultOf v p = none) :
    Succeeds (c.blockAt v p) := by
  obtain ⟨hnumber, htab⟩ := faultOf_eq_none_iff.mp h
  exact (succeeds_block_iff hv hnumber _ (definitionsOn_eq_namedOn hv p).2).mpr
    ⟨htab, hasScopeOf_int v _⟩

/-- A line that has a fault is not shown. -/
theorem blockAt_of_faultOf {p : Int × Text} {f : Fault} (h : faultOf v p = some f) :
    c.blockAt v p = .error f := by
  rw [faultOf] at h
  rw [blockAt, block]
  split at h
  · rename_i hlong
    cases h
    have hfits : (Json.int p.1).numeralsFit = false := by
      rw [Bool.eq_false_iff, ne_eq, Json.numeralsFit_int_iff]
      omega
    rw [Json.shown_of_not_fits hfits]
    rfl
  · rename_i hshort
    have hfits : (Json.int p.1).numeralsFit = true := by
      rw [Json.numeralsFit_int_iff]
      omega
    split at h
    · rename_i htab
      cases h
      rw [Json.shown_of_fits hfits, Terms.highlight, layOut_of_bound_le htab]
      rfl
    · cases h

/-- With regular tables the limit decides exactly what is shown, and a line can be shown unless its
number has too many digits or the tab width is refused. -/
theorem renderLines_outcome (c : SourceContext) {v : FileView} (hv : v.IsRegular) :
    c.LimitsExactly v (c.blockAt v) ∧
      ∃ block : Int × Text → Text, ∀ p, c.blockAt v p =
        match faultOf v p with
        | some f => .error f
        | none => .ok (block p) := by
  refine ⟨⟨renderLines_upTo_all hv, ?_, ?_⟩, ?_⟩
  · intro lines limit hmore tail other
    rw [renderLines_upTo hv, renderLines_upTo hv, if_pos hmore, if_pos hmore]
  · intro lines limit larger hle
    obtain ⟨rest, hrest⟩ := List.take_prefix_take_left (l := c.hitLines v lines) hle
    refine ⟨rest.mapM (c.blockAt v) >>= fun blocks =>
      .ok (blocks.flatten ++ c.linkIf v (larger < (c.hitLines v lines).length)), ?_⟩
    rw [renderLines_upTo_all hv, ← hrest, List.mapM_append, bind_assoc]
    refine bind_congr fun shown => ?_
    cases rest.mapM (c.blockAt v) with
    | error f => rfl
    | ok more =>
      refine congrArg Except.ok ?_
      rw [List.flatten_append, List.append_assoc]
  · have hshown (p : Int × Text) : ∃ t, c.blockAt v p =
        match faultOf v p with
        | some f => .error f
        | none => .ok t := by
      cases hfault : faultOf v p with
      | some f => exact ⟨[], blockAt_of_faultOf hfault⟩
      | none => exact succeeds_blockAt hv hfault
    choose block hblock using hshown
    exact ⟨block, hblock⟩

/-- A view of a file with a definition on its first line, within a scope. -/
def definedView : FileView :=
  let defined : Definition := ⟨.int 1, .str "foo".toList, .str "variable".toList, .str []⟩
  ⟨"a.c", "/source/xref", "/source/more", some ⟨[defined], [(.int 1, [defined])]⟩,
    some ⟨[⟨.int 1, .int 2, .str "all".toList, .str [], .str []⟩]⟩, 8⟩

theorem isRegular_definedView : definedView.IsRegular := by
  constructor
  · intro table htable
    cases htable
    refine ⟨?_, fun row hrow => ?_⟩
    · intro entry hentry row hrow
      obtain rfl := List.mem_singleton.mp hentry
      exact hrow
    · obtain rfl := List.mem_singleton.mp hrow
      exact ⟨⟨_, rfl⟩, ⟨_, rfl⟩, ⟨_, rfl⟩, _, rfl⟩
  · intro table htable row hrow
    cases htable
    obtain rfl := List.mem_singleton.mp hrow
    exact ⟨⟨_, rfl⟩, ⟨_, rfl⟩, ⟨_, rfl⟩, ⟨_, rfl⟩, _, rfl⟩

/-- The case of that view and a definition search. -/
theorem renderLines_outcome_definedView :
    definedView.IsRegular ∧
      LimitsExactly ⟨.ofList ["foo"], true, 1⟩ definedView
        (blockAt ⟨.ofList ["foo"], true, 1⟩ definedView) ∧
      faultOf definedView (1, "foo") = none ∧
      ∃ t, blockAt ⟨.ofList ["foo"], true, 1⟩ definedView (1, "foo") = .ok t := by
  obtain ⟨hlimits, block, hblock⟩ :=
    renderLines_outcome ⟨.ofList ["foo"], true, 1⟩ isRegular_definedView
  have hfault : faultOf definedView (1, "foo") = none :=
    faultOf_eq_none_iff.mpr ⟨by decide, by decide⟩
  refine ⟨isRegular_definedView, hlimits, hfault, block (1, "foo"), ?_⟩
  rw [hblock, hfault]

/-- A view without tables, with the first tab width that is not accepted. -/
def wideView : FileView :=
  ⟨"a.c", "/source/xref", "/source/more", none, none, 2147483648⟩

/-- With that view the first line to be shown is a fault. -/
theorem not_limitsExactly_wideView :
    ¬∃ block : Int × Text → Text,
      LimitsExactly ⟨.ofList ["a"], false, 10⟩ wideView fun p => .ok (block p) := by
  intro h
  obtain ⟨block, h⟩ := h
  have hshown := h.shown [(1, "a".toList)] 1
  have hfault : (upTo ⟨.ofList ["a"], false, 10⟩ 1).renderLines wideView
      ([(1, "a".toList)].map givenLine) = .error .outOfRange := by
    decide +kernel
  rw [hfault, mapM_eq_map fun p _ => rfl] at hshown
  cases hshown

end SourceContext

end HitListing
