import HitListing.Proofs.Escaping
import HitListing.Proofs.StartTags
import HitListing.Proofs.Stripping

/-!
# Documents

Markup as a list of tokens: escaped texts, tags, and anchors of lines.  A number
of a line stands in its anchor as it is, twice.

Stripping a written document gives what its tokens show, one after another
(`Document.strip_write`), as long as nothing that is written as it is looks like
markup (`Token.IsPlain`).
-/

namespace HitListing.Markup

/-- A part of a document. -/
inductive Token where
  /-- Escaped text. -/
  | text (t : Text)
  | opening (name : Text) (attributes : List Attribute)
  /-- A tag without attributes that closes itself. -/
  | single (name : Text)
  | closing (name : Text)
  /-- The beginning of a link to a line of a file, with the number of the line. -/
  | anchor (link number : Text)
deriving DecidableEq, Repr

/-- Markup as its parts. -/
abbrev Document := List Token

/-- Whether a text may be the name of an element whose content is read as markup. -/
def IsElement (name : Text) : Prop :=
  IsLetters name ∧ lower name ∉ rawElements

instance (name : Text) : Decidable (IsElement name) :=
  inferInstanceAs (Decidable (IsLetters name ∧ lower name ∉ rawElements))

/-- A start tag. -/
def openTag (name : Text) (attributes : List Attribute) : Text :=
  '<' :: (name ++ (attributes.flatMap (·.write) ++ ['>']))

/-- A tag without attributes that closes itself. -/
def singleTag (name : Text) : Text :=
  '<' :: (name ++ ['/', '>'])

/-- An end tag. -/
def closeTag (name : Text) : Text :=
  '<' :: '/' :: (name ++ ['>'])

namespace Token

/-- The link to a line of a file. -/
def target (link number : Text) : Attribute :=
  ⟨"href", link ++ "#" ++ number⟩

/-- The markup of a token. -/
def write : Token → Text
  | text t => escape t
  | opening name attributes => openTag name attributes
  | single name => singleTag name
  | closing name => closeTag name
  | anchor link number =>
    openTag "a" [.ofClass "s", target link number] ++
      (openTag "span" [.ofClass "l"] ++ (number ++ closeTag "span"))

/-- The values of the attributes of a token. -/
def values : Token → List Text
  | opening _ attributes => attributes.map (·.value)
  | anchor link number => ["s", (target link number).value, "l"]
  | _ => []

/-- The numbers that a token holds as they are. -/
def numbers : Token → List Text
  | anchor _ number => [number]
  | _ => []

/-- What is shown of a token.  The values of a tag are not shown, but their references are read. -/
def shown : Token → Except Fault Text
  | text t => .ok t
  | opening _ attributes => attributes.mapM (fun a => unescape a.quoted) >>= fun _ => .ok []
  | single _ => .ok []
  | closing _ => .ok []
  | anchor link number => unescape (target link number).quoted >>= fun _ => unescape number

/-- Whether a token can be told from the text around it. -/
def IsPlain : Token → Prop
  | text _ => True
  | opening name attributes => IsElement name ∧ ∀ a ∈ attributes, a.IsPlain
  | single name => IsLetters name
  | closing name => '>' ∉ name
  | anchor link number => (target link number).IsPlain ∧ '<' ∉ number

end Token

namespace Document

/-- The markup of a document. -/
def write (d : Document) : Text :=
  d.flatMap (·.write)

/-- The values of all attributes in a document. -/
def values (d : Document) : List Text :=
  d.flatMap (·.values)

/-- The numbers that a document holds as they are. -/
def numbers (d : Document) : List Text :=
  d.flatMap (·.numbers)

/-- The text that a document shows. -/
def shown (d : Document) : Except Fault Text :=
  (d.mapM Token.shown).map List.flatten

end Document

/-! ## Stripping a token -/

/-- A run of text, up to a tag or to the end. -/
theorem strip_run {run rest : Text} (hrun : '<' ∉ run) (hrest : ∀ c ∈ rest.head?, c = '<') :
    strip (run ++ rest) =
      unescape run >>= fun shown => strip rest >>= fun more => .ok (shown ++ more) := by
  cases run with
  | nil =>
    show strip rest = strip rest >>= fun more => .ok more
    cases strip rest with
    | error f => rfl
    | ok more => rfl
  | cons c run =>
    have htext : ((c :: run) ++ rest).head? ≠ some '<' := by
      intro hopen
      obtain rfl := Option.some.inj hopen
      exact hrun List.mem_cons_self
    have htake : ((c :: run) ++ rest).takeWhile (· ≠ '<') = c :: run := by
      have hall : ∀ d ∈ c :: run, decide (d ≠ '<') = true := by
        intro d hd
        rw [decide_eq_true_eq]
        rintro rfl
        exact hrun hd
      rw [List.takeWhile_append_of_pos hall]
      cases rest with
      | nil => rw [List.takeWhile_nil, List.append_nil]
      | cons d rest =>
        obtain rfl := hrest d rfl
        rw [List.takeWhile_cons_of_neg (by decide), List.append_nil]
    have hdrop : (run ++ rest).drop ((c :: run).length - 1) = rest := List.drop_left
    have hstep := step_text htext
    rw [htake] at hstep
    rw [strip, List.cons_append, stripAfter_cons, ← List.cons_append, hstep]
    cases unescape (c :: run) with
    | error f => rfl
    | ok shown =>
      show stripAfter 0 .markup ((run ++ rest).drop ((c :: run).length - 1)) >>= _ = _
      rw [hdrop]
      rfl

/-- Escaped text is shown as it was before, whatever follows it. -/
theorem strip_text (t rest : Text) :
    strip (escape t ++ rest) = strip rest >>= fun more => .ok (t ++ more) := by
  have hsplit : rest.takeWhile (· ≠ '<') ++ rest.dropWhile (· ≠ '<') = rest :=
    List.takeWhile_append_dropWhile
  have hrun : '<' ∉ rest.takeWhile (· ≠ '<') := not_mem_takeWhile (by decide) rest
  have hend : ∀ c ∈ (rest.dropWhile (· ≠ '<')).head?, c = '<' := by
    intro c hc
    have hstop := List.head?_dropWhile_not (fun c => decide (c ≠ '<')) rest
    rw [hc] at hstop
    simpa using hstop
  have hlong : '<' ∉ escape t ++ rest.takeWhile (· ≠ '<') := by
    rw [List.mem_append, not_or]
    exact ⟨fun hin => (isClean_escape t '<' hin).2.1 rfl, hrun⟩
  -- text that follows makes one run with the escaped text, so both are cut at the same tag
  have hwhole := strip_run hlong hend
  have hrest := strip_run hrun hend
  rw [List.append_assoc, hsplit, unescape_escape_append] at hwhole
  rw [hsplit] at hrest
  rw [hwhole, hrest]
  cases unescape (rest.takeWhile (· ≠ '<')) with
  | error f => rfl
  | ok shown =>
    cases strip (rest.dropWhile (· ≠ '<')) with
    | error f => rfl
    | ok more =>
      show Except.ok (t ++ shown ++ more) = Except.ok (t ++ (shown ++ more))
      rw [List.append_assoc]

/-- A tag that shows nothing, if its values can be read. -/
theorem strip_tag {α : Type} {tag rest : Text} {r : Except Fault α} (htag : tag.head? = some '<')
    (h : construct (tag ++ rest) = r >>= fun _ => .ok (.dropped tag.length)) :
    strip (tag ++ rest) = r >>= fun _ => strip rest := by
  cases tag with
  | nil => cases htag
  | cons c tag =>
    obtain rfl := Option.some.inj htag
    rw [List.cons_append] at h
    have hstep : step .markup ('<' :: (tag ++ rest)) = r >>= fun _ =>
        .ok ⟨[], ('<' :: tag).length, .markup⟩ := by
      show construct ('<' :: (tag ++ rest)) >>= _ = _
      rw [h]
      cases r with
      | error f => rfl
      | ok a => rfl
    rw [strip, List.cons_append, stripAfter_cons, hstep]
    cases r with
    | error f => rfl
    | ok a =>
      have hdrop : (tag ++ rest).drop (('<' :: tag).length - 1) = rest := List.drop_left
      show stripAfter 0 .markup ((tag ++ rest).drop (('<' :: tag).length - 1)) >>= _ = _
      rw [hdrop]
      show strip rest >>= (fun more => .ok ([] ++ more)) = strip rest
      cases strip rest with
      | error f => rfl
      | ok more => rfl

/-! ## The constructs of tokens -/

/-- What begins with a letter is a start tag. -/
theorem construct_of_isAlpha {c : Char} (hc : c.isAlpha = true) (t : Text) :
    construct ('<' :: c :: t) = startConstruct ('<' :: c :: t) := by
  have hmark : c ≠ '!' := ne_of_isAlpha hc (by decide)
  rw [construct.eq_6 c t (ne_of_isAlpha hc (by decide)) (fun _ h => absurd h hmark)
    (fun _ h => absurd h hmark) hmark (ne_of_isAlpha hc (by decide)), if_pos hc]

/-- A start tag whose parts are known. -/
theorem startConstruct_complete {t name : Text} {values : List Text} {selfClosing : Bool}
    {length : Nat} (h : startTag t = .complete name values selfClosing length)
    (hraw : lower name ∉ rawElements ∨ selfClosing = true) :
    startConstruct t = values.mapM unescape >>= fun _ => .ok (.dropped length) := by
  have hkept : (!selfClosing && rawElements.contains (lower name)) = false := by
    rcases hraw with hraw | rfl
    · rw [Bool.and_eq_false_iff, Bool.eq_false_iff, Bool.eq_false_iff]
      exact Or.inr fun h => hraw (List.contains_iff_mem.mp h)
    · rfl
  simp only [startConstruct, h, hkept, Bool.false_eq_true, if_false]
  rfl

/-- What begins with a name made of letters is a start tag. -/
theorem construct_of_isLetters {name : Text} (h : IsLetters name) (t : Text) :
    construct ('<' :: (name ++ t)) = startConstruct ('<' :: (name ++ t)) := by
  obtain ⟨c, more, rfl⟩ := List.exists_cons_of_ne_nil h.1
  exact construct_of_isAlpha (h.2 c List.mem_cons_self) _

theorem strip_openTag {name : Text} {attributes : List Attribute} (hname : IsElement name)
    (h : ∀ a ∈ attributes, a.IsPlain) (rest : Text) :
    strip (openTag name attributes ++ rest) =
      attributes.mapM (fun a => unescape a.quoted) >>= fun _ => strip rest := by
  have hwrite : openTag name attributes ++ rest =
      '<' :: (name ++ (attributes.flatMap (·.write) ++ '>' :: rest)) := by
    simp [openTag]
  have hlength : (openTag name attributes).length =
      name.length + (attributes.flatMap (·.write)).length + 2 := by
    simp only [openTag, List.length_cons, List.length_append, List.length_nil]
    omega
  have hvalues : (attributes.map (·.quoted)).mapM unescape =
      attributes.mapM fun a => unescape a.quoted := List.mapM_map
  refine strip_tag rfl ?_
  rw [hwrite, hlength, construct_of_isLetters hname.1,
    startConstruct_complete (startTag_write hname.1 h rest) (Or.inl hname.2), hvalues]

theorem strip_singleTag {name : Text} (hname : IsLetters name) (rest : Text) :
    strip (singleTag name ++ rest) = strip rest := by
  have hwrite : singleTag name ++ rest = '<' :: (name ++ '/' :: '>' :: rest) := by
    simp [singleTag]
  have hlength : (singleTag name).length = name.length + 3 := by
    simp [singleTag]
  have hconstruct : construct (singleTag name ++ rest) =
      [].mapM unescape >>= fun _ => .ok (.dropped (singleTag name).length) := by
    rw [hwrite, hlength, construct_of_isLetters hname,
      startConstruct_complete (startTag_selfClosing hname rest) (Or.inr rfl)]
  exact strip_tag rfl hconstruct

theorem findIdx?_eq_none_iff {c : Char} {t : Text} : t.findIdx? (· = c) = none ↔ c ∉ t := by
  rw [List.findIdx?_eq_none_iff]
  simp only [decide_eq_false_iff_not]
  exact List.forall_mem_ne'

/-- The length of a text through the first occurrence of a character. -/
theorem lengthThrough?_append {c : Char} {t : Text} (h : c ∉ t) (rest : Text) :
    lengthThrough? c (t ++ rest) = (lengthThrough? c rest).map (· + t.length) := by
  rw [lengthThrough?, lengthThrough?, List.findIdx?_append, findIdx?_eq_none_iff.mpr h,
    Option.none_or, Option.map_map, Option.map_map]
  congr 1
  funext n
  exact Nat.add_right_comm n t.length 1

theorem lengthThrough?_append_cons {c : Char} {t : Text} (h : c ∉ t) (rest : Text) :
    lengthThrough? c (t ++ c :: rest) = some (t.length + 1) := by
  have hfirst : lengthThrough? c (c :: rest) = some 1 := by
    simp [lengthThrough?, List.findIdx?_cons]
  rw [lengthThrough?_append h, hfirst, Option.map_some, Nat.add_comm]

theorem strip_closeTag {name : Text} (h : '>' ∉ name) (rest : Text) :
    strip (closeTag name ++ rest) = strip rest := by
  have hwrite : closeTag name ++ rest = '<' :: '/' :: (name ++ '>' :: rest) := by
    simp [closeTag]
  have hlength : (closeTag name).length = name.length + 3 := by
    simp [closeTag]
  have hconstruct : construct (closeTag name ++ rest) =
      (Except.ok () >>= fun _ => .ok (.dropped (closeTag name).length) :
        Except Fault Construct) := by
    rw [hwrite, hlength]
    show Except.ok (Construct.ofLength?
      ((lengthThrough? '>' (name ++ '>' :: rest)).map (· + 2))) = _
    rw [lengthThrough?_append_cons h]
    rfl
  exact strip_tag rfl hconstruct

/-! ## Stripping a document -/

/-- A plain token shows what it shows, whatever follows it. -/
theorem Token.strip_write {token : Token} (h : token.IsPlain) (rest : Text) :
    strip (token.write ++ rest) =
      token.shown >>= fun shown => strip rest >>= fun more => .ok (shown ++ more) := by
  have hnothing : (strip rest >>= fun more => .ok ([] ++ more)) = strip rest := by
    cases strip rest with
    | error f => rfl
    | ok more => rfl
  cases token with
  | text t => exact strip_text t rest
  | opening name attributes =>
    obtain ⟨hname, hattributes⟩ := h
    show strip (openTag name attributes ++ rest) =
      (attributes.mapM fun a => unescape a.quoted) >>= (fun _ => .ok []) >>= _
    rw [strip_openTag hname hattributes]
    cases attributes.mapM fun a => unescape a.quoted with
    | error f => rfl
    | ok values => exact hnothing.symm
  | single name =>
    show strip (singleTag name ++ rest) = strip rest >>= fun more => .ok ([] ++ more)
    rw [strip_singleTag h, hnothing]
  | closing name =>
    show strip (closeTag name ++ rest) = strip rest >>= fun more => .ok ([] ++ more)
    rw [strip_closeTag h, hnothing]
  | anchor link number =>
    obtain ⟨htarget, hnumber⟩ := h
    have hwrite : (anchor link number).write ++ rest =
        openTag "a" [.ofClass "s", target link number] ++
          (openTag "span" [.ofClass "l"] ++ (number ++ (closeTag "span" ++ rest))) := by
      simp only [write, List.append_assoc]
    have hlink : ∀ a ∈ [.ofClass "s", target link number], a.IsPlain := by
      rw [List.forall_mem_cons, List.forall_mem_singleton]
      exact ⟨by decide, htarget⟩
    have hclose : ∀ c ∈ (closeTag "span" ++ rest).head?, c = '<' := by
      intro c hc
      exact (Option.some.inj hc).symm
    have hfirst : unescape (Attribute.quoted (.ofClass "s")) = .ok "\"s\"" := by
      decide +kernel
    have hsecond : unescape (Attribute.quoted (.ofClass "l")) = .ok "\"l\"" := by
      decide +kernel
    rw [hwrite, strip_openTag (by decide +kernel) hlink,
      strip_openTag (by decide +kernel) (by decide), strip_run hnumber hclose,
      strip_closeTag (by decide)]
    simp only [List.mapM_cons, List.mapM_nil, hfirst, hsecond]
    show _ = unescape (target link number).quoted >>= (fun _ => unescape number) >>= _
    cases unescape (target link number).quoted with
    | error f => rfl
    | ok value => rfl

namespace Document

theorem shown_cons (token : Token) (d : Document) :
    shown (token :: d) =
      token.shown >>= fun first => d.shown >>= fun rest => .ok (first ++ rest) := by
  rw [shown, shown, List.mapM_cons]
  cases token.shown with
  | error f => rfl
  | ok first =>
    cases d.mapM Token.shown with
    | error f => rfl
    | ok rest => rfl

theorem shown_append (a b : Document) :
    shown (a ++ b) = a.shown >>= fun first => b.shown >>= fun rest => .ok (first ++ rest) := by
  induction a with
  | nil =>
    show b.shown = b.shown >>= fun rest => .ok rest
    cases b.shown with
    | error f => rfl
    | ok rest => rfl
  | cons token a ih =>
    rw [List.cons_append, shown_cons, shown_cons, ih]
    cases token.shown with
    | error f => rfl
    | ok first =>
      cases shown a with
      | error f => rfl
      | ok second =>
        cases b.shown with
        | error f => rfl
        | ok rest =>
          show Except.ok (first ++ (second ++ rest)) = Except.ok (first ++ second ++ rest)
          rw [List.append_assoc]

theorem shown_append_of_ok {a b : Document} {s t : Text} (ha : a.shown = .ok s)
    (hb : b.shown = .ok t) : shown (a ++ b) = .ok (s ++ t) := by
  rw [shown_append, ha, hb]
  rfl

theorem write_append (a b : Document) : write (a ++ b) = a.write ++ b.write :=
  List.flatMap_append

theorem write_flatMap {α : Type} (items : List α) (f : α → Document) :
    write (items.flatMap f) = items.flatMap fun item => (f item).write :=
  List.flatMap_assoc

theorem write_text (t : Text) : write [.text t] = escape t :=
  List.flatMap_singleton ..

theorem shown_text (t : Text) : shown [.text t] = .ok t := by
  show Except.ok (t ++ []) = _
  rw [List.append_nil]

theorem shown_text_cons (t : Text) (d : Document) :
    shown (.text t :: d) = d.shown.map (t ++ ·) := by
  rw [shown_cons]
  cases d.shown with
  | error f => rfl
  | ok rest => rfl

theorem numbers_append (a b : Document) : numbers (a ++ b) = a.numbers ++ b.numbers :=
  List.flatMap_append

/-- A document of plain tokens is shown as what its tokens show, whatever follows it. -/
theorem strip_write_append {d : Document} (h : ∀ token ∈ d, token.IsPlain) (rest : Text) :
    strip (d.write ++ rest) =
      d.shown >>= fun shown => strip rest >>= fun more => .ok (shown ++ more) := by
  induction d with
  | nil =>
    show strip rest = strip rest >>= fun more => .ok more
    cases strip rest with
    | error f => rfl
    | ok more => rfl
  | cons token d ih =>
    obtain ⟨htoken, hrest⟩ := List.forall_mem_cons.mp h
    have hwrite : write (token :: d) ++ rest = token.write ++ (write d ++ rest) := by
      rw [write, List.flatMap_cons, List.append_assoc]
      rfl
    rw [hwrite, token.strip_write htoken, ih hrest, shown_cons]
    cases token.shown with
    | error f => rfl
    | ok first =>
      cases shown d with
      | error f => rfl
      | ok shown =>
        cases strip rest with
        | error f => rfl
        | ok more =>
          show Except.ok (first ++ (shown ++ more)) = Except.ok (first ++ shown ++ more)
          rw [List.append_assoc]

/-- A document of plain tokens is shown as what its tokens show. -/
theorem strip_write {d : Document} (h : ∀ token ∈ d, token.IsPlain) : strip d.write = d.shown := by
  have hwhole := strip_write_append h []
  rw [List.append_nil] at hwhole
  rw [hwhole]
  cases d.shown with
  | error f => rfl
  | ok t =>
    show Except.ok (t ++ []) = _
    rw [List.append_nil]

end Document

end HitListing.Markup
