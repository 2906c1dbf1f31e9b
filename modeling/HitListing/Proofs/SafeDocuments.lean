import HitListing.Proofs.Documents

/-!
# Safe documents

A document is safe if all texts in it are escaped, encoded or known; only the
numbers of lines, which stand in it as they are, may be anything.  Whether its
markup does what it should then depends on these numbers alone: the values in its
tags are clean exactly if the numbers are, and the text it shows is what is
stripped from it, and nothing is lost, exactly if in addition no reference in a
number is too long (`Document.IsSafe.reads_iff`).
-/

namespace HitListing.Markup

/-! ## Safe tokens -/

namespace Attribute

/-- The quotes around a value are no part of a reference. -/
theorem hasLongReference_quoted (a : Attribute) :
    HasLongReference a.quoted ↔ HasLongReference a.value := by
  have hquoted : a.quoted = ['"'] ++ (a.value ++ ['"']) := rfl
  rw [hquoted, hasLongReference_append (by decide), hasLongReference_concat (by decide)]

/-- Whether an attribute has a name that it can be found by, and a value that is clean and can
be read. -/
structure IsSafe (a : Attribute) : Prop where
  name : IsKey a.name
  clean : IsClean a.value
  read : ¬HasLongReference a.value

theorem IsSafe.isPlain {a : Attribute} (h : a.IsSafe) : a.IsPlain :=
  ⟨h.name, fun hquote => (h.clean '"' hquote).1 rfl⟩

end Attribute

theorem IsLink.not_hasLongReference {t : Text} (h : IsLink t) : ¬HasLongReference t := by
  have hnil := hasLongReference_append h.2 []
  rw [List.append_nil] at hnil
  exact fun hlong => not_hasLongReference_nil (hnil.mp hlong)

namespace Token

/-- Whether a token is told from the text around it, and can be read, as far as that does not
depend on numbers that it holds. -/
def IsSafe : Token → Prop
  | text _ => True
  | opening name attributes => IsElement name ∧ ∀ a ∈ attributes, a.IsSafe
  | single name => IsLetters name
  | closing name => '>' ∉ name
  | anchor link _ => IsLink link

variable {token : Token}

/-- A link to a line is clean if the number is. -/
theorem isClean_target {link : Text} (h : IsLink link) (number : Text) :
    IsClean (target link number).value ↔ IsClean number := by
  have hhash : IsClean "#" := by decide
  rw [target, isClean_append, isClean_append]
  exact ⟨fun hall => hall.2, fun hnumber => ⟨⟨h.1, hhash⟩, hnumber⟩⟩

/-- A link to a line can be read if the number can. -/
theorem hasLongReference_target {link : Text} (h : IsLink link) (number : Text) :
    HasLongReference (target link number).value ↔ HasLongReference number := by
  have hfront : '&' ∉ link ++ "#" := by
    rw [List.mem_append, not_or]
    exact ⟨h.2, by decide⟩
  exact hasLongReference_append hfront number

/-- A safe token is plain if its numbers are clean. -/
theorem IsSafe.isPlain (h : token.IsSafe) (hnumbers : ∀ n ∈ token.numbers, IsClean n) :
    token.IsPlain := by
  cases token with
  | text t => trivial
  | opening name attributes => exact ⟨h.1, fun a ha => (h.2 a ha).isPlain⟩
  | single name => exact h
  | closing name => exact h
  | anchor link number =>
    have hnumber : IsClean number := hnumbers number List.mem_cons_self
    have htarget : IsClean (target link number).value := (isClean_target h number).mpr hnumber
    have hname : IsKey "href" := by decide
    exact ⟨⟨hname, fun hquote => (htarget '"' hquote).1 rfl⟩,
      fun hopen => (hnumber '<' hopen).2.1 rfl⟩

/-- The values in a safe token are clean exactly if its numbers are. -/
theorem IsSafe.isClean_values_iff (h : token.IsSafe) :
    (∀ v ∈ token.values, IsClean v) ↔ ∀ n ∈ token.numbers, IsClean n := by
  cases token with
  | text t => exact Iff.rfl
  | opening name attributes =>
    refine iff_of_true ?_ nofun
    intro v hv
    obtain ⟨a, ha, rfl⟩ := List.mem_map.mp hv
    exact (h.2 a ha).clean
  | single name => exact Iff.rfl
  | closing name => exact Iff.rfl
  | anchor link number =>
    have hfirst : IsClean "s" := by decide
    have hlast : IsClean "l" := by decide
    simp only [values, numbers, List.forall_mem_cons, isClean_target h, hfirst, hlast, true_and]

/-- A safe token is shown exactly if its numbers can be read. -/
theorem IsSafe.succeeds_shown_iff (h : token.IsSafe) :
    Succeeds token.shown ↔ ∀ n ∈ token.numbers, ¬HasLongReference n := by
  cases token with
  | text t => exact iff_of_true (succeeds_ok t) nofun
  | opening name attributes =>
    refine iff_of_true ?_ nofun
    refine succeeds_bind_ok_iff.mpr (succeeds_mapM_iff.mpr ?_)
    intro a ha
    rw [succeeds_unescape_iff, a.hasLongReference_quoted]
    exact (h.2 a ha).read
  | single name => exact iff_of_true (succeeds_ok []) nofun
  | closing name => exact iff_of_true (succeeds_ok []) nofun
  | anchor link number =>
    have hboth : Succeeds (shown (anchor link number)) ↔
        Succeeds (unescape (target link number).quoted) ∧ Succeeds (unescape number) :=
      succeeds_bind_iff_of_forall fun _ _ => Iff.rfl
    rw [hboth, succeeds_unescape_iff, succeeds_unescape_iff, Attribute.hasLongReference_quoted,
      hasLongReference_target h, and_self, numbers, List.forall_mem_singleton]

end Token

/-! ## Safe documents -/

namespace Document

/-- Whether all tokens of a document are safe. -/
def IsSafe (d : Document) : Prop :=
  ∀ token ∈ d, token.IsSafe

theorem isSafe_append {a b : Document} : IsSafe (a ++ b) ↔ a.IsSafe ∧ b.IsSafe :=
  List.forall_mem_append

theorem isSafe_cons {token : Token} {d : Document} :
    IsSafe (token :: d) ↔ token.IsSafe ∧ d.IsSafe :=
  List.forall_mem_cons

theorem isSafe_text (t : Text) : IsSafe [.text t] :=
  List.forall_mem_singleton.mpr trivial

theorem isSafe_flatMap {α : Type} {items : List α} {f : α → Document}
    (h : ∀ item, (f item).IsSafe) : IsSafe (items.flatMap f) := by
  intro token htoken
  obtain ⟨item, _, hin⟩ := List.mem_flatMap.mp htoken
  exact h item token hin

variable {d : Document}

/-- A safe document is plain if its numbers are clean. -/
theorem IsSafe.isPlain (h : d.IsSafe) (hnumbers : ∀ n ∈ d.numbers, IsClean n) :
    ∀ token ∈ d, token.IsPlain := by
  intro token htoken
  refine (h token htoken).isPlain fun n hn => hnumbers n ?_
  exact List.mem_flatMap.mpr ⟨token, htoken, hn⟩

/-- The values in a safe document are clean exactly if its numbers are. -/
theorem IsSafe.isClean_values_iff (h : d.IsSafe) :
    (∀ v ∈ d.values, IsClean v) ↔ ∀ n ∈ d.numbers, IsClean n := by
  rw [values, numbers, List.forall_mem_flatMap, List.forall_mem_flatMap]
  exact forall₂_congr fun token htoken => (h token htoken).isClean_values_iff

/-- A safe document is shown exactly if its numbers can be read. -/
theorem IsSafe.succeeds_shown_iff (h : d.IsSafe) :
    Succeeds d.shown ↔ ∀ n ∈ d.numbers, ¬HasLongReference n := by
  rw [shown, succeeds_map_iff, succeeds_mapM_iff, numbers, List.forall_mem_flatMap]
  exact forall₂_congr fun token htoken => (h token htoken).succeeds_shown_iff

/-- A safe document is read as what it shows, and has clean values, exactly if its numbers are
clean and can be read. -/
theorem IsSafe.reads_iff (h : d.IsSafe) :
    ((∃ t, strip d.write = .ok t ∧ d.shown = .ok t) ∧ ∀ v ∈ d.values, IsClean v) ↔
      ∀ n ∈ d.numbers, IsClean n ∧ ¬HasLongReference n := by
  rw [h.isClean_values_iff]
  constructor
  · intro hall
    obtain ⟨⟨t, _, hshown⟩, hclean⟩ := hall
    intro n hn
    exact ⟨hclean n hn, h.succeeds_shown_iff.mp ⟨t, hshown⟩ n hn⟩
  · intro hall
    have hclean : ∀ n ∈ d.numbers, IsClean n := fun n hn => (hall n hn).1
    obtain ⟨t, ht⟩ := h.succeeds_shown_iff.mpr fun n hn => (hall n hn).2
    refine ⟨⟨t, ?_, ht⟩, hclean⟩
    rw [strip_write (h.isPlain hclean), ht]

end Document

/-! ## Elements -/

namespace Attribute

/-- A value that may stand in a link is safe. -/
theorem isSafe_of_isLink {name value : Text} (hname : IsKey name) (h : IsLink value) :
    IsSafe ⟨name, value⟩ :=
  ⟨hname, h.1, h.not_hasLongReference⟩

theorem isSafe_ofClass {value : Text} (h : IsLink value) : (ofClass value).IsSafe :=
  isSafe_of_isLink (by decide) h

/-- An escaped value is safe. -/
theorem isSafe_escape {name : Text} (hname : IsKey name) (t : Text) :
    IsSafe ⟨name, escape t⟩ :=
  ⟨hname, isClean_escape t, not_hasLongReference_escape t⟩

end Attribute

namespace Document

/-- An element around a document. -/
def element (name : Text) (attributes : List Attribute) (inner : Document) : Document :=
  .opening name attributes :: (inner ++ [.closing name])

theorem write_element (name : Text) (attributes : List Attribute) (inner : Document) :
    write (element name attributes inner) =
      openTag name attributes ++ (inner.write ++ closeTag name) := by
  rw [element, write, List.flatMap_cons, List.flatMap_append, List.flatMap_singleton]
  rfl

theorem isSafe_element {name : Text} {attributes : List Attribute} {inner : Document}
    (hname : IsElement name) (hattributes : ∀ a ∈ attributes, a.IsSafe) (h : inner.IsSafe) :
    IsSafe (element name attributes inner) := by
  have hclosing : '>' ∉ name := by
    intro hend
    have halpha : ('>' : Char).isAlpha = true := hname.1.2 '>' hend
    cases halpha
  rw [element, isSafe_cons, isSafe_append]
  exact ⟨⟨hname, hattributes⟩, h, List.forall_mem_singleton.mpr hclosing⟩

/-- An element that has nothing but a class is safe around a safe document. -/
theorem isSafe_styled {name value : Text} {inner : Document} (hname : IsElement name)
    (hvalue : IsLink value) (h : inner.IsSafe) :
    IsSafe (element name [.ofClass value] inner) :=
  isSafe_element hname (List.forall_mem_singleton.mpr (Attribute.isSafe_ofClass hvalue)) h

/-- An element shows what is in it. -/
theorem shown_element {name : Text} {attributes : List Attribute}
    (hattributes : ∀ a ∈ attributes, a.IsSafe) (inner : Document) :
    shown (element name attributes inner) = inner.shown := by
  have hopening : Succeeds (attributes.mapM fun a => unescape a.quoted) := by
    refine succeeds_mapM_iff.mpr fun a ha => ?_
    rw [succeeds_unescape_iff, a.hasLongReference_quoted]
    exact (hattributes a ha).read
  obtain ⟨values, hvalues⟩ := hopening
  have hfirst : (Token.opening name attributes).shown = .ok [] := by
    rw [Token.shown, hvalues]
    rfl
  rw [element, shown_cons, hfirst, shown_append]
  cases inner.shown with
  | error f => rfl
  | ok t =>
    show Except.ok ([] ++ (t ++ [])) = Except.ok t
    rw [List.nil_append, List.append_nil]

theorem shown_styled {value : Text} (h : IsLink value) (name : Text) (inner : Document) :
    shown (element name [.ofClass value] inner) = inner.shown :=
  shown_element (List.forall_mem_singleton.mpr (Attribute.isSafe_ofClass h)) inner

/-- An element holds the numbers of what is in it. -/
theorem numbers_element (name : Text) (attributes : List Attribute) (inner : Document) :
    numbers (element name attributes inner) = inner.numbers := by
  rw [element, numbers, List.flatMap_cons, List.flatMap_append]
  exact List.append_nil _

/-- A link around a document. -/
def link (target : Text) (attributes : List Attribute) (inner : Document) : Document :=
  element "a" (⟨"href", target⟩ :: attributes) inner

theorem write_link (target : Text) (attributes : List Attribute) (inner : Document) :
    write (link target attributes inner) =
      "<a href=\"" ++ target ++ "\"" ++ attributes.flatMap (·.write) ++ ">" ++ inner.write ++
        "</a>" := by
  rw [link, write_element]
  simp [openTag, closeTag, Attribute.write, Attribute.quoted]

theorem numbers_link (target : Text) (attributes : List Attribute) (inner : Document) :
    numbers (link target attributes inner) = inner.numbers :=
  numbers_element ..

theorem isSafe_link {target : Text} {attributes : List Attribute} {inner : Document}
    (htarget : IsLink target) (hattributes : ∀ a ∈ attributes, a.IsSafe) (h : inner.IsSafe) :
    IsSafe (link target attributes inner) := by
  have hhref : Attribute.IsSafe ⟨"href", target⟩ := Attribute.isSafe_of_isLink (by decide) htarget
  exact isSafe_element (by decide +kernel) (List.forall_mem_cons.mpr ⟨hhref, hattributes⟩) h

theorem shown_link {target : Text} {attributes : List Attribute} (htarget : IsLink target)
    (hattributes : ∀ a ∈ attributes, a.IsSafe) (inner : Document) :
    shown (link target attributes inner) = inner.shown := by
  have hhref : Attribute.IsSafe ⟨"href", target⟩ := Attribute.isSafe_of_isLink (by decide) htarget
  exact shown_element (List.forall_mem_cons.mpr ⟨hhref, hattributes⟩) inner

end Document

end HitListing.Markup
