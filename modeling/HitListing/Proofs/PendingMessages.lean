import HitListing.Proofs.PageDocument

/-!
# Pending messages

Which messages of a project are shown on a page, and that they can be had back
from it.  A message that was loaded is loaded again from what is shown of it
(`Message.ofJson_toJson`), but for its tags, of which the main one is left.  The
header of a directory that comes to its end carries a mark exactly if the project
of the directory has pending messages, and the value in the mark, unescaped and
read as JSON, is the list of them (`Page.carriesMark_header_iff`).  What is needed
for that is a text as the name of the project, which the mark links to, and as
the description of the directory (`Page.result_header_eq_ok_iff`).
-/

namespace HitListing

/-! ## Messages as they are shown -/

theorem Json.same_str_iff {t : Text} {v : Json} : Json.same (.str t) v = true ↔ v = .str t := by
  cases v with
  | str s => simpa [Json.same] using eq_comm
  | _ => simp [Json.same]

namespace Message

theorem hasTag_iff {m : Message} {tag : Text} : m.hasTag tag = true ↔ .str tag ∈ m.tags := by
  simp [hasTag, Json.same_str_iff]

/-- A moment, or none, as it is shown. -/
def showMoment : Option Calendar.Moment → Json
  | some m => .str m.iso
  | none => .null

theorem toJson_eq (m : Message) :
    m.toJson = .obj [("class", m.cssClass), ("text", m.text), ("created", showMoment m.created),
      ("expiration", showMoment m.expiration)] := rfl

theorem readMoment_showMoment {moment : Option Calendar.Moment}
    (h : ∀ e ∈ moment, e.IsReadable) : readMoment (showMoment moment) = .ok moment := by
  cases moment with
  | none => rfl
  | some m =>
    rw [showMoment, readMoment, Calendar.Iso.readUniversal_iso (h m rfl)]
    rfl

/-- The message with the main tag only. -/
def retagged (m : Message) : Message :=
  { m with tags := [.str mainTag] }

/-- What is shown of a message is loaded as that message with the main tag. -/
theorem ofJson_toJson {m : Message} (h : m.IsReadable) : ofJson m.toJson = .ok m.retagged := by
  show (readMoment (showMoment m.created) >>= fun created =>
    readMoment (showMoment m.expiration) >>= fun expiration =>
      .ok (Message.mk m.text [.str mainTag] m.cssClass created expiration)) = _
  rw [readMoment_showMoment h.created, readMoment_showMoment h.expiration]
  rfl

theorem mapM_ofJson_toJson {messages : List Message} (h : ∀ m ∈ messages, m.IsReadable) :
    (messages.map (·.toJson)).mapM ofJson = .ok (messages.map retagged) := by
  induction messages with
  | nil => rfl
  | cons m messages ih =>
    obtain ⟨hm, hmessages⟩ := List.forall_mem_cons.mp h
    rw [List.map_cons, List.mapM_cons, ofJson_toJson hm, ih hmessages]
    rfl

/-- Whether what is shown of a message is texts. -/
structure HasTexts (m : Message) : Prop where
  text : ∃ t, m.text = .str t
  cssClass : ∃ t, m.cssClass = .str t

theorem isSimple_showMoment (moment : Option Calendar.Moment) :
    (showMoment moment).IsSimple ∧ (showMoment moment).numeralsFit = true := by
  cases moment <;> exact ⟨trivial, rfl⟩

theorem isSimple_toJson {m : Message} (h : m.HasTexts) :
    m.toJson.IsSimple ∧ m.toJson.numeralsFit = true := by
  obtain ⟨⟨text, htext⟩, ⟨cssClass, hclass⟩⟩ := h
  obtain ⟨hcreated, hcreatedFits⟩ := isSimple_showMoment m.created
  obtain ⟨hexpiration, hexpirationFits⟩ := isSimple_showMoment m.expiration
  rw [toJson_eq, htext, hclass]
  constructor
  · rw [Json.IsSimple]
    exact ⟨by simp, trivial, trivial, hcreated, hexpiration, trivial⟩
  · simp [Json.numeralsFit, Json.fieldsFit, hcreatedFits, hexpirationFits]

theorem numeralsFit_map_toJson {messages : List Message} (h : ∀ m ∈ messages, m.HasTexts) :
    (Json.arr (messages.map (·.toJson))).numeralsFit = true := by
  rw [Json.numeralsFit, Json.itemsFit_iff, List.forall_mem_map]
  exact fun m hm => (isSimple_toJson (h m hm)).2

/-- Messages are read back from their text. -/
theorem read_write_toJson {messages : List Message} (h : ∀ m ∈ messages, m.HasTexts) :
    Json.read (Json.arr (messages.map (·.toJson))).write =
      .ok (.arr (messages.map (·.toJson))) := by
  have hsimple : (Json.arr (messages.map (·.toJson))).IsSimple := by
    rw [Json.IsSimple, Json.itemsSimple_iff, List.forall_mem_map]
    exact fun m hm => (isSimple_toJson (h m hm)).1
  rw [Json.read_write hsimple, numeralsFit_map_toJson h]
  rfl

end Message

namespace Project

/-- Whether a message is shown at a moment: it is for the main page and has not expired. -/
def IsShown (now : Calendar.Moment) (m : Message) : Prop :=
  .str Message.mainTag ∈ m.tags ∧ ∀ e ∈ m.expiration, now.instant < e.instant

instance (now : Calendar.Moment) (m : Message) : Decidable (IsShown now m) :=
  inferInstanceAs (Decidable (_ ∧ _))

theorem isPending_eq (now : Calendar.Moment) (m : Message) :
    isPending Message.mainTag now m = decide (IsShown now m) := by
  rw [Bool.eq_iff_iff, decide_eq_true_iff, isPending, Bool.and_eq_true, Message.hasTag_iff,
    IsShown]
  cases m.expiration <;> simp

/-- The messages that are shown, in order. -/
theorem messagesJson_eq {p : Project} {now : Calendar.Moment} (h : p.IsTimed)
    (hnow : now.offset.isSome) :
    p.messagesJson Message.mainTag now =
      .ok ((p.messages.filter fun m => IsShown now m).map (·.toJson)) := by
  have hfilter : p.messages.filter (isPending Message.mainTag now) =
      p.messages.filter fun m => IsShown now m :=
    List.filter_congr fun m _ => isPending_eq now m
  rw [messagesJson, pending_eq_filter h hnow, hfilter]
  rfl

theorem messagesJson_retagged {p : Project} {now : Calendar.Moment} (h : p.IsTimed)
    (hnow : now.offset.isSome) {messages : List Message} (hshown : ∀ m ∈ messages, IsShown now m)
    (hmessages : p.messages = messages.map Message.retagged) :
    p.messagesJson Message.mainTag now = .ok (messages.map (·.toJson)) := by
  have hall : ∀ m ∈ p.messages, decide (IsShown now m) = true := by
    rw [hmessages, List.forall_mem_map]
    intro m hm
    exact decide_eq_true ⟨List.mem_singleton_self _, (hshown m hm).2⟩
  rw [messagesJson_eq h hnow, List.filter_eq_self.mpr hall, hmessages, List.map_map]
  rfl

/-- A row with shown messages is loaded as a project with these. -/
theorem exists_ofJson_of_messages {fields : List (Text × Json)} {messages : List Message}
    (h : ∀ m ∈ messages, m.IsReadable)
    (hmessages : Json.lookup "messages" fields = some (.arr (messages.map (·.toJson))))
    (hname : ∃ name, Json.lookup "name" fields = some name)
    (hwidth : ∀ width, Json.lookup "tab_size" fields = some width → Succeeds width.toWhole) :
    ∃ p, ofJson (.obj fields) = .ok p ∧ p.messages = messages.map Message.retagged := by
  obtain ⟨name, hname⟩ := hname
  have htabSize : Succeeds ((Json.lookup "tab_size" fields).getD (.int 0)).toWhole := by
    cases hlookup : Json.lookup "tab_size" fields with
    | none => exact succeeds_ok 0
    | some width => exact hwidth width hlookup
  obtain ⟨tabSize, htabSize⟩ := htabSize
  refine ⟨⟨name, (Json.lookup "path" fields).getD name, tabSize, messages.map Message.retagged⟩,
    ?_, rfl⟩
  have hrequire : Json.require "name" fields = .ok name := by rw [Json.require, hname]
  show (((Json.lookup "messages" fields).getD (.arr [])).each >>= fun entries =>
    entries.mapM Message.ofJson >>= fun messages => Json.require "name" fields >>= fun name =>
      ((Json.lookup "tab_size" fields).getD (.int 0)).toWhole >>= fun tabSize =>
        .ok (Project.mk name ((Json.lookup "path" fields).getD name) tabSize messages)) = _
  rw [hmessages]
  show ((messages.map (·.toJson)).mapM Message.ofJson >>= _) = _
  rw [Message.mapM_ofJson_toJson h, hrequire, htabSize]
  rfl

end Project

namespace Registry

theorem load_singleton {entry : Json} {p : Project} (h : Project.ofJson entry = .ok p) :
    load (.arr [entry]) = .ok ⟨[p]⟩ := by
  show ([entry].mapM Project.ofJson >>= fun projects => .ok (Registry.mk projects)) = _
  rw [List.mapM_cons, h]
  rfl

end Registry

/-! ## Tags that a text does not have -/

namespace Markup

/-- Whether behind each bracket that may open a tag there is a character, and another one than the
given. -/
def LacksTag (c : Char) : Text → Prop
  | [] => True
  | a :: t => (a = '<' → t.head?.any (· ≠ c) = true) ∧ LacksTag c t

/-- Texts are checked character by character. -/
def LacksTag.decide (c : Char) : (t : Text) → Decidable (LacksTag c t)
  | [] => .isTrue trivial
  | a :: t =>
    have := LacksTag.decide c t
    inferInstanceAs (Decidable ((a = '<' → t.head?.any (· ≠ c) = true) ∧ LacksTag c t))

instance (c : Char) (t : Text) : Decidable (LacksTag c t) :=
  LacksTag.decide c t

variable {c : Char} {s t : Text}

theorem lacksTag_of_not_mem (h : '<' ∉ t) : LacksTag c t := by
  induction t with
  | nil => trivial
  | cons a t ih =>
    rw [List.mem_cons, not_or] at h
    exact ⟨fun ha => absurd ha.symm h.1, ih h.2⟩

theorem IsClean.lacksTag (h : IsClean t) : LacksTag c t :=
  lacksTag_of_not_mem fun hmem => (h '<' hmem).2.1 rfl

theorem LacksTag.append (hs : LacksTag c s) (ht : LacksTag c t) : LacksTag c (s ++ t) := by
  induction s with
  | nil => exact ht
  | cons a s ih =>
    refine ⟨fun ha => ?_, ih hs.2⟩
    have hnext := hs.1 ha
    cases s with
    | nil => cases hnext
    | cons b s => exact hnext

theorem not_lacksTag_append (before after : Text) :
    ¬LacksTag c (before ++ '<' :: c :: after) := by
  induction before with
  | nil =>
    rintro ⟨htag, -⟩
    exact of_decide_eq_true (htag rfl) rfl
  | cons a before ih => exact fun h => ih h.2

/-- A tag that stands between parts that lack it is at one place only. -/
theorem LacksTag.eq_of_append_eq {s' t' : Text} (hc : c ≠ '<') (hs : LacksTag c s)
    (ht : LacksTag c t) (h : s' ++ '<' :: c :: t' = s ++ '<' :: c :: t) : s' = s ∧ t' = t := by
  induction s generalizing s' with
  | nil =>
    match s', h with
    | [], h => exact ⟨rfl, by simpa using h⟩
    | [a], h => exact absurd (List.cons.inj (List.cons.inj h).2).1.symm hc
    | a :: b :: s', h =>
      rw [← (List.cons.inj (List.cons.inj h).2).2] at ht
      exact absurd ht (not_lacksTag_append s' t')
  | cons a s ih =>
    cases s' with
    | nil =>
      -- the tag would begin within the first part
      obtain ⟨rfl, hrest⟩ := List.cons.inj h
      have hnext := hs.1 rfl
      cases s with
      | nil => cases hnext
      | cons b s => exact absurd (List.cons.inj hrest).1.symm (of_decide_eq_true hnext)
    | cons a' s' =>
      obtain ⟨rfl, hrest⟩ := List.cons.inj h
      obtain ⟨rfl, hafter⟩ := ih hs.2 hrest
      exact ⟨rfl, hafter⟩

/-- A quoted value ends at the first quote. -/
theorem eq_of_append_quote {a b after after' : Text} (ha : '"' ∉ a) (hb : '"' ∉ b)
    (h : a ++ '"' :: after = b ++ '"' :: after') : a = b := by
  have hcut := cutAt?_append_cons ha after
  rw [h, cutAt?_append_cons hb after'] at hcut
  exact (Prod.mk.inj (Option.some.inj hcut)).1.symm

end Markup

/-! ## Marks -/

namespace Page

open Markup (LacksTag IsClean isClean_escape)

/-- What stands before the value of a mark for pending messages. -/
def markOpening : Text :=
  "<span class=\"important-note important-note-rounded\" data-messages=\""

/-- What stands behind the quote after the value of a mark. -/
def markClosing : Text :=
  ">!</span></a>"

/-- Whether markup has a mark with a value. -/
def CarriesMark (t value : Text) : Prop :=
  '"' ∉ value ∧ ∃ before after, t = before ++ (markOpening ++ (value ++ '"' :: after))

/-- A mark begins with a bracket and an `s`. -/
theorem markOpening_eq : markOpening = '<' :: 's' :: markOpening.drop 2 := rfl

theorem lacksTag_drop_markOpening : LacksTag 's' (markOpening.drop 2) := by
  unfold markOpening
  decide

theorem not_carriesMark_of_lacksTag {t : Text} (h : LacksTag 's' t) (value : Text) :
    ¬CarriesMark t value := by
  rintro ⟨-, before, after, rfl⟩
  rw [markOpening_eq] at h
  exact Markup.not_lacksTag_append before (markOpening.drop 2 ++ (value ++ '"' :: after)) h

/-- Of markup with one mark and no other tags that begin like it the value is that of the mark. -/
theorem carriesMark_append_iff {front value back : Text} (hfront : LacksTag 's' front)
    (hvalue : IsClean value) (hback : LacksTag 's' back) (other : Text) :
    CarriesMark (front ++ (markOpening ++ (value ++ '"' :: back))) other ↔ other = value := by
  have hquote : '"' ∉ value := fun hmem => (hvalue _ hmem).1 rfl
  constructor
  · rintro ⟨hother, before, after, heq⟩
    have hrest : LacksTag 's' (markOpening.drop 2 ++ (value ++ '"' :: back)) := by
      have hcons : LacksTag 's' ['"'] := by decide
      exact lacksTag_drop_markOpening.append (hvalue.lacksTag.append (hcons.append hback))
    rw [markOpening_eq, List.cons_append, List.cons_append, List.cons_append,
      List.cons_append] at heq
    obtain ⟨-, heq⟩ := LacksTag.eq_of_append_eq (by decide) hfront hrest heq.symm
    exact Markup.eq_of_append_quote hother hquote (List.append_cancel_left heq)
  · rintro rfl
    exact ⟨hquote, front, back, rfl⟩

variable {p : Page}

/-! ## Headers with marks -/

/-- The header of a directory before its description. -/
def headerOpening (p : Page) (directory : Text) : Text :=
  "<tr class=\"dir\"><td colspan=\"3\"><a href=\"" ++ p.directoryLink directory ++ "\">" ++
    Markup.escape directory ++ "/</a>"

/-- The end of a header. -/
def headerClosing : Text :=
  "</td></tr>"

/-- What stands before a mark: the beginning of a link to the project. -/
def markFront (p : Page) (name : Text) : Text :=
  " <a href=\"" ++ p.xrefBase ++ "/" ++ Uri.encodePath name ++ "\">"

theorem lacksTag_xrefBase : LacksTag 's' p.xrefBase :=
  (Markup.isLink_encodePath _).1.lacksTag.append (t := "/xref".toList) (by decide)

theorem lacksTag_directoryLink (directory : Text) :
    LacksTag 's' (p.directoryLink directory) := by
  have hslash : LacksTag 's' ['/'] := by decide
  refine (lacksTag_xrefBase.append hslash).append ?_
  split
  · exact (by decide : LacksTag 's' [])
  · exact (Markup.isLink_encodePath _).1.lacksTag.append hslash

theorem lacksTag_headerOpening (directory : Text) : LacksTag 's' (p.headerOpening directory) := by
  have hopen : LacksTag 's' "<tr class=\"dir\"><td colspan=\"3\"><a href=\"".toList := by
    decide
  have hquote : LacksTag 's' "\">".toList := by decide
  have hclose : LacksTag 's' "/</a>".toList := by decide
  exact (((hopen.append (lacksTag_directoryLink directory)).append hquote).append
    (isClean_escape directory).lacksTag).append hclose

theorem lacksTag_description (directory : Text) :
    LacksTag 's' (p.description directory).text := by
  have hopen : LacksTag 's' " - <i>".toList := by decide
  have hclose : LacksTag 's' "</i>".toList := by decide
  unfold description
  cases p.describe directory with
  | error f => exact (by decide : LacksTag 's' [])
  | ok found =>
    cases found with
    | none => exact (by decide : LacksTag 's' [])
    | some value =>
      cases value with
      | str t => exact hopen.append ((isClean_escape t).lacksTag.append hclose)
      | _ => exact hopen

theorem lacksTag_markFront (name : Text) : LacksTag 's' (p.markFront name) := by
  have hopen : LacksTag 's' " <a href=\"".toList := by decide
  have hslash : LacksTag 's' ['/'] := by decide
  have hquote : LacksTag 's' "\">".toList := by decide
  exact (((hopen.append lacksTag_xrefBase).append hslash).append
    (Markup.isLink_encodePath name).1.lacksTag).append hquote

section Header

variable {directory : Text} {project : Project} {entries : List Json}
  (hfound : p.projectOf directory = .ok (some project))
  (hentries : project.messagesJson Message.mainTag p.now = .ok entries)

include hfound hentries

/-- The header of a directory whose project has these pending messages. -/
theorem header_eq_bind :
    p.header directory = (Draft.write (p.headerOpening directory) >>= fun _ =>
      p.description directory >>= fun _ =>
        (if entries = [] then pure () else p.mark project entries) >>= fun _ =>
          Draft.write headerClosing >>= fun _ => pure (some project)) := by
  unfold header
  rw [hfound]
  simp only [Draft.ofExcept_ok, pure_bind, messages_of_ok hentries]
  rfl

/-- A header breaks off at a description that is no text. -/
theorem header_of_not_isDescribed (h : ¬p.IsDescribed directory) :
    (p.header directory).result ≠ .ok (some project) ∧
      (p.header directory).text =
        p.headerOpening directory ++ (p.description directory).text := by
  have hopen : (Draft.write (p.headerOpening directory)).result = .ok () := rfl
  cases hdescription : (p.description directory).result with
  | ok done => exact absurd (result_description_eq_ok_iff.mp hdescription) h
  | error f =>
    rw [header_eq_bind hfound hentries, Draft.bind_of_ok hopen, Draft.bind_of_error hdescription]
    exact ⟨nofun, rfl⟩

/-- What follows the description of a directory in its header. -/
theorem header_of_isDescribed (h : p.IsDescribed directory) :
    let rest := (if entries = [] then pure () else p.mark project entries) >>= fun _ =>
      Draft.write headerClosing >>= fun _ => pure (some project)
    (p.header directory).result = rest.result ∧
      (p.header directory).text =
        p.headerOpening directory ++ (p.description directory).text ++ rest.text := by
  have hopen : (Draft.write (p.headerOpening directory)).result = .ok () := rfl
  have hdescription := result_description_eq_ok_iff.mpr h
  intro rest
  rw [header_eq_bind hfound hentries, Draft.bind_of_ok hopen, Draft.bind_of_ok hdescription,
    List.append_assoc]
  exact ⟨rfl, rfl⟩

/-- A header comes to its end if the description of the directory is a text, and the name of its
project too, should there be pending messages. -/
theorem result_header_eq_ok_iff (hfits : (Json.arr entries).numeralsFit = true) :
    (p.header directory).result = .ok (some project) ↔
      p.IsDescribed directory ∧ (entries ≠ [] → ∃ name, project.name = .str name) := by
  by_cases hdescribed : p.IsDescribed directory
  · rw [(header_of_isDescribed hfound hentries hdescribed).1, and_iff_right hdescribed]
    by_cases hnone : entries = []
    · rw [if_pos hnone]
      exact iff_of_true rfl fun hne => absurd hnone hne
    · rw [if_neg hnone, forall_prop_of_true hnone]
      cases hmark : (p.mark project entries).result with
      | ok done =>
        obtain ⟨name, hname, _⟩ := exists_of_mark hmark
        rw [Draft.result_bind_of_ok hmark]
        exact iff_of_true rfl ⟨name, hname⟩
      | error f =>
        rw [Draft.result_bind_of_error hmark]
        refine iff_of_false nofun fun hname => ?_
        rcases of_result_mark_error hmark with ⟨_, hnone⟩ | ⟨_, hlong⟩
        · obtain ⟨name, hname⟩ := hname
          exact hnone name hname
        · rw [hfits] at hlong
          cases hlong
  · exact iff_of_false (header_of_not_isDescribed hfound hentries hdescribed).1 fun h =>
      hdescribed h.1

/-- A header carries a mark exactly if it comes to its end and the project of its directory has
pending messages, and the mark has these as its value. -/
theorem carriesMark_header_iff (hfits : (Json.arr entries).numeralsFit = true) (value : Text) :
    CarriesMark (p.header directory).text value ↔
      (p.header directory).result = .ok (some project) ∧ entries ≠ [] ∧
        value = Markup.escape (Json.arr entries).write := by
  have hfront : LacksTag 's' (p.headerOpening directory ++ (p.description directory).text) :=
    (lacksTag_headerOpening directory).append (lacksTag_description directory)
  have hclosing : LacksTag 's' headerClosing := by
    unfold headerClosing
    decide
  by_cases hdescribed : p.IsDescribed directory
  · obtain ⟨hresult, htext⟩ := header_of_isDescribed hfound hentries hdescribed
    by_cases hnone : entries = []
    · rw [htext, if_pos hnone]
      exact iff_of_false (not_carriesMark_of_lacksTag (hfront.append hclosing) value) fun h =>
        h.2.1 hnone
    · rw [if_neg hnone] at hresult htext
      cases hmark : (p.mark project entries).result with
      | error f =>
        have hname : ∀ name, project.name ≠ .str name := by
          rcases of_result_mark_error hmark with ⟨_, hname⟩ | ⟨_, hlong⟩
          · exact hname
          · rw [hfits] at hlong
            cases hlong
        rw [Draft.result_bind_of_error hmark] at hresult
        rw [Draft.text_bind_of_error hmark, text_mark_of_name_ne hname, List.append_nil] at htext
        rw [htext, hresult]
        exact iff_of_false (not_carriesMark_of_lacksTag hfront value) nofun
      | ok done =>
        obtain ⟨name, _, hwritten⟩ := exists_of_mark hmark
        have hend : LacksTag 's' markClosing := by
          unfold markClosing
          decide
        have hwhole : (p.header directory).text =
            p.headerOpening directory ++ (p.description directory).text ++ p.markFront name ++
              (markOpening ++ (Markup.escape (Json.arr entries).write ++
                '"' :: (markClosing ++ headerClosing))) := by
          rw [htext, Draft.text_bind_of_ok hmark, hwritten]
          unfold markFront markOpening markClosing
          simp only [List.append_assoc]
          rfl
        rw [Draft.result_bind_of_ok hmark] at hresult
        rw [hwhole, hresult, carriesMark_append_iff (hfront.append (lacksTag_markFront name))
          (isClean_escape _) (hend.append hclosing)]
        exact ⟨fun h => ⟨rfl, hnone, h⟩, fun h => h.2.2⟩
  · obtain ⟨hresult, htext⟩ := header_of_not_isDescribed hfound hentries hdescribed
    rw [htext]
    exact iff_of_false (not_carriesMark_of_lacksTag hfront value) fun h => hresult h.1

end Header

end Page

/-! ## Messages that survive the page -/

/-- The pending messages of a loaded project are those for the main page that have not expired, in
order, each with its class, its text and its two moments.  They are loaded again as messages of
which the same is shown.  The header of a directory of the project comes to its end if the
description of the directory is a text and, should there be such messages, the name of the project
too; then it has a mark exactly if there are such messages, and the value of the mark is their
list. -/
theorem pendingMessages_survive {rows : Json} {registry : Registry} {project : Project}
    {now : Calendar.Moment} (hload : Registry.load rows = .ok registry)
    (hproject : project ∈ registry.projects) (htexts : ∀ m ∈ project.messages, m.HasTexts)
    (hnow : now.offset.isSome) :
    ∃ entries,
      entries = (project.messages.filter fun m => .str Message.mainTag ∈ m.tags ∧
        ∀ e ∈ m.expiration, now.instant < e.instant).map (fun m =>
          .obj [("class", m.cssClass), ("text", m.text),
            ("created", Message.showMoment m.created),
            ("expiration", Message.showMoment m.expiration)]) ∧
      project.messagesJson Message.mainTag now = .ok entries ∧
      (∀ fields, Json.lookup "messages" fields = some (.arr entries) →
        (∃ name, Json.lookup "name" fields = some name) →
        (∀ width, Json.lookup "tab_size" fields = some width → Succeeds width.toWhole) →
        ∃ again, Registry.load (.arr [.obj fields]) = .ok ⟨[again]⟩ ∧
          again.messagesJson Message.mainTag now = .ok entries) ∧
      ∀ (p : Page) (directory : Text), p.projects = some registry → p.now = now →
        registry.projectFor directory = .ok (some project) →
        ((p.header directory).result = .ok (some project) ↔
          p.IsDescribed directory ∧ (entries ≠ [] → ∃ name, project.name = .str name)) ∧
        ((∃ value, Page.CarriesMark (p.header directory).text value) ↔
          (p.header directory).result = .ok (some project) ∧ entries ≠ []) ∧
        ∀ value, Page.CarriesMark (p.header directory).text value →
          ∃ written, Markup.unescape value = .ok written ∧
            Json.read written = .ok (.arr entries) := by
  have htimed := Registry.isTimed_of_load hload project hproject
  have hentries := Project.messagesJson_eq htimed hnow
  have hshownTexts : ∀ m ∈ project.messages.filter fun m => Project.IsShown now m, m.HasTexts :=
    fun m hm => htexts m (List.mem_of_mem_filter hm)
  refine ⟨_, rfl, hentries, ?_, ?_⟩
  · intro fields hmessages hname hwidth
    have hreadable : ∀ m ∈ project.messages.filter fun m => Project.IsShown now m, m.IsReadable :=
      fun m hm => Registry.isReadable_of_load hload project hproject m (List.mem_of_mem_filter hm)
    have hshown : ∀ m ∈ project.messages.filter fun m => Project.IsShown now m,
        Project.IsShown now m := fun m hm => of_decide_eq_true (List.mem_filter.mp hm).2
    obtain ⟨again, hagain, hretagged⟩ :=
      Project.exists_ofJson_of_messages hreadable hmessages hname hwidth
    have htimed' : again.IsTimed :=
      Project.isTimed_of_isReadable (Project.isReadable_of_ofJson hagain)
    exact ⟨again, Registry.load_singleton hagain,
      Project.messagesJson_retagged htimed' hnow hshown hretagged⟩
  · rintro p directory hprojects rfl hfor
    have hfound : p.projectOf directory = .ok (some project) := by
      rw [Page.projectOf, hprojects]
      exact hfor
    have hfits := Message.numeralsFit_map_toJson hshownTexts
    have hmark := Page.carriesMark_header_iff hfound hentries hfits
    refine ⟨Page.result_header_eq_ok_iff hfound hentries hfits, ?_, ?_⟩
    · constructor
      · rintro ⟨value, hvalue⟩
        obtain ⟨hdone, hsome, _⟩ := (hmark value).mp hvalue
        exact ⟨hdone, hsome⟩
      · rintro ⟨hdone, hsome⟩
        exact ⟨_, (hmark _).mpr ⟨hdone, hsome, rfl⟩⟩
    · intro value hvalue
      obtain ⟨-, -, rfl⟩ := (hmark value).mp hvalue
      exact ⟨_, Markup.unescape_escape _, Message.read_write_toJson hshownTexts⟩

/-- A row with one message that has expired and one that has not. -/
def noticeRow : Json :=
  .obj [("name", .str "kernel"), ("messages", .arr [
    .obj [("text", .str "moved"), ("expiration", .str "2000-01-01")],
    .obj [("text", .str "\"R&amp;D\" <é>"), ("created", .str "2020-02-29T12:30:00.5+05:30")]])]

/-- The project of that row. -/
def noticeProject : Project :=
  ⟨.str "kernel", .str "kernel", 0, [
    ⟨.str "moved", [.str "main"], .str "info", none,
      some ⟨⟨2000, 1, 1⟩, 0, 0, 0, 0, some 0⟩⟩,
    ⟨.str "\"R&amp;D\" <é>", [.str "main"], .str "info",
      some ⟨⟨2020, 2, 29⟩, 12, 30, 0, 500000, some 19800000000⟩, none⟩]⟩

/-- A page with a project. -/
def pageOf (project : Project) : Page where
  read := fun _ => .error .noTable
  hits := []
  tree := .ofFiles []
  settings := .usual (.ofText "data") (.ofText "src")
  summarizer := none
  sourceContext := none
  history := none
  projects := some ⟨[project]⟩
  descriptions := none
  now := ⟨⟨2020, 9, 13⟩, 12, 26, 40, 0, some 0⟩

theorem load_noticeRow : Registry.load (.arr [noticeRow]) = .ok ⟨[noticeProject]⟩ := by
  decide +kernel

/-- The case of a message with characters that both writers escape. -/
theorem pendingMessages_survive_noticeProject :
    let p := pageOf noticeProject
    ∃ entries, entries.length = 1 ∧
      (∃ again, Registry.load (.arr [.obj [("name", .str "kernel"), ("messages", .arr entries)]]) =
          .ok ⟨[again]⟩ ∧
        again.messagesJson Message.mainTag p.now = .ok entries) ∧
      (p.header "kernel/net").result = .ok (some noticeProject) ∧
      ∃ value written, Page.CarriesMark (p.header "kernel/net").text value ∧
        Markup.unescape value = .ok written ∧ Json.read written = .ok (.arr entries) := by
  intro p
  have htexts : ∀ m ∈ noticeProject.messages, m.HasTexts := by
    intro m hm
    simp only [noticeProject, List.mem_cons, List.not_mem_nil, or_false] at hm
    rcases hm with rfl | rfl <;> exact ⟨⟨_, rfl⟩, ⟨_, rfl⟩⟩
  obtain ⟨entries, hentries, -, hagain, hheader⟩ :=
    pendingMessages_survive load_noticeRow (List.mem_singleton_self _) htexts
      (show p.now.offset.isSome = true from rfl)
  have hlength : entries.length = 1 := by
    rw [hentries, List.length_map]
    decide +kernel
  obtain ⟨hends, hmark, hvalue⟩ := hheader p "kernel/net" rfl rfl (by decide +kernel)
  have hdone : (p.header "kernel/net").result = .ok (some noticeProject) :=
    hends.mpr ⟨Or.inl rfl, fun _ => ⟨"kernel", rfl⟩⟩
  obtain ⟨value, hcarries⟩ := hmark.mpr ⟨hdone, List.ne_nil_of_length_eq_add_one hlength⟩
  obtain ⟨written, hwritten⟩ := hvalue value hcarries
  exact ⟨entries, hlength, hagain _ rfl ⟨_, rfl⟩ nofun, hdone, value, written, hcarries, hwritten⟩

/-- A project with a message whose name is a number. -/
def numberedProject : Project :=
  ⟨.int 5, .str "kernel", 0, [⟨.str "x", [.str "main"], .str "info", none, none⟩]⟩

/-- The header of a directory of that project has no mark, although there is a message to show. -/
theorem not_carriesMark_numberedProject :
    let p := pageOf numberedProject
    let row := .obj [("name", .int 5), ("path", .str "kernel"),
      ("messages", .arr [.obj [("text", .str "x")]])]
    Registry.load (.arr [row]) = .ok ⟨[numberedProject]⟩ ∧
      p.projectOf "kernel" = .ok (some numberedProject) ∧
      (∃ entries, numberedProject.messagesJson Message.mainTag p.now = .ok entries ∧
        entries ≠ []) ∧
      (p.header "kernel").result = .error .wrongKind ∧
      ¬∃ value, Page.CarriesMark (p.header "kernel").text value := by
  intro p row
  have hlacks : Markup.LacksTag 's' (p.header "kernel").text := by decide +kernel
  refine ⟨by decide +kernel, by decide +kernel, ⟨_, rfl, List.cons_ne_nil _ _⟩,
    by decide +kernel, ?_⟩
  rintro ⟨value, hvalue⟩
  exact Page.not_carriesMark_of_lacksTag hlacks value hvalue

end HitListing
