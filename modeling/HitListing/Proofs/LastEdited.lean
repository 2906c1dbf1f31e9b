import HitListing.Proofs.JsonAscii
import HitListing.Proofs.PageSteps

/-!
# When a hit was last edited

Which texts are index dates, and what a page does with the dates that its hits
were stored with.  Among ASCII texts those are read that have digits only and
name an existing moment at the fixed places
(`Calendar.parseIndexDate_eq_ok_iff_of_isAscii`).  What is no date gets a notice
instead of a tooltip (`Page.fileCells_of_not_date`), so that a page ends as it
does when no dates are shown at all (`Page.result_render_withoutDates`).
-/

namespace HitListing

namespace Calendar

/-- Which ASCII texts are index dates, and what they stand for. -/
theorem parseIndexDate_eq_ok_iff_of_isAscii {t : Text} (hascii : t.IsAscii) {m : Moment} :
    parseIndexDate t = .ok m ↔
      (∀ c ∈ t, c.isDigit = true) ∧ t.length ∈ indexDateLengths ∧ (namedMoment t).IsValid ∧
        m = namedMoment t := by
  constructor
  · intro h
    have hdigits : ∀ c ∈ t, c.isDigit = true := fun c hc =>
      isDigit_of_ascii (hascii c hc) (isDigit_of_parseIndexDate h c hc)
    exact ⟨hdigits, (parseIndexDate_eq_ok_iff hdigits).mp h⟩
  · rintro ⟨hdigits, h⟩
    exact (parseIndexDate_eq_ok_iff hdigits).mpr h

/-- What an ASCII text is read as is the first moment of the period that it names. -/
theorem isFirstIn_of_parseIndexDate {t : Text} (hascii : t.IsAscii) {m : Moment}
    (h : parseIndexDate t = .ok m) : m.IsFirstIn t := by
  obtain ⟨-, -, hvalid, rfl⟩ := (parseIndexDate_eq_ok_iff_of_isAscii hascii).mp h
  exact isFirstIn_namedMoment hvalid

/-- A text is either read or refused as a value without a meaning. -/
theorem parseIndexDate_cases (t : Text) :
    (∃ m, parseIndexDate t = .ok m) ∨
      ∃ f, parseIndexDate t = .error f ∧ f.isValueFault = true := by
  cases h : parseIndexDate t with
  | ok m => exact Or.inl ⟨m, rfl⟩
  | error f => exact Or.inr ⟨f, rfl, failsOnlyWith_parseIndexDate t f h⟩

end Calendar

/-- How two steps end is how what follows them ends. -/
theorem Draft.result_bind_congr {α β : Type} {d e : Draft α} {f g : α → Draft β}
    (h : d.result = e.result) (hf : ∀ a, (f a).result = (g a).result) :
    (d >>= f).result = (e >>= g).result := by
  cases he : e.result with
  | error fault => rw [result_bind_of_error (h.trans he), result_bind_of_error he]
  | ok a => rw [result_bind_of_ok (h.trans he), result_bind_of_ok he, hf a]

namespace Page

/-! ## Tooltips -/

/-- The attributes that show a moment in a tooltip. -/
def editedTooltip (m : Calendar.Moment) : Text :=
  " class=\"result-annotate\" title=\"Last modified: " ++ Markup.escape m.short ++ "\""

theorem lastEdited_of_date {hit : Hit} {date : Text} (hdate : hit.date = some date)
    {m : Calendar.Moment} (h : Calendar.parseIndexDate date = .ok m) (path : Text) :
    lastEdited hit path = ⟨editedTooltip m, [], .ok ()⟩ := by
  rw [lastEdited, hdate]
  simp only [h]
  rfl

theorem lastEdited_of_not_date {hit : Hit} {date : Text} (hdate : hit.date = some date)
    (h : ¬∃ m, Calendar.parseIndexDate date = .ok m) (path : Text) :
    lastEdited hit path = ⟨[], [.badDate date path], .ok ()⟩ := by
  obtain ⟨f, hf, hvalue⟩ := (Calendar.parseIndexDate_cases date).resolve_left h
  rw [lastEdited, hdate]
  simp only [hf, hvalue]
  rfl

variable {p : Page}

/-- What stands in the row of a hit before the place of its tooltip. -/
def beforeTooltip (p : Page) (path : Text) : Text :=
  fileLinks p.settings.contextPath (Uri.encodePath path) ++ "<td class=\"f\"><a href=\"" ++
    p.xrefBase ++ "/" ++ Uri.encodePath path ++ "\""

/-- What stands between the place of a tooltip and the snippet. -/
def behindTooltip (path : Text) : Text :=
  ">" ++ Markup.escape (nameOf path) ++ "</a></td><td><code class=\"con\">"

theorem fileCells_eq_of_display (hdisplay : p.settings.lastEditedDisplay = true) (hit : Hit)
    (path : Text) :
    p.fileCells hit path =
      ⟨p.beforeTooltip path ++ ((lastEdited hit path).text ++ behindTooltip path),
        (lastEdited hit path).log, .ok ()⟩ := by
  unfold fileCells
  rw [if_pos hdisplay, Draft.bind_of_ok rfl, Draft.bind_of_ok (result_lastEdited hit path)]
  show (⟨_, [] ++ ((lastEdited hit path).log ++ []), _⟩ : Draft Unit) = _
  rw [List.nil_append, List.append_nil]
  rfl

/-- A date is shown in a tooltip. -/
theorem fileCells_of_date (hdisplay : p.settings.lastEditedDisplay = true) {hit : Hit}
    {date : Text} (hdate : hit.date = some date) {m : Calendar.Moment}
    (h : Calendar.parseIndexDate date = .ok m) (path : Text) :
    p.fileCells hit path =
      ⟨p.beforeTooltip path ++ (editedTooltip m ++ behindTooltip path), [], .ok ()⟩ := by
  rw [fileCells_eq_of_display hdisplay, lastEdited_of_date hdate h]

/-- What is no date gets a notice, and nothing is written. -/
theorem fileCells_of_not_date (hdisplay : p.settings.lastEditedDisplay = true) {hit : Hit}
    {date : Text} (hdate : hit.date = some date)
    (h : ¬∃ m, Calendar.parseIndexDate date = .ok m) (path : Text) :
    p.fileCells hit path =
      ⟨p.beforeTooltip path ++ behindTooltip path, [.badDate date path], .ok ()⟩ := by
  rw [fileCells_eq_of_display hdisplay, lastEdited_of_not_date hdate h, List.nil_append]

/-! ## Pages that show no dates -/

/-- The page without dates. -/
def withoutDates (p : Page) : Page :=
  { p with settings := { p.settings with lastEditedDisplay := false } }

theorem result_cells_withoutDates (tabSize : Int) (hit : Hit) (path : Text) :
    (p.withoutDates.cells tabSize hit path).result = (p.cells tabSize hit path).result := by
  unfold cells
  refine Draft.result_bind_congr ?_ fun _ => rfl
  rw [(fileCells_eq hit path).2, (fileCells_eq hit path).2]

theorem result_row_withoutDates (tabSize : Int) (index : Nat) (id : DocumentId) :
    (p.withoutDates.row tabSize index id).result = (p.row tabSize index id).result := by
  unfold row
  refine Draft.result_bind_congr rfl fun hit => ?_
  cases hit.path with
  | none => rfl
  | some path => exact Draft.result_bind_congr rfl fun _ => result_cells_withoutDates _ _ _

theorem result_rows_withoutDates (tabSize : Int) (index : Nat) (ids : List DocumentId) :
    (p.withoutDates.rows tabSize index ids).result = (p.rows tabSize index ids).result := by
  induction ids generalizing index with
  | nil => rfl
  | cons id ids ih =>
    exact Draft.result_bind_congr (result_row_withoutDates tabSize index id) fun _ => ih _

theorem result_groups_withoutDates (index : Nat) (found : List DirectoryGroup) :
    (p.withoutDates.groups index found).result = (p.groups index found).result := by
  induction found generalizing index with
  | nil => rfl
  | cons g found ih =>
    refine Draft.result_bind_congr rfl fun project => ?_
    exact Draft.result_bind_congr (result_rows_withoutDates _ _ _) fun _ => ih _

/-- Whether a page shows dates makes no difference to how it ends, whatever dates its hits were
stored with. -/
theorem result_render_withoutDates (start stop : Int) :
    (p.withoutDates.render start stop).result = (p.render start stop).result := by
  refine Draft.result_bind_congr rfl fun _ => ?_
  refine Draft.result_bind_congr rfl fun found => ?_
  exact Draft.result_bind_congr (result_groups_withoutDates 0 found) fun _ => rfl

end Page

/-- Which texts are index dates, and that a page shows a date if it is one and makes a notice if
not, but does not break off. -/
theorem indexDates_read_and_shown :
    (∀ t : Text, t.IsAscii → ∀ m : Calendar.Moment,
      (Calendar.parseIndexDate t = .ok m ↔
        (∀ c ∈ t, c.isDigit = true) ∧ t.length ∈ [4, 6, 8, 10, 12, 14, 17] ∧
          (Calendar.namedMoment t).IsValid ∧ m = Calendar.namedMoment t) ∧
      (Calendar.parseIndexDate t = .ok m → m.IsFirstIn t)) ∧
    (∀ t : Text, (∃ m, Calendar.parseIndexDate t = .ok m) ∨
      ∃ f, Calendar.parseIndexDate t = .error f ∧ f.isValueFault = true) ∧
    (∀ (p : Page) (hit : Hit) (date path : Text), p.settings.lastEditedDisplay = true →
      hit.date = some date →
      (∀ m, Calendar.parseIndexDate date = .ok m →
        p.fileCells hit path =
          ⟨p.beforeTooltip path ++ (Page.editedTooltip m ++ Page.behindTooltip path), [],
            .ok ()⟩) ∧
      ((¬∃ m, Calendar.parseIndexDate date = .ok m) →
        p.fileCells hit path =
          ⟨p.beforeTooltip path ++ Page.behindTooltip path, [.badDate date path], .ok ()⟩ ∧
        (Notice.badDate date path).level = "WARNING".toList)) ∧
    ∀ (p : Page) (start stop : Int),
      (p.withoutDates.render start stop).result = (p.render start stop).result := by
  refine ⟨fun t hascii m => ⟨Calendar.parseIndexDate_eq_ok_iff_of_isAscii hascii,
    Calendar.isFirstIn_of_parseIndexDate hascii⟩, Calendar.parseIndexDate_cases, ?_,
    fun p => p.result_render_withoutDates⟩
  intro p hit date path hdisplay hdate
  exact ⟨fun m h => Page.fileCells_of_date hdisplay hdate h path, fun h =>
    ⟨Page.fileCells_of_not_date hdisplay hdate h path, rfl⟩⟩

/-- A page that shows dates. -/
def datedPage : Page where
  read := fun _ => .error .noTable
  hits := []
  tree := .ofFiles []
  settings := .usual (.ofText "data") (.ofText "src")
  summarizer := none
  sourceContext := none
  history := none
  projects := none
  descriptions := none
  now := ⟨⟨2020, 9, 13⟩, 12, 26, 40, 0, some 0⟩

/-- A hit with a date. -/
def datedHit (date : Text) : Hit :=
  ⟨1, some "a.c", .plain, some date, none, none, none⟩

/-- The case of a leap day, and of the same day in a year that does not have it. -/
theorem indexDates_read_and_shown_leapDay :
    Calendar.Moment.IsFirstIn ⟨⟨2000, 2, 29⟩, 0, 0, 0, 0, some 0⟩ "20000229" ∧
      (datedPage.fileCells (datedHit "20000229") "a.c").text =
        datedPage.beforeTooltip "a.c" ++
          (" class=\"result-annotate\" title=\"Last modified: 2/29/00 12:00 AM\"".toList ++
            Page.behindTooltip "a.c") ∧
      (datedPage.fileCells (datedHit "20010229") "a.c").log = [.badDate "20010229" "a.c"] := by
  obtain ⟨hread, -, hshown, -⟩ := indexDates_read_and_shown
  have hleap : Calendar.parseIndexDate "20000229" = .ok ⟨⟨2000, 2, 29⟩, 0, 0, 0, 0, some 0⟩ :=
    (hread "20000229" (by decide +kernel) _).1.mpr
      ⟨List.all_eq_true.mp (by decide +kernel), by decide +kernel, by decide +kernel,
        by decide +kernel⟩
  have hnone : ¬∃ m, Calendar.parseIndexDate "20010229" = .ok m := by
    rintro ⟨m, hm⟩
    obtain ⟨-, -, hvalid, -⟩ := (hread "20010229" (by decide +kernel) m).1.mp hm
    exact absurd hvalid (by decide +kernel)
  refine ⟨(hread "20000229" (by decide +kernel) _).2 hleap, ?_, ?_⟩
  · rw [(hshown datedPage (datedHit "20000229") "20000229" "a.c" rfl rfl).1 _ hleap]
    rfl
  · rw [((hshown datedPage (datedHit "20010229") "20010229" "a.c" rfl rfl).2 hnone).1]

end HitListing
