import HitListing.Proofs.DatePatterns
import HitListing.Proofs.InstantOrder
import HitListing.Proofs.Outcomes
import Mathlib.Tactic.GCongr
import Mathlib.Tactic.IntervalCases
import Mathlib.Tactic.Ring

/-!
# Index dates at fixed places

A text of digits is read as an index date if it has one of seven lengths and the
fields at the fixed places `yyyyMMddHHmmssSSS` name an existing moment
(`parseIndexDate_eq_ok_iff`); the moment is then the first of the period that
the text names (`isFirstIn_namedMoment`).  That the form of seconds admits 60
and 61 makes no difference, since no existing moment has such seconds.

Writing fills each field up to its width, if the year has four digits.  The
text is then the numeral of all fields together (`indexText_eq_digits`), so that
the order of texts is that of numbers, and this one that of time.
-/

namespace HitListing.Calendar

/-! ## What a date names -/

/-- The number at a place of a text, or a default where the text ends before it. -/
def numberAt (t : Text) (start length default : Nat) : Nat :=
  if t.length ≤ start then default else Nat.ofDigitChars 10 ((t.drop start).take length) 0

/-- The moment whose fields stand at the fixed places `yyyyMMddHHmmssSSS` of a text.  A field that
is missing at the end is the first of its range. -/
def namedMoment (t : Text) : Moment :=
  ⟨⟨numberAt t 0 4 1, numberAt t 4 2 1, numberAt t 6 2 1⟩, numberAt t 8 2 0, numberAt t 10 2 0,
    numberAt t 12 2 0, 1000 * numberAt t 14 3 0, some 0⟩

/-- The lengths that index dates may have. -/
def indexDateLengths : List Nat :=
  [4, 6, 8, 10, 12, 14, 17]

/-! ## Reading to the second -/

/-- The extents of the fields from the year to the second. -/
def fieldExtents : List Extent :=
  [⟨4, 0, 9999⟩, ⟨2, 1, 12⟩, ⟨2, 1, 31⟩, ⟨2, 0, 23⟩, ⟨2, 0, 59⟩, ⟨2, 0, 61⟩]

theorem hasExtents_secondPattern :
    List.Forall₂ Field.HasExtent secondPattern fieldExtents :=
  .cons hasExtent_yearField (.cons hasExtent_monthField (.cons hasExtent_dayField
    (.cons hasExtent_hourField (.cons hasExtent_minuteField (.cons hasExtent_secondField .nil)))))

/-- The fields of a moment from the year to the second. -/
def fieldsOf (m : Moment) : List Nat :=
  [m.date.year, m.date.month, m.date.day, m.hour, m.minute, m.second]

/-- The fields of an existing moment are within their extents. -/
theorem holds_fieldsOf {m : Moment} (h : m.IsValid) :
    List.Forall₂ Extent.Holds fieldExtents (fieldsOf m) := by
  have hday := h.1.day_le
  obtain ⟨⟨-, hyear, hmonth, hlast, hfirst, -⟩, hhour, hminute, hsecond, -, -⟩ := h
  exact .cons ⟨Nat.zero_le _, hyear⟩ (.cons ⟨hmonth, hlast⟩ (.cons ⟨hfirst, hday⟩
    (.cons ⟨Nat.zero_le _, Nat.le_of_lt_succ hhour⟩
    (.cons ⟨Nat.zero_le _, Nat.le_of_lt_succ hminute⟩
    (.cons ⟨Nat.zero_le _, Nat.le_trans (Nat.le_of_lt_succ hsecond) (by decide)⟩ .nil)))))

theorem take_fieldsOf_ofNumbers {ns : List Nat} (h : ns.length ≤ 6) :
    (fieldsOf (ofNumbers ns)).take ns.length = ns := by
  match ns with
  | [] => rfl
  | [_] => rfl
  | [_, _] => rfl
  | [_, _, _] => rfl
  | [_, _, _, _] => rfl
  | [_, _, _, _, _] => rfl
  | [_, _, _, _, _, _] => rfl
  | _ :: _ :: _ :: _ :: _ :: _ :: _ :: ns =>
    simp only [List.length_cons] at h
    omega

/-- Cut at fixed places, a text gives the fields of the moment that it names. -/
theorem ofNumbers_numbers {k : Nat} (hk : k ≤ 6) {t : Text}
    (hlength : t.length = Extent.totalWidth (fieldExtents.take k)) :
    ofNumbers (Extent.numbers (fieldExtents.take k) t) = namedMoment t := by
  interval_cases k <;>
    simp [fieldExtents, Extent.totalWidth] at hlength <;>
    simp [fieldExtents, Extent.numbers, ofNumbers, namedMoment, numberAt, hlength]

theorem Extent.length_numbers (xs : List Extent) (t : Text) :
    (Extent.numbers xs t).length = xs.length := by
  induction xs generalizing t with
  | nil => rfl
  | cons x xs ih => rw [numbers, List.length_cons, List.length_cons, ih]

theorem check_eq_ok_iff {m u : Moment} : m.check = .ok u ↔ m.IsValid ∧ u = m := by
  rw [Moment.check]
  split
  · simp_all [eq_comm]
  · simp_all

/-- Of as many digits as its fields have at full width, a pattern reads the moment they name, if
that exists. -/
theorem readPattern_eq_ok_iff {k : Nat} (hk : k ≤ 6) {t : Text} {m : Moment}
    (hlength : t.length = Extent.totalWidth (fieldExtents.take k))
    (hdigits : ∀ c ∈ t, c.isDigit = true) :
    readPattern (secondPattern.take k) t = .ok m ↔ (namedMoment t).IsValid ∧ m = namedMoment t := by
  have hread {ns : List Nat} : Pattern.read (secondPattern.take k) t = some (ns, []) ↔
      List.Forall₂ Extent.Holds (fieldExtents.take k) (Extent.numbers (fieldExtents.take k) t) ∧
        ns = Extent.numbers (fieldExtents.take k) t :=
    Pattern.read_eq_some_iff (List.forall₂_take k hasExtents_secondPattern) hlength hdigits
  have hcount : (Extent.numbers (fieldExtents.take k) t).length = k := by
    rw [Extent.length_numbers, List.length_take]
    exact Nat.min_eq_left hk
  rw [readPattern, ← ofNumbers_numbers hk hlength]
  generalize Extent.numbers (fieldExtents.take k) t = numbers at hread hcount
  constructor
  · intro h
    split at h
    · rename_i ns hfound
      obtain ⟨-, rfl⟩ := hread.mp hfound
      exact check_eq_ok_iff.mp h
    · cases h
  · rintro ⟨hvalid, rfl⟩
    have hholds := List.forall₂_take numbers.length (holds_fieldsOf hvalid)
    rw [take_fieldsOf_ofNumbers (by omega), hcount] at hholds
    rw [hread.mpr ⟨hholds, rfl⟩]
    exact check_eq_ok_iff.mpr ⟨hvalid, rfl⟩

/-- There is a pattern for each resolution from years to seconds, by the width of its fields. -/
theorem lookup_indexPatterns_eq_some {n : Nat} {pattern : Pattern}
    (h : indexPatterns.lookup n = some pattern) :
    n ∈ indexDateLengths ∧ ∃ k ≤ 6, pattern = secondPattern.take k ∧
      n = Extent.totalWidth (fieldExtents.take k) := by
  obtain ⟨before, after, heq, -⟩ := List.lookup_eq_some_iff.mp h
  have hmem : (n, pattern) ∈ indexPatterns := by
    rw [heq]
    simp
  simp only [indexPatterns, List.mem_cons, Prod.mk.injEq, List.not_mem_nil, or_false] at hmem
  rcases hmem with ⟨rfl, rfl⟩ | ⟨rfl, rfl⟩ | ⟨rfl, rfl⟩ | ⟨rfl, rfl⟩ | ⟨rfl, rfl⟩ | ⟨rfl, rfl⟩
  · exact ⟨by decide, 1, by decide, rfl, rfl⟩
  · exact ⟨by decide, 2, by decide, rfl, rfl⟩
  · exact ⟨by decide, 3, by decide, rfl, rfl⟩
  · exact ⟨by decide, 4, by decide, rfl, rfl⟩
  · exact ⟨by decide, 5, by decide, rfl, rfl⟩
  · exact ⟨by decide, 6, by decide, rfl, rfl⟩

theorem not_mem_of_lookup_indexPatterns {n : Nat} (hn : n ≠ 17)
    (h : indexPatterns.lookup n = none) : n ∉ indexDateLengths := by
  rw [List.lookup_eq_none_iff] at h
  simp [indexPatterns] at h
  simp [indexDateLengths]
  omega

/-! ## Reading to the millisecond -/

theorem mapM_decimalValue? {t : Text} (h : ∀ c ∈ t, c.isDigit = true) :
    t.mapM decimalValue? = some (t.filterMap decimalValue?) := by
  induction t with
  | nil => rfl
  | cons c t ih =>
    obtain ⟨hc, ht⟩ := List.forall_mem_cons.mp h
    rw [List.mapM_cons, List.filterMap_cons, decimalValue?_of_isDigit hc, ih ht]
    rfl

theorem digitField?_eq {t : Text} (h : ∀ c ∈ t, c.isDigit = true) :
    digitField? t = some (Nat.ofDigitChars 10 t 0) := by
  rw [digitField?, mapM_decimalValue? h, Option.map_some, ofDigits_filterMap_decimalValue? h]

/-- The milliseconds stand behind a date and time to the second. -/
theorem namedMoment_of_length {t : Text} (h : t.length = 17) :
    namedMoment t = { namedMoment (t.take 14) with
      microsecond := 1000 * Nat.ofDigitChars 10 (t.drop 14) 0 } := by
  have hdrop : (t.drop 14).take 3 = t.drop 14 := List.take_of_length_le (by simp [h])
  simp [namedMoment, numberAt, h, hdrop, List.drop_take, List.take_take]

/-- Whether there are milliseconds makes no difference to whether a moment exists. -/
theorem isValid_namedMoment_take {t : Text} {microsecond : Nat}
    (h : { namedMoment (t.take 14) with microsecond := microsecond }.IsValid) :
    (namedMoment (t.take 14)).IsValid := by
  obtain ⟨hdate, hhour, hminute, hsecond, -, hoffset⟩ := h
  refine ⟨hdate, hhour, hminute, hsecond, ?_, hoffset⟩
  have hmissing : numberAt (t.take 14) 14 3 0 = 0 := if_pos (List.length_take_le 14 t)
  show 1000 * numberAt (t.take 14) 14 3 0 < 1000000
  omega

/-- Of ASCII digits, those are read that name an existing moment at the fixed places. -/
theorem parseIndexDate_eq_ok_iff {t : Text} (hdigits : ∀ c ∈ t, c.isDigit = true) {m : Moment} :
    parseIndexDate t = .ok m ↔
      t.length ∈ indexDateLengths ∧ (namedMoment t).IsValid ∧ m = namedMoment t := by
  rcases eq_or_ne t [] with rfl | hne
  · exact iff_of_false nofun (by simp [indexDateLengths])
  have hall : t.all isDigit = true := by
    rw [List.all_eq_true]
    intro c hc
    rw [isDigit, isDecimal_of_isDigit (hdigits c hc)]
    rfl
  rw [parseIndexDate, if_neg (by simp [hne, hall])]
  by_cases hlong : t.length = 17
  · have hread {u : Moment} := readPattern_eq_ok_iff (k := 6) (t := t.take 14) (m := u)
      (by decide) (by rw [List.length_take, hlong]; rfl)
      fun c hc => hdigits c (List.mem_of_mem_take hc)
    rw [if_pos hlong, namedMoment_of_length hlong,
      digitField?_eq fun c hc => hdigits c (List.mem_of_mem_drop hc)]
    constructor
    · intro h
      obtain ⟨u, hu, h⟩ := exists_of_bind_eq_ok h
      obtain ⟨-, rfl⟩ := hread.mp hu
      exact ⟨by rw [hlong]; decide, check_eq_ok_iff.mp h⟩
    · rintro ⟨-, hvalid, rfl⟩
      have hsecond := hread.mpr ⟨isValid_namedMoment_take hvalid, rfl⟩
      rw [show secondPattern = secondPattern.take 6 from rfl, hsecond]
      exact check_eq_ok_iff.mpr ⟨hvalid, rfl⟩
  · rw [if_neg hlong]
    cases hlookup : indexPatterns.lookup t.length with
    | none => exact iff_of_false nofun fun h => not_mem_of_lookup_indexPatterns hlong hlookup h.1
    | some pattern =>
      obtain ⟨hmem, k, hk, rfl, hlength⟩ := lookup_indexPatterns_eq_some hlookup
      exact (readPattern_eq_ok_iff hk hlength hdigits).trans (and_iff_right hmem).symm

/-! ## What is no index date -/

theorem failsOnlyWith_check (m : Moment) : FailsOnlyWith (·.isValueFault = true) m.check := by
  rw [Moment.check]
  split
  · exact failsOnlyWith_ok m
  · exact failsOnlyWith_error rfl

theorem failsOnlyWith_readPattern (pattern : Pattern) (t : Text) :
    FailsOnlyWith (·.isValueFault = true) (readPattern pattern t) := by
  rw [readPattern]
  split
  · exact failsOnlyWith_check _
  · exact failsOnlyWith_error rfl

/-- A text that is no index date is refused as a value without a meaning. -/
theorem failsOnlyWith_parseIndexDate (t : Text) :
    FailsOnlyWith (·.isValueFault = true) (parseIndexDate t) := by
  rw [parseIndexDate]
  split
  · exact failsOnlyWith_error rfl
  split
  · refine (failsOnlyWith_readPattern _ _).bind fun m _ => ?_
    split
    · exact failsOnlyWith_check _
    · exact failsOnlyWith_error rfl
  split
  · exact failsOnlyWith_readPattern _ _
  · exact failsOnlyWith_error rfl

theorem isDigit_of_parseIndexDate {t : Text} {m : Moment} (h : parseIndexDate t = .ok m) :
    ∀ c ∈ t, isDigit c = true := by
  rw [parseIndexDate] at h
  split at h
  · cases h
  · rename_i hall
    simp only [Bool.or_eq_true, Bool.not_eq_true', not_or, Bool.not_eq_false,
      List.all_eq_true] at hall
    exact hall.2

/-- Among ASCII characters the digits are the decimal digits. -/
theorem isDigit_of_ascii {c : Char} (hc : c.toNat < 128) (h : isDigit c = true) :
    c.isDigit = true := by
  have hascii : ∀ n < 128, isDigit (Char.ofNat n) = true → (Char.ofNat n).isDigit = true := by
    decide +kernel
  rw [← Char.ofNat_toNat c] at h ⊢
  exact hascii _ hc h

/-! ## The first instant of a period -/

namespace Moment

/-- Whether the fields that a text has at the fixed places are those of a moment. -/
def LiesIn (m : Moment) (t : Text) : Prop :=
  numberAt t 0 4 m.date.year = m.date.year ∧ numberAt t 4 2 m.date.month = m.date.month ∧
    numberAt t 6 2 m.date.day = m.date.day ∧ numberAt t 8 2 m.hour = m.hour ∧
    numberAt t 10 2 m.minute = m.minute ∧ numberAt t 12 2 m.second = m.second ∧
    numberAt t 14 3 (m.microsecond / 1000) = m.microsecond / 1000

/-- Whether a moment is the first in universal time of the period that a text names. -/
structure IsFirstIn (m : Moment) (t : Text) : Prop where
  isUniversal : m.IsUniversal
  liesIn : m.LiesIn t
  le : ∀ u : Moment, u.IsUniversal → u.LiesIn t → m.instant ≤ u.instant

end Moment

theorem numberAt_numberAt (t : Text) (start length default : Nat) :
    numberAt t start length (numberAt t start length default) =
      numberAt t start length default := by
  unfold numberAt
  split <;> rfl

theorem numberAt_le {t : Text} {start length default n : Nat} (hdefault : default ≤ n)
    (h : numberAt t start length n = n) : numberAt t start length default ≤ n := by
  unfold numberAt at h ⊢
  split
  · exact hdefault
  · rename_i hpresent
    rw [if_neg hpresent] at h
    exact Nat.le_of_eq h

theorem liesIn_namedMoment (t : Text) : (namedMoment t).LiesIn t := by
  refine ⟨numberAt_numberAt t 0 4 1, numberAt_numberAt t 4 2 1, numberAt_numberAt t 6 2 1,
    numberAt_numberAt t 8 2 0, numberAt_numberAt t 10 2 0, numberAt_numberAt t 12 2 0, ?_⟩
  show numberAt t 14 3 (1000 * numberAt t 14 3 0 / 1000) = 1000 * numberAt t 14 3 0 / 1000
  rw [Nat.mul_div_cancel_left _ (by decide)]
  exact numberAt_numberAt t 14 3 0

/-- A field that is missing is the first of its range, so no moment of the period is earlier. -/
theorem isFirstIn_namedMoment {t : Text} (h : (namedMoment t).IsValid) :
    (namedMoment t).IsFirstIn t := by
  refine ⟨⟨h, rfl⟩, liesIn_namedMoment t, ?_⟩
  intro u hu hlies
  rw [Moment.IsUniversal.instant_le_iff ⟨h, rfl⟩ hu]
  obtain ⟨hyear, hmonth, hday, hhour, hminute, hsecond, hmilli⟩ := hlies
  obtain ⟨hfirstYear, -, hfirstMonth, -, hfirstDay, -⟩ := hu.isValid.1
  have hmicro : 1000 * numberAt t 14 3 0 ≤ u.microsecond := by
    have := numberAt_le (Nat.zero_le _) hmilli
    omega
  unfold Moment.numeral Moment.clockNumeral Date.numeral
  show ((((numberAt t 0 4 1 * 100 + numberAt t 4 2 1) * 100 + numberAt t 6 2 1) * 1000000 +
    ((numberAt t 8 2 0 * 100 + numberAt t 10 2 0) * 100 + numberAt t 12 2 0)) * 1000000 +
    1000 * numberAt t 14 3 0) ≤ _
  gcongr
  · exact numberAt_le hfirstYear hyear
  · exact numberAt_le hfirstMonth hmonth
  · exact numberAt_le hfirstDay hday
  · exact numberAt_le (Nat.zero_le _) hhour
  · exact numberAt_le (Nat.zero_le _) hminute
  · exact numberAt_le (Nat.zero_le _) hsecond

/-! ## Writing -/

/-- A moment with its microseconds cut down to whole milliseconds. -/
def Moment.cutToMilliseconds (m : Moment) : Moment :=
  { m with microsecond := m.microsecond / 1000 * 1000 }

/-- The fields of a moment to the millisecond as one numeral. -/
def Moment.indexNumeral (m : Moment) : Nat :=
  (m.date.numeral * 1000000 + m.clockNumeral) * 1000 + m.microsecond / 1000

theorem Moment.numeral_cutToMilliseconds (m : Moment) :
    m.cutToMilliseconds.numeral = m.indexNumeral * 1000 := by
  show (m.date.numeral * 1000000 + m.clockNumeral) * 1000000 + m.microsecond / 1000 * 1000 = _
  unfold indexNumeral
  omega

theorem Moment.IsUniversal.cutToMilliseconds {m : Moment} (h : m.IsUniversal) :
    m.cutToMilliseconds.IsUniversal := by
  obtain ⟨hdate, hhour, hminute, hsecond, hmicro, hoffset⟩ := h.isValid
  refine ⟨⟨hdate, hhour, hminute, hsecond, ?_, hoffset⟩, h.offset⟩
  show m.microsecond / 1000 * 1000 < 1000000
  omega

/-- The fields of a moment to the millisecond, each in its full width. -/
def indexText (u : Moment) : Text :=
  Text.digits 4 u.date.year ++ (Text.digits 2 u.date.month ++ (Text.digits 2 u.date.day ++
    (Text.digits 2 u.hour ++ (Text.digits 2 u.minute ++ (Text.digits 2 u.second ++
      Text.digits 3 (u.microsecond / 1000))))))

theorem isDigit_of_mem_indexText {u : Moment} {c : Char} (hc : c ∈ indexText u) :
    c.isDigit = true := by
  simp only [indexText, List.mem_append] at hc
  rcases hc with hc | hc | hc | hc | hc | hc | hc <;> exact Text.isDigit_of_mem_digits hc

/-- A year of four digits is written without zeros in front. -/
theorem formatIndexDate_eq {m u : Moment} (h : m.toUniversal = .ok u)
    (hyear : 1000 ≤ u.date.year) : formatIndexDate m = .ok (indexText u) := by
  have hlength : ¬(Text.ofNat u.date.year).length ≤ 3 := by
    rw [Text.ofNat, Nat.length_toDigits_le_iff (by decide) (by decide)]
    omega
  have hpad : Text.digits 4 u.date.year = Text.ofNat u.date.year := by
    rw [Text.digits, Text.padLeft, Nat.sub_eq_zero_of_le (by omega)]
    rfl
  rw [formatIndexDate, h, indexText, hpad]
  simp only [← List.append_assoc]
  rfl

section Writing

variable {u v : Moment}

theorem indexText_eq_digits (h : u.IsValid) : indexText u = Text.digits 17 u.indexNumeral := by
  have hday := h.1.day_le
  have hmicro := h.microsecond_lt
  obtain ⟨⟨-, -, -, hmonth, -, -⟩, hhour, hminute, hsecond, -, -⟩ := h
  have hnumeral : u.indexNumeral =
      (((((u.date.year * 10 ^ 2 + u.date.month) * 10 ^ 2 + u.date.day) * 10 ^ 2 + u.hour) * 10 ^ 2 +
        u.minute) * 10 ^ 2 + u.second) * 10 ^ 3 + u.microsecond / 1000 := by
    unfold Moment.indexNumeral Moment.clockNumeral Date.numeral
    ring
  rw [hnumeral, indexText, ← List.append_assoc,
    Text.digits_append (by decide) (by decide) (by omega),
    ← List.append_assoc, Text.digits_append (by decide) (by decide) (by omega),
    ← List.append_assoc, Text.digits_append (by decide) (by decide) (by omega),
    ← List.append_assoc, Text.digits_append (by decide) (by decide) (by omega),
    ← List.append_assoc, Text.digits_append (by decide) (by decide) (by omega),
    Text.digits_append (by decide) (by decide) (by omega)]

theorem indexNumeral_lt (h : u.IsValid) : u.indexNumeral < 10 ^ 17 := by
  have hday := h.1.day_le
  have hmicro := h.microsecond_lt
  have hclock := h.clockNumeral_lt
  obtain ⟨-, hyear, -, hmonth, -, -⟩ := h.1
  have hyear : u.date.year ≤ 9999 := hyear
  unfold Moment.indexNumeral Date.numeral
  omega

/-- The order of the texts is that of the instants they stand for. -/
theorem indexText_lt_iff (hu : u.IsUniversal) (hv : v.IsUniversal) :
    indexText u < indexText v ↔ u.cutToMilliseconds.instant < v.cutToMilliseconds.instant := by
  rw [indexText_eq_digits hu.isValid, indexText_eq_digits hv.isValid,
    Text.digits_lt_digits_iff (by decide) (indexNumeral_lt hu.isValid)
      (indexNumeral_lt hv.isValid),
    hu.cutToMilliseconds.instant_lt_iff hv.cutToMilliseconds, Moment.numeral_cutToMilliseconds,
    Moment.numeral_cutToMilliseconds]
  omega

theorem numberAt_front (width : Nat) {n : Nat} (hwidth : 0 < width) (hn : n < 10 ^ width)
    (rest : Text) (default : Nat) : numberAt (Text.digits width n ++ rest) 0 width default = n := by
  have hlength := Text.length_digits width hwidth hn
  rw [numberAt, if_neg (by rw [List.length_append]; omega), List.drop_zero,
    List.take_left' hlength, Text.ofDigitChars_digits]

theorem numberAt_behind (width : Nat) {n : Nat} (hwidth : 0 < width) (hn : n < 10 ^ width)
    (rest : Text) (start length default : Nat) :
    numberAt (Text.digits width n ++ rest) (start + width) length default =
      numberAt rest start length default := by
  have hlength := Text.length_digits width hwidth hn
  have hdrop : (Text.digits width n ++ rest).drop (start + width) = rest.drop start := by
    rw [Nat.add_comm, ← List.drop_drop, List.drop_left' hlength]
  rw [numberAt, numberAt, hdrop, List.length_append, hlength]
  simp only [show width + rest.length ≤ start + width ↔ rest.length ≤ start by omega]

/-- What is written is read at the same places. -/
theorem namedMoment_indexText (hu : u.IsUniversal) :
    namedMoment (indexText u) = u.cutToMilliseconds := by
  have hday := hu.isValid.1.day_le
  have hmicro := hu.isValid.microsecond_lt
  obtain ⟨⟨-, hyear, -, hmonth, -, -⟩, hhour, hminute, hsecond, -, -⟩ := hu.isValid
  have hyear : u.date.year < 10 ^ 4 := Nat.lt_succ_of_le hyear
  have hmonth : u.date.month < 10 ^ 2 := by omega
  have hday : u.date.day < 10 ^ 2 := by omega
  have hhour : u.hour < 10 ^ 2 := by omega
  have hminute : u.minute < 10 ^ 2 := by omega
  have hsecond : u.second < 10 ^ 2 := by omega
  have hmilli : numberAt (Text.digits 3 (u.microsecond / 1000)) 0 3 0 = u.microsecond / 1000 := by
    simpa using numberAt_front 3 (n := u.microsecond / 1000) (by decide) (by omega) [] 0
  have hbehind {n : Nat} := numberAt_behind 2 (n := n) (by decide)
  have hfront {n : Nat} := numberAt_front 2 (n := n) (by decide)
  unfold namedMoment indexText
  simp only [numberAt_front 4 (by decide) hyear,
    numberAt_behind 4 (by decide) hyear, hbehind hmonth, hbehind hday, hbehind hhour,
    hbehind hminute, hbehind hsecond, hfront hmonth, hfront hday, hfront hhour, hfront hminute,
    hfront hsecond, hmilli]
  rw [Nat.mul_comm, Moment.cutToMilliseconds, ← hu.offset]

theorem indexText_cutToMilliseconds (u : Moment) : indexText u.cutToMilliseconds = indexText u := by
  unfold indexText
  show _ ++ (_ ++ (_ ++ (_ ++ (_ ++ (_ ++ Text.digits 3 (u.microsecond / 1000 * 1000 / 1000)))))) = _
  rw [Nat.mul_div_cancel _ (by decide)]
  rfl

theorem indexText_eq_iff (hu : u.IsUniversal) (hv : v.IsUniversal) :
    indexText u = indexText v ↔ u.cutToMilliseconds.instant = v.cutToMilliseconds.instant := by
  constructor
  · intro h
    rw [← namedMoment_indexText hu, h, namedMoment_indexText hv]
  · intro h
    rw [← indexText_cutToMilliseconds u,
      hu.cutToMilliseconds.eq_of_instant_eq hv.cutToMilliseconds h, indexText_cutToMilliseconds]

theorem parseIndexDate_indexText (hu : u.IsUniversal) :
    parseIndexDate (indexText u) = .ok u.cutToMilliseconds := by
  have hlength : (indexText u).length = 17 := by
    rw [indexText_eq_digits hu.isValid]
    exact Text.length_digits 17 (by decide) (indexNumeral_lt hu.isValid)
  rw [parseIndexDate_eq_ok_iff fun c => isDigit_of_mem_indexText, namedMoment_indexText hu, hlength]
  exact ⟨by decide, hu.cutToMilliseconds.isValid, rfl⟩

end Writing

/-- Index dates of years with four digits are read back, and their order is that of time. -/
theorem exists_indexDates_in_order {m₁ m₂ u₁ u₂ : Moment} (h₁ : u₁.IsUniversalFormOf m₁)
    (h₂ : u₂.IsUniversalFormOf m₂) (hyear₁ : 1000 ≤ u₁.date.year) (hyear₂ : 1000 ≤ u₂.date.year) :
    ∃ s₁ s₂, formatIndexDate m₁ = .ok s₁ ∧ formatIndexDate m₂ = .ok s₂ ∧
      parseIndexDate s₁ = .ok u₁.cutToMilliseconds ∧
      parseIndexDate s₂ = .ok u₂.cutToMilliseconds ∧
      (s₁ < s₂ ↔ u₁.cutToMilliseconds.instant < u₂.cutToMilliseconds.instant) ∧
      (s₁ = s₂ ↔ u₁.cutToMilliseconds.instant = u₂.cutToMilliseconds.instant) ∧
      (s₂ < s₁ ↔ u₂.cutToMilliseconds.instant < u₁.cutToMilliseconds.instant) := by
  refine ⟨indexText u₁, indexText u₂,
    formatIndexDate_eq (Moment.toUniversal_eq_ok_iff.mpr h₁) hyear₁,
    formatIndexDate_eq (Moment.toUniversal_eq_ok_iff.mpr h₂) hyear₂,
    parseIndexDate_indexText h₁.1, parseIndexDate_indexText h₂.1,
    indexText_lt_iff h₁.1 h₂.1, indexText_eq_iff h₁.1 h₂.1, indexText_lt_iff h₂.1 h₁.1⟩

/-- Half an hour before midnight on New Year's Eve, by a clock two hours behind. -/
def newYearsEve : Moment :=
  ⟨⟨2019, 12, 31⟩, 23, 30, 0, 999999, some (-7200000000)⟩

/-- A quarter past midnight on a leap day, by a clock five and a half hours ahead. -/
def leapDay : Moment :=
  ⟨⟨2020, 2, 29⟩, 0, 15, 30, 500, some 19800000000⟩

theorem exists_indexDates_in_order_leapDay :
    ∃ s₁ s₂, formatIndexDate newYearsEve = .ok s₁ ∧ formatIndexDate leapDay = .ok s₂ ∧
      parseIndexDate s₁ = .ok ⟨⟨2020, 1, 1⟩, 1, 30, 0, 999000, some 0⟩ ∧
      parseIndexDate s₂ = .ok ⟨⟨2020, 2, 28⟩, 18, 45, 30, 0, some 0⟩ ∧ s₁ < s₂ := by
  have huniversal₁ :
      Moment.IsUniversalFormOf ⟨⟨2020, 1, 1⟩, 1, 30, 0, 999999, some 0⟩ newYearsEve :=
    ⟨⟨by decide, rfl⟩, by decide +kernel⟩
  have huniversal₂ :
      Moment.IsUniversalFormOf ⟨⟨2020, 2, 28⟩, 18, 45, 30, 500, some 0⟩ leapDay :=
    ⟨⟨by decide, rfl⟩, by decide +kernel⟩
  obtain ⟨s₁, s₂, hs₁, hs₂, hread₁, hread₂, hlt, -, -⟩ :=
    exists_indexDates_in_order huniversal₁ huniversal₂ (by decide) (by decide)
  exact ⟨s₁, s₂, hs₁, hs₂, hread₁, hread₂, hlt.mpr (by decide +kernel)⟩

end HitListing.Calendar
