import HitListing.Proofs.Calendar
import Mathlib.Tactic.ByContra

/-!
# The order of instants

Written as one numeral, the most significant field first, the fields of a moment
go in the order of time: a date with the greater numeral has more days before it
(`Date.count_lt_of_numeral_lt`), and a moment with the greater numeral is later
by its clock (`Moment.clockTime_lt_of_numeral_lt`).  So the clock time of an existing
moment determines its fields, and there is one moment in universal time at each
instant (`Moment.IsUniversal.eq_of_instant_eq`).
-/

namespace HitListing.Calendar

/-! ## Dates -/

theorem daysBeforeMonth_mono (year : Nat) {a b : Nat} (h : a ≤ b) :
    daysBeforeMonth year a ≤ daysBeforeMonth year b := by
  induction h with
  | refl => exact Nat.le_refl _
  | @step b _ ih =>
    rcases Nat.eq_zero_or_pos b with rfl | hb
    · exact ih
    · have := daysBeforeMonth_succ year hb
      show _ ≤ daysBeforeMonth year (b + 1)
      omega

namespace Date

/-- The fields of a date as one numeral. -/
def numeral (d : Date) : Nat :=
  (d.year * 100 + d.month) * 100 + d.day

variable {a b d : Date}

theorem IsValid.day_le (h : d.IsValid) : d.day ≤ 31 := by
  obtain ⟨-, -, -, -, -, hday⟩ := h
  unfold daysIn at hday
  grind

/-- The days before a date are those of the years before it and some of its own year. -/
theorem IsValid.count_lt (h : d.IsValid) :
    d.count < daysBeforeYear d.year + daysBeforeMonth d.year (d.month + 1) := by
  obtain ⟨-, -, hmonth, -, hday, hlast⟩ := h
  have := daysBeforeMonth_succ d.year hmonth
  unfold count
  omega

theorem IsValid.count_lt_next (h : d.IsValid) : d.count < daysBeforeYear (d.year + 1) := by
  have hcount := h.count_lt
  obtain ⟨hyear, -, -, hmonth, -, -⟩ := h
  have hwhole := daysBeforeMonth_mono d.year (show d.month + 1 ≤ 13 by omega)
  rw [daysBeforeMonth_thirteen] at hwhole
  have := daysBeforeYear_succ hyear
  omega

theorem count_lt_of_numeral_lt (ha : a.IsValid) (hb : b.IsValid) (h : a.numeral < b.numeral) :
    a.count < b.count := by
  have hcount := ha.count_lt
  have hnext := ha.count_lt_next
  have haDay := ha.day_le
  have hbDay := hb.day_le
  obtain ⟨-, -, -, haLast, haFirst, -⟩ := ha
  obtain ⟨-, -, -, hbLast, -, -⟩ := hb
  have hb' : daysBeforeYear b.year + daysBeforeMonth b.year b.month ≤ b.count :=
    Nat.le_add_right _ _
  unfold numeral at h
  rcases Nat.lt_trichotomy a.year b.year with hyear | hyear | hyear
  · have := daysBeforeYear_mono (show a.year + 1 ≤ b.year from hyear)
    omega
  · rcases Nat.lt_or_ge a.month b.month with hmonth | hmonth
    · have := daysBeforeMonth_mono a.year (show a.month + 1 ≤ b.month from hmonth)
      rw [← hyear] at hb'
      omega
    · have hsame : a.month = b.month := by omega
      unfold count
      rw [hyear, hsame]
      omega
  · omega

theorem eq_of_numeral_eq (ha : a.IsValid) (hb : b.IsValid) (h : a.numeral = b.numeral) :
    a = b := by
  have haDay := ha.day_le
  have hbDay := hb.day_le
  obtain ⟨-, -, -, haLast, -, -⟩ := ha
  obtain ⟨-, -, -, hbLast, -, -⟩ := hb
  obtain ⟨year, month, day⟩ := a
  obtain ⟨year', month', day'⟩ := b
  simp only [numeral] at *
  obtain rfl : year = year' := by omega
  obtain rfl : month = month' := by omega
  obtain rfl : day = day' := by omega
  rfl

end Date

/-! ## Times of day -/

namespace Moment

/-- Hour, minute and second as one numeral. -/
def clockNumeral (m : Moment) : Nat :=
  (m.hour * 100 + m.minute) * 100 + m.second

/-- The fields of a moment as one numeral. -/
def numeral (m : Moment) : Nat :=
  (m.date.numeral * 1000000 + m.clockNumeral) * 1000000 + m.microsecond

/-- The seconds since midnight. -/
def seconds (m : Moment) : Nat :=
  (m.hour * 60 + m.minute) * 60 + m.second

variable {a b m : Moment}

theorem clockTime_eq (m : Moment) :
    m.clockTime = (m.date.count * 86400 + m.seconds) * 1000000 + m.microsecond := by
  unfold clockTime sinceMidnight seconds dayLength
  omega

theorem IsValid.microsecond_lt (h : m.IsValid) : m.microsecond < 1000000 :=
  h.2.2.2.2.1

theorem IsValid.seconds_lt (h : m.IsValid) : m.seconds < 86400 := by
  obtain ⟨-, hhour, hminute, hsecond, -, -⟩ := h
  unfold seconds
  omega

theorem IsValid.clockNumeral_lt (h : m.IsValid) : m.clockNumeral < 1000000 := by
  obtain ⟨-, hhour, hminute, hsecond, -, -⟩ := h
  unfold clockNumeral
  omega

theorem seconds_lt_of_clockNumeral_lt (ha : a.IsValid) (hb : b.IsValid)
    (h : a.clockNumeral < b.clockNumeral) : a.seconds < b.seconds := by
  obtain ⟨-, -, haMinute, haSecond, -, -⟩ := ha
  obtain ⟨-, -, hbMinute, hbSecond, -, -⟩ := hb
  unfold clockNumeral at h
  unfold seconds
  omega

theorem fields_eq_of_clockNumeral_eq (ha : a.IsValid) (hb : b.IsValid)
    (h : a.clockNumeral = b.clockNumeral) :
    a.hour = b.hour ∧ a.minute = b.minute ∧ a.second = b.second := by
  obtain ⟨-, -, haMinute, haSecond, -, -⟩ := ha
  obtain ⟨-, -, hbMinute, hbSecond, -, -⟩ := hb
  unfold clockNumeral at h
  omega

/-! ## Moments -/

/-- A last field within its base decides only between numbers that are the same before it. -/
theorem mul_add_lt_of_lt {base x y x' : Nat} (hy : y < base) (h : x < x') (y' : Nat) :
    x * base + y < x' * base + y' := by
  have := Nat.mul_le_mul_right base (show x + 1 ≤ x' from h)
  rw [Nat.add_mul, Nat.one_mul] at this
  omega

theorem lt_cases_of_mul_add_lt {base x y x' y' : Nat} (hy' : y' < base)
    (h : x * base + y < x' * base + y') : x < x' ∨ x = x' ∧ y < y' := by
  rcases Nat.lt_trichotomy x x' with hx | rfl | hx
  · exact Or.inl hx
  · exact Or.inr ⟨rfl, by omega⟩
  · have := mul_add_lt_of_lt hy' hx y
    omega

theorem eq_of_mul_add_eq {base x y x' y' : Nat} (hy : y < base) (hy' : y' < base)
    (h : x * base + y = x' * base + y') : x = x' ∧ y = y' := by
  rcases Nat.lt_trichotomy x x' with hx | rfl | hx
  · have := mul_add_lt_of_lt hy hx y'
    omega
  · exact ⟨rfl, by omega⟩
  · have := mul_add_lt_of_lt hy' hx y
    omega

/-- A moment whose numeral is smaller is earlier by its clock. -/
theorem clockTime_lt_of_numeral_lt (ha : a.IsValid) (hb : b.IsValid)
    (h : a.numeral < b.numeral) : a.clockTime < b.clockTime := by
  have hclock (h : a.date.numeral * 1000000 + a.clockNumeral <
      b.date.numeral * 1000000 + b.clockNumeral) :
      a.date.count * 86400 + a.seconds < b.date.count * 86400 + b.seconds := by
    rcases lt_cases_of_mul_add_lt hb.clockNumeral_lt h with h | ⟨h, hseconds⟩
    · exact mul_add_lt_of_lt ha.seconds_lt (Date.count_lt_of_numeral_lt ha.1 hb.1 h) _
    · rw [Date.eq_of_numeral_eq ha.1 hb.1 h]
      exact Nat.add_lt_add_left (seconds_lt_of_clockNumeral_lt ha hb hseconds) _
  rw [clockTime_eq, clockTime_eq]
  rcases lt_cases_of_mul_add_lt hb.microsecond_lt h with h | ⟨h, hmicro⟩
  · exact mul_add_lt_of_lt ha.microsecond_lt (hclock h) _
  · obtain ⟨hdate, hseconds⟩ := eq_of_mul_add_eq ha.clockNumeral_lt hb.clockNumeral_lt h
    obtain ⟨hh, hm, hs⟩ := fields_eq_of_clockNumeral_eq ha hb hseconds
    rw [Date.eq_of_numeral_eq ha.1 hb.1 hdate, seconds, seconds, hh, hm, hs]
    exact Nat.add_lt_add_left hmicro _

/-- Moments with one numeral have the same fields. -/
theorem eq_of_numeral_eq (ha : a.IsValid) (hb : b.IsValid) (h : a.numeral = b.numeral)
    (hoffset : a.offset = b.offset) : a = b := by
  obtain ⟨h, hmicro⟩ := eq_of_mul_add_eq ha.microsecond_lt hb.microsecond_lt h
  obtain ⟨hdate, hclock⟩ := eq_of_mul_add_eq ha.clockNumeral_lt hb.clockNumeral_lt h
  obtain ⟨hhour, hminute, hsecond⟩ := fields_eq_of_clockNumeral_eq ha hb hclock
  have hdate := Date.eq_of_numeral_eq ha.1 hb.1 hdate
  cases a
  cases b
  simp_all

/-! ## Instants in universal time -/

/-- Whether a moment exists and its clock shows universal time. -/
structure IsUniversal (m : Moment) : Prop where
  isValid : m.IsValid
  offset : m.offset = some 0

theorem IsUniversal.instant_eq (h : m.IsUniversal) : m.instant = m.clockTime := by
  simp [instant, h.offset]

/-- In universal time the later instant has the greater numeral. -/
theorem IsUniversal.instant_lt_iff (ha : a.IsUniversal) (hb : b.IsUniversal) :
    a.instant < b.instant ↔ a.numeral < b.numeral := by
  rw [ha.instant_eq, hb.instant_eq, Int.ofNat_lt]
  refine ⟨fun h => ?_, clockTime_lt_of_numeral_lt ha.isValid hb.isValid⟩
  rcases Nat.lt_trichotomy a.numeral b.numeral with hab | hab | hba
  · exact hab
  · rw [eq_of_numeral_eq ha.isValid hb.isValid hab (ha.offset.trans hb.offset.symm)] at h
    exact absurd h (Nat.lt_irrefl _)
  · have := clockTime_lt_of_numeral_lt hb.isValid ha.isValid hba
    omega

theorem IsUniversal.eq_of_instant_eq (ha : a.IsUniversal) (hb : b.IsUniversal)
    (h : a.instant = b.instant) : a = b := by
  have hab := ha.instant_lt_iff hb
  have hba := hb.instant_lt_iff ha
  exact eq_of_numeral_eq ha.isValid hb.isValid (by omega) (ha.offset.trans hb.offset.symm)

theorem IsUniversal.instant_le_iff (ha : a.IsUniversal) (hb : b.IsUniversal) :
    a.instant ≤ b.instant ↔ a.numeral ≤ b.numeral := by
  have := hb.instant_lt_iff ha
  omega

theorem IsUniversal.holdsInstant (h : m.IsUniversal) : HoldsInstant m.instant := by
  rw [h.instant_eq]
  refine ⟨Int.natCast_nonneg _, ?_⟩
  rw [Int.ofNat_lt]
  have hcount := h.isValid.1.count_lt_next
  have hyears := daysBeforeYear_mono (show m.date.year + 1 ≤ lastYear + 1 from
    Nat.succ_le_succ h.isValid.1.2.1)
  have hday : m.sinceMidnight < dayLength := by
    obtain ⟨-, hhour, hminute, hsecond, hmicro, -⟩ := h.isValid
    unfold sinceMidnight dayLength
    omega
  have := mul_add_lt_of_lt hday (show m.date.count < daysBeforeYear (lastYear + 1) by omega) 0
  unfold clockTime
  omega

/-- The moment in universal time at an instant is the only one. -/
theorem ofInstant?_eq_some_iff {t : Int} :
    ofInstant? t = some m ↔ m.IsUniversal ∧ m.instant = t := by
  constructor
  · intro h
    have ht : HoldsInstant t := by
      by_contra hnot
      unfold HoldsInstant at hnot
      rw [ofInstant?, if_neg hnot] at h
      cases h
    obtain ⟨u, hu, hvalid, hinstant, hoffset⟩ := exists_moment_of_instant ht
    obtain rfl := Option.some.inj (hu.symm.trans h)
    exact ⟨⟨hvalid, hoffset⟩, hinstant⟩
  · rintro ⟨hm, rfl⟩
    obtain ⟨u, hu, hvalid, hinstant, hoffset⟩ := exists_moment_of_instant hm.holdsInstant
    rw [hu, IsUniversal.eq_of_instant_eq ⟨hvalid, hoffset⟩ hm hinstant]

/-- Whether a moment is another one by a clock that shows universal time. -/
def IsUniversalFormOf (u m : Moment) : Prop :=
  u.IsUniversal ∧ u.instant = m.instant

theorem toUniversal_eq_ok_iff {u : Moment} : m.toUniversal = .ok u ↔ u.IsUniversalFormOf m := by
  rw [IsUniversalFormOf, ← ofInstant?_eq_some_iff, toUniversal]
  cases ofInstant? m.instant with
  | none => simp
  | some found => simp

end Moment

end HitListing.Calendar
