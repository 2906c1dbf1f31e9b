import HitListing.Calendar.IndexDate

/-!
# Days, instants and index dates

Counting days and looking a count up are inverse to each other.  The year that
a count falls into is found by an estimate (`yearOfCount_spec`), the month by
going through the year (`inMonth_spec`).  So every instant that the calendar
holds is the instant of a moment (`exists_moment_of_instant`), and the
modification time of a file has an index date if the calendar holds it
(`exists_modifiedIndexDate`).
-/

namespace HitListing.Calendar

/-! ## Years -/

/-- The number of days of a year. -/
def yearLength (year : Nat) : Nat :=
  if isLeap year then 366 else 365

theorem daysBeforeYear_eq (year : Nat) : daysBeforeYear year =
    365 * (year - 1) + (year - 1) / 4 - (year - 1) / 100 + (year - 1) / 400 := rfl

theorem daysBeforeYear_succ {year : Nat} (hyear : 1 ≤ year) :
    daysBeforeYear (year + 1) = daysBeforeYear year + yearLength year := by
  have hleap : isLeap year = true ↔ year % 4 = 0 ∧ (year % 100 ≠ 0 ∨ year % 400 = 0) := by
    simp [isLeap]
  rw [daysBeforeYear_eq, daysBeforeYear_eq, yearLength]
  obtain ⟨p, rfl⟩ : ∃ p, year = p + 1 := ⟨year - 1, by omega⟩
  by_cases h4 : (p + 1) % 4 = 0
  · by_cases h100 : (p + 1) % 100 = 0
    · by_cases h400 : (p + 1) % 400 = 0
      · rw [if_pos (hleap.mpr ⟨h4, Or.inr h400⟩)]
        omega
      · rw [if_neg (by rw [hleap]; omega)]
        omega
    · rw [if_pos (hleap.mpr ⟨h4, Or.inl h100⟩)]
      omega
  · have hfour : (p + 1) / 4 = p / 4 := by omega
    have hhundred : (p + 1) / 100 = p / 100 := by omega
    have hfourhundred : (p + 1) / 400 = p / 400 := by omega
    rw [if_neg (by rw [hleap]; omega), Nat.add_sub_cancel, Nat.add_sub_cancel, hfour, hhundred,
      hfourhundred]
    omega

theorem daysBeforeYear_mono {a b : Nat} (h : a ≤ b) : daysBeforeYear a ≤ daysBeforeYear b := by
  induction h with
  | refl => exact Nat.le_refl _
  | @step b _ ih =>
    rcases Nat.eq_zero_or_pos b with rfl | hb
    · exact ih
    · have := daysBeforeYear_succ hb
      show daysBeforeYear a ≤ daysBeforeYear (b + 1)
      omega

/-- The year of a count is the one in which the count lies. -/
theorem yearOfCount_spec (n : Nat) :
    1 ≤ Date.yearOfCount n ∧ daysBeforeYear (Date.yearOfCount n) ≤ n ∧
      n < daysBeforeYear (Date.yearOfCount n + 1) := by
  have hguess : 146097 * (400 * n / 146097) ≤ 400 * n ∧
      400 * n < 146097 * (400 * n / 146097 + 1) := by omega
  unfold Date.yearOfCount
  generalize 400 * n / 146097 = q at hguess
  have hlow : daysBeforeYear q ≤ n := by
    rw [daysBeforeYear_eq]
    omega
  have hhigh : n < daysBeforeYear (q + 3) := by
    rw [daysBeforeYear_eq]
    omega
  simp only
  split
  · rename_i h
    exact ⟨by omega, h, hhigh⟩
  · split
    · rename_i hnext h
      exact ⟨by omega, h, by omega⟩
    · rename_i h
      refine ⟨?_, hlow, by simpa using h⟩
      -- the year 1 has no day before it
      rcases Nat.eq_zero_or_pos q with rfl | hq
      · exact absurd (Nat.zero_le n) h
      · exact hq

/-! ## Months -/

theorem daysBeforeMonth_succ (year : Nat) {month : Nat} (hmonth : 1 ≤ month) :
    daysBeforeMonth year (month + 1) = daysBeforeMonth year month + daysIn year month := by
  obtain ⟨m, rfl⟩ : ∃ m, month = m + 1 := ⟨month - 1, by omega⟩
  rfl

/-- The twelve months make up the year. -/
theorem daysBeforeMonth_thirteen (year : Nat) : daysBeforeMonth year 13 = yearLength year := by
  cases h : isLeap year <;> simp [daysBeforeMonth, daysIn, yearLength, h]

/-- Going through the months finds the day with the given number of days before it. -/
theorem inMonth_spec (year : Nat) {more month n : Nat} (hmonth : 1 ≤ month)
    (hlast : month + more = 12) (hn : daysBeforeMonth year month + n < yearLength year) :
    (Date.inMonth year more month n).year = year ∧
      month ≤ (Date.inMonth year more month n).month ∧
      (Date.inMonth year more month n).month ≤ 12 ∧
      1 ≤ (Date.inMonth year more month n).day ∧
      (Date.inMonth year more month n).day ≤
        daysIn year (Date.inMonth year more month n).month ∧
      daysBeforeMonth year (Date.inMonth year more month n).month +
        ((Date.inMonth year more month n).day - 1) = daysBeforeMonth year month + n := by
  induction more generalizing month n with
  | zero =>
    obtain rfl : month = 12 := hlast
    have hyear := daysBeforeMonth_thirteen year
    rw [daysBeforeMonth_succ year (by decide)] at hyear
    unfold Date.inMonth
    refine ⟨rfl, Nat.le_refl _, Nat.le_refl _, by simp, ?_, rfl⟩
    show n + 1 ≤ daysIn year 12
    omega
  | succ more ih =>
    unfold Date.inMonth
    split
    · rename_i h
      exact ⟨rfl, Nat.le_refl _, by show month ≤ 12; omega, by simp, h, rfl⟩
    · rename_i h
      have hnext := daysBeforeMonth_succ year hmonth
      have hrest : daysBeforeMonth year (month + 1) + (n - daysIn year month) <
          yearLength year := by omega
      obtain ⟨hy, hfirst, htwelve, hd, hdays, hcount⟩ := ih (by omega) (by omega) hrest
      exact ⟨hy, by omega, htwelve, hd, hdays, by omega⟩

/-! ## Counting days -/

/-- The day of a count has that count, and the calendar has it if the count is not too
large. -/
theorem ofCount_spec {n : Nat} (hn : n < daysBeforeYear (lastYear + 1)) :
    (Date.ofCount n).IsValid ∧ (Date.ofCount n).count = n := by
  obtain ⟨hfirst, hlow, hhigh⟩ := yearOfCount_spec n
  rw [daysBeforeYear_succ hfirst] at hhigh
  have hday : daysBeforeMonth (Date.yearOfCount n) 1 + (n - daysBeforeYear (Date.yearOfCount n)) <
      yearLength (Date.yearOfCount n) := by
    show 0 + (n - daysBeforeYear (Date.yearOfCount n)) < _
    omega
  obtain ⟨hy, hm, htwelve, hd, hdays, hcount⟩ :=
    inMonth_spec (Date.yearOfCount n) (Nat.le_refl 1) (show 1 + 11 = 12 from rfl) hday
  have hlast : Date.yearOfCount n ≤ lastYear := by
    rcases Nat.lt_or_ge lastYear (Date.yearOfCount n) with h | h
    · have := daysBeforeYear_mono (a := lastYear + 1) h
      omega
    · exact h
  unfold Date.ofCount
  constructor
  · unfold Date.IsValid
    rw [hy]
    exact ⟨hfirst, hlast, hm, htwelve, hd, hdays⟩
  · rw [Date.count, hy]
    have hzero : daysBeforeMonth (Date.yearOfCount n) 1 = 0 := rfl
    simp only at hcount ⊢
    omega

/-! ## Instants -/

/-- Whether the calendar holds an instant: it lies in the years from 1 to `lastYear`. -/
def HoldsInstant (t : Int) : Prop :=
  0 ≤ t ∧ t < (daysBeforeYear (lastYear + 1) * dayLength : Nat)

/-- An instant that the calendar holds is that of a moment in universal time. -/
theorem exists_moment_of_instant {t : Int} (ht : HoldsInstant t) :
    ∃ m, Moment.ofInstant? t = some m ∧ m.IsValid ∧ m.instant = t ∧ m.offset = some 0 := by
  obtain ⟨hlow, hhigh⟩ := ht
  obtain ⟨n, rfl⟩ := Int.eq_ofNat_of_zero_le hlow
  have hn : n < daysBeforeYear (lastYear + 1) * dayLength := by
    exact_mod_cast hhigh
  have hdays : n / dayLength < daysBeforeYear (lastYear + 1) :=
    Nat.div_lt_of_lt_mul (by rw [Nat.mul_comm]; exact hn)
  obtain ⟨hvalid, hcount⟩ := ofCount_spec hdays
  have hsplit : dayLength * (n / dayLength) + n % dayLength = n := Nat.div_add_mod n dayLength
  have hrest : n % dayLength < dayLength := Nat.mod_lt n (by decide)
  cases hm : Moment.ofInstant? n with
  | none =>
    rw [Moment.ofInstant?, if_pos ⟨hlow, hhigh⟩] at hm
    cases hm
  | some m =>
  rw [Moment.ofInstant?, if_pos ⟨hlow, hhigh⟩, Option.some_inj] at hm
  subst hm
  refine ⟨_, rfl, ?_, ?_, rfl⟩
  · unfold Moment.IsValid
    simp only [Int.toNat_natCast]
    unfold dayLength at hrest ⊢
    refine ⟨hvalid, by omega, by omega, by omega, by omega, ?_⟩
    intro d hd
    obtain rfl : 0 = d := by simpa using hd
    decide
  · simp only [Moment.instant, Moment.clockTime, Moment.sinceMidnight, Int.toNat_natCast, hcount,
      Option.getD_some]
    rw [Nat.mul_comm]
    omega

/-! ## Modification times -/

/-- A modification time that the calendar holds has an index date. -/
theorem exists_modifiedIndexDate {ns : Int} (h : HoldsInstant (epoch + modifiedMicroseconds ns)) :
    ∃ date, modifiedIndexDate ns = .ok date := by
  unfold modifiedIndexDate
  generalize epoch + modifiedMicroseconds ns = t at h ⊢
  obtain ⟨m, hm, _, hinstant, _⟩ := exists_moment_of_instant h
  have huniversal : m.toUniversal = .ok m := by
    rw [Moment.toUniversal, hinstant, hm]
  rw [hm]
  simp only [formatIndexDate, huniversal]
  exact ⟨_, rfl⟩

end HitListing.Calendar
