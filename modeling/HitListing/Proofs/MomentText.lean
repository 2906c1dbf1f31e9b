import HitListing.Calendar.Iso
import HitListing.Proofs.InstantOrder
import HitListing.Proofs.JsonAscii
import HitListing.Proofs.Numerals
import HitListing.Proofs.Outcomes

/-!
# Moments written in full

A moment that is written in full is read back (`Iso.readUniversal_iso`), whatever
its clock is ahead by; only if it is ahead by less than a second, which no
reading gives (`Iso.isReadable_of_readUniversal`), the text would be taken for one
in universal time.

Reading looks at places of the whole text.  Of a text with something in front a
place further on is read as the same place of the rest, which is stated once for
each function of the reader (`Iso.fields?_append` and so on); the text is then
consumed from its front.
-/

namespace HitListing.Calendar

/-! ## Characters -/

theorem Iso.octets_of_isAscii {t : Text} (h : t.IsAscii) : Iso.octets t = t := by
  induction t with
  | nil => rfl
  | cons c t ih =>
    obtain ⟨hc, ht⟩ := Text.isAscii_cons.mp h
    have hcode : c.val.toNat ≤ 0x7f := Nat.le_of_lt_succ hc
    have hchar : Char.ofNat (UInt8.ofNat c.val.toNat).toNat = c := by
      rw [UInt8.toNat_ofNat', Nat.mod_eq_of_lt (by omega)]
      exact Char.ofNat_toNat c
    have hstep : Iso.octets (c :: t) =
        ((String.utf8EncodeChar c).map fun b => Char.ofNat b.toNat) ++ Iso.octets t := by
      simp [Iso.octets, Utf8.encode]
    rw [hstep, ih ht, String.utf8EncodeChar, if_pos hcode]
    simp only [List.map_cons, List.map_nil, hchar]
    rfl

namespace Iso

/-! ## Places of a text -/

section Places

variable {n : Nat} {front : Text} (hfront : front.length = n)

include hfront

theorem charAt_append (s : Text) (i : Nat) : charAt (front ++ s) (n + i) = charAt s i := by
  subst hfront
  rw [charAt, charAt, List.getD_eq_getElem?_getD, List.getD_eq_getElem?_getD,
    List.getElem?_append_right (Nat.le_add_right _ _), Nat.add_sub_cancel_left]

theorem number?_append (s : Text) (i count : Nat) :
    number? (front ++ s) (n + i) count = number? s i count := by
  induction count with
  | zero => rfl
  | succ count ih => rw [number?, number?, ih, Nat.add_assoc, charAt_append hfront]

theorem digitsEnd_append (s : Text) (i : Nat) :
    digitsEnd (front ++ s) (n + i) = n + digitsEnd s i := by
  subst hfront
  rw [digitsEnd, digitsEnd, List.drop_length_add_append, Nat.add_assoc]

theorem withFraction?_append (s : Text) (i stop : Nat) (fields : List Nat) :
    withFraction? (front ++ s) (n + i) (n + stop) fields = withFraction? s i stop fields := by
  simp only [withFraction?, Nat.add_sub_add_left, Nat.add_assoc, number?_append hfront,
    digitsEnd_append hfront, charAt_append hfront]

theorem fields?_append (s : Text) (i stop : Nat) (colons : Bool) (fields : List Nat)
    (left : Nat) :
    fields? (front ++ s) (n + stop) colons fields left (n + i) =
      fields? s stop colons fields left i := by
  induction left generalizing i colons fields with
  | zero => exact withFraction?_append hfront s i stop fields
  | succ left ih =>
    simp only [fields?, Nat.add_assoc, number?_append hfront, charAt_append hfront,
      Nat.add_le_add_iff_left, ih, withFraction?_append hfront]

end Places

/-! ## Numbers -/

theorem number?_digits (width : Nat) {n : Nat} (hwidth : 0 < width) (hn : n < 10 ^ width)
    (rest : Text) : number? (Text.digits width n ++ rest) 0 width = some n := by
  induction width generalizing n rest with
  | zero => omega
  | succ w ih =>
    -- the last digit is read behind the others
    have hlast (front : Nat) {k : Nat} (hk : k < 10) (s : Text) (i : Nat)
        (hnumber : number? s i w = some front) (hchar : charAt s (i + w) = k.digitChar) :
        number? s i (w + 1) = some (10 * front + k) := by
      have hdigit : k.digitChar.isDigit = true := by
        rw [Nat.isDigit_digitChar, decide_eq_true hk]
      rw [number?, hnumber, Option.bind_eq_bind, Option.bind_some, hchar, if_pos hdigit,
        Nat.toNat_digitChar_of_lt_ten hk]
      show some (10 * front + (48 + k - 48)) = _
      rw [Nat.add_sub_cancel_left]
    rcases Nat.eq_zero_or_pos w with rfl | hpos
    · rw [Text.digits_one hn, hlast 0 hn _ 0 rfl rfl, Nat.mul_zero, Nat.zero_add]
    · rw [Nat.pow_succ] at hn
      rw [Text.digits_succ hpos, List.append_assoc,
        hlast (n / 10) (Nat.mod_lt n (by decide)) _ 0 (ih hpos (by omega) _), Nat.div_add_mod]
      rw [Nat.zero_add]
      exact charAt_append (i := 0) (Text.length_digits w hpos (by omega)) _

theorem isDigit_charAt_digits (width : Nat) {n : Nat} (hwidth : 0 < width) (hn : n < 10 ^ width)
    (rest : Text) : (charAt (Text.digits width n ++ rest) 0).isDigit = true := by
  have hlength := Text.length_digits width hwidth hn
  cases hdigits : Text.digits width n with
  | nil =>
    rw [hdigits] at hlength
    exact absurd hlength (Nat.ne_of_lt hwidth)
  | cons c t =>
    have hmem : c ∈ Text.digits width n := by
      rw [hdigits]
      exact List.mem_cons_self
    exact Text.isDigit_of_mem_digits hmem

/-! ## Times -/

section Fields

variable {n left : Nat} {colons : Bool} {fields : List Nat}

/-- The last field of a clock. -/
theorem fields?_stop {stop : Nat} (hn : n < 100) (hstop : stop ≤ 3) (rest : Text) :
    fields? (Text.digits 2 n ++ rest) stop colons fields (left + 1) 0 =
      some ⟨fields ++ [n], 0, charAt rest 0 = '\x00'⟩ := by
  have hlength := Text.length_digits 2 (by decide) hn
  have hchar : charAt (Text.digits 2 n ++ rest) 2 = charAt rest 0 := charAt_append hlength rest 0
  rw [fields?, number?_digits 2 (by decide) hn, Option.bind_eq_bind, Option.bind_some]
  simp only [Nat.zero_add, hstop, if_pos, hchar]

/-- A field before a colon. -/
theorem fields?_colon (stop : Nat) (hn : n < 100) (hstop : 0 < stop)
    (hcolons : fields = [] ∨ colons = true) (rest : Text) :
    fields? (Text.digits 2 n ++ ':' :: rest) (3 + stop) colons fields (left + 1) 0 =
      fields? rest stop true (fields ++ [n]) left 0 := by
  have hlength := Text.length_digits 2 (by decide) hn
  have hchar : charAt (Text.digits 2 n ++ ':' :: rest) 2 = ':' := charAt_append hlength _ 0
  have hstep : fields? (Text.digits 2 n ++ ':' :: rest) (3 + stop) true (fields ++ [n]) left 3 =
      fields? rest stop true (fields ++ [n]) left 0 := by
    have hfront : (Text.digits 2 n ++ [':']).length = 3 := by
      rw [List.length_append, hlength]
      rfl
    have h := fields?_append hfront rest 0 stop true (fields ++ [n]) left
    rwa [List.append_assoc] at h
  have hopen : if (fields ++ [n]).length = 1 then True else colons = true := by
    rcases hcolons with rfl | rfl
    · exact trivial
    · simp
  rw [fields?, number?_digits 2 (by decide) hn, Option.bind_eq_bind, Option.bind_some]
  simp only [Nat.zero_add, hchar, eq_true hopen, decide_true, Bool.and_true]
  rw [if_neg (by omega), if_pos trivial, hstep]

/-- The last field of a clock, with a fraction. -/
theorem fields?_point {u : Nat} (hn : n < 100) (hu : u < 1000000) (hfields : fields ≠ [])
    (rest : Text) :
    fields? (Text.digits 2 n ++ '.' :: (Text.digits 6 u ++ rest)) 9 true fields (left + 1) 0 =
      some ⟨fields ++ [n], u, charAt rest (digitsEnd rest 0) = '\x00'⟩ := by
  have hlength := Text.length_digits 2 (by decide) hn
  have hlength' := Text.length_digits 6 (by decide) hu
  have hchar : charAt (Text.digits 2 n ++ '.' :: (Text.digits 6 u ++ rest)) 2 = '.' :=
    charAt_append hlength _ 0
  have hstep : withFraction? (Text.digits 2 n ++ '.' :: (Text.digits 6 u ++ rest)) 3 9
      (fields ++ [n]) = some ⟨fields ++ [n], u, charAt rest (digitsEnd rest 0) = '\x00'⟩ := by
    have hfront : (Text.digits 2 n ++ ['.']).length = 3 := by
      rw [List.length_append, hlength]
      rfl
    have h := withFraction?_append hfront (Text.digits 6 u ++ rest) 0 6 (fields ++ [n])
    rw [List.append_assoc] at h
    have hend : charAt (Text.digits 6 u ++ rest) (digitsEnd (Text.digits 6 u ++ rest) 6) =
        charAt rest (digitsEnd rest 0) := by
      rw [show (6 : Nat) = 6 + 0 from rfl, digitsEnd_append hlength', charAt_append hlength']
    refine h.trans ?_
    rw [withFraction?]
    simp [number?_digits 6 (by decide) hu, hend]
  have hone : ¬(fields ++ [n]).length = 1 := by
    cases fields with
    | nil => exact absurd rfl hfields
    | cons f fields => simp
  rw [fields?, number?_digits 2 (by decide) hn, Option.bind_eq_bind, Option.bind_some]
  simp only [Nat.zero_add, hchar, hone, if_false, decide_true, Bool.true_and]
  rw [if_neg (by decide), if_neg (by decide), if_pos (by decide), hstep]

end Fields

/-- A time of day in full. -/
def clockText (hour minute second microsecond : Nat) : Text :=
  Text.digits 2 hour ++ ':' :: (Text.digits 2 minute ++ ':' ::
    (Text.digits 2 second ++ Moment.fraction microsecond))

section Clock

variable {hour minute second microsecond n : Nat} (hhour : hour < 100) (hminute : minute < 100)
  (hsecond : second < 100) (hmicrosecond : microsecond < 1000000)

include hhour hminute

/-- A clock without seconds is read up to the end of the text. -/
theorem clock?_digits {front : Text} (hfront : front.length = n) :
    clock? (front ++ (Text.digits 2 hour ++ ':' :: Text.digits 2 minute)) n (n + 5) =
      some ⟨[hour, minute], 0, true⟩ := by
  have hfields : fields? (Text.digits 2 hour ++ ':' :: Text.digits 2 minute) 5 false [] 3 0 =
      some ⟨[hour, minute], 0, true⟩ := by
    have hminutes : fields? (Text.digits 2 minute ++ []) 2 true [hour] 2 0 =
        some ⟨[hour, minute], 0, true⟩ := fields?_stop hminute (by decide) []
    rw [List.append_nil] at hminutes
    exact (fields?_colon 2 hhour (by decide) (Or.inl rfl) _).trans hminutes
  exact (fields?_append hfront _ 0 5 false [] 3).trans hfields

include hsecond hmicrosecond

/-- A clock with seconds is read up to its own end, and it is known whether that is the end of the
text. -/
theorem clock?_clockText {front : Text} (hfront : front.length = n) (rest : Text) :
    ∃ atEnd, clock? (front ++ (clockText hour minute second microsecond ++ rest)) n
        (n + (clockText hour minute second microsecond).length) =
      some ⟨[hour, minute, second], microsecond, atEnd⟩ ∧ (rest = [] → atEnd = true) := by
  have htwo {k : Nat} (hk : k < 100) := Text.length_digits 2 (by decide) hk
  have hshift (t : Text) (stop : Nat) := fields?_append hfront t 0 stop false [] 3
  rcases Nat.eq_zero_or_pos microsecond with rfl | hpos
  · refine ⟨charAt rest 0 = '\x00', ?_, ?_⟩
    · have hlength : (clockText hour minute second 0).length = 8 := by
        simp [clockText, Moment.fraction, htwo hhour, htwo hminute, htwo hsecond]
      have htext : clockText hour minute second 0 ++ rest =
          Text.digits 2 hour ++ ':' :: (Text.digits 2 minute ++ ':' ::
            (Text.digits 2 second ++ rest)) := by
        simp [clockText, Moment.fraction]
      rw [hlength, htext]
      refine (hshift _ 8).trans ((fields?_colon 5 hhour (by decide) (Or.inl rfl) _).trans ?_)
      refine (fields?_colon 2 hminute (by decide) (Or.inr rfl) _).trans ?_
      exact fields?_stop hsecond (by decide) rest
    · rintro rfl
      rfl
  · refine ⟨charAt rest (digitsEnd rest 0) = '\x00', ?_, ?_⟩
    · have hfraction : Moment.fraction microsecond = '.' :: Text.digits 6 microsecond :=
        if_neg (by omega)
      have hlength : (clockText hour minute second microsecond).length = 15 := by
        simp [clockText, hfraction, htwo hhour, htwo hminute, htwo hsecond,
          Text.length_digits 6 (by decide) hmicrosecond]
      have htext : clockText hour minute second microsecond ++ rest =
          Text.digits 2 hour ++ ':' :: (Text.digits 2 minute ++ ':' ::
            (Text.digits 2 second ++ '.' :: (Text.digits 6 microsecond ++ rest))) := by
        simp [clockText, hfraction]
      rw [hlength, htext]
      refine (hshift _ 15).trans ((fields?_colon 12 hhour (by decide) (Or.inl rfl) _).trans ?_)
      refine (fields?_colon 9 hminute (by decide) (Or.inr rfl) _).trans ?_
      exact fields?_point hsecond hmicrosecond (List.cons_ne_nil _ _) rest
    · rintro rfl
      rfl

end Clock

/-- The characters of a time of day. -/
theorem mem_clockText {hour minute second microsecond : Nat} {c : Char}
    (hc : c ∈ clockText hour minute second microsecond) :
    c.isDigit = true ∨ c = ':' ∨ c = '.' := by
  have hdigits {width n : Nat} (hmem : c ∈ Text.digits width n) :
      c.isDigit = true ∨ c = ':' ∨ c = '.' := Or.inl (Text.isDigit_of_mem_digits hmem)
  simp only [clockText, List.mem_append, List.mem_cons] at hc
  rcases hc with hc | rfl | hc | rfl | hc | hc
  · exact hdigits hc
  · exact Or.inr (Or.inl rfl)
  · exact hdigits hc
  · exact Or.inr (Or.inl rfl)
  · exact hdigits hc
  · unfold Moment.fraction at hc
    split at hc
    · cases hc
    · rcases List.mem_cons.mp hc with rfl | hc
      · exact Or.inr (Or.inr rfl)
      · exact hdigits hc

/-- A time ends at the sign behind it. -/
theorem zoneStart_clockText {front : Text} {n : Nat} (hfront : front.length = n)
    (hour minute second microsecond : Nat) {sign : Char} (hsign : sign = '+' ∨ sign = '-')
    (rest : Text) :
    zoneStart (front ++ (clockText hour minute second microsecond ++ sign :: rest)) n =
      n + (clockText hour minute second microsecond).length := by
  subst hfront
  have hclock : ∀ c ∈ clockText hour minute second microsecond,
      (c ≠ '+' && c ≠ '-' && c ≠ 'Z') = true := by
    intro c hc
    rcases mem_clockText hc with hdigit | rfl | rfl
    · have hne {d : Char} (hd : d.isDigit = false) : c ≠ d := by
        rintro rfl
        rw [hdigit] at hd
        cases hd
      simp [hne (d := '+') rfl, hne (d := '-') rfl, hne (d := 'Z') rfl]
    · rfl
    · rfl
  have hstop : (sign ≠ '+' && sign ≠ '-' && sign ≠ 'Z') = false := by
    rcases hsign with rfl | rfl <;> rfl
  rw [zoneStart, List.drop_left, List.takeWhile_append_of_pos hclock, List.takeWhile_cons, hstop]
  simp

/-! ## Offsets -/

/-- Whether an offset is one that reading gives: less than a day, and not less than a second
unless there is none. -/
def IsReadableOffset (d : Int) : Prop :=
  d.natAbs < dayLength ∧ (d = 0 ∨ 1000000 ≤ d.natAbs)

/-- The sign of an offset. -/
def signOf (d : Int) : Char :=
  if d < 0 then '-' else '+'

/-- An offset is written as a sign and a time of day, without the seconds if there are none. -/
theorem showOffset_eq (d : Int) :
    Moment.showOffset d = signOf d ::
      (if d.natAbs % 60000000 = 0 then
        Text.digits 2 (d.natAbs / 1000000 / 3600) ++
          ':' :: Text.digits 2 (d.natAbs / 1000000 / 60 % 60)
      else
        clockText (d.natAbs / 1000000 / 3600) (d.natAbs / 1000000 / 60 % 60)
          (d.natAbs / 1000000 % 60) (d.natAbs % 1000000)) := by
  unfold Moment.showOffset signOf
  by_cases hminutes : d.natAbs % 60000000 = 0
  · simp [hminutes]
  · simp [hminutes, clockText]

/-- The time of day that an offset is written as, up to the end of the text. -/
theorem exists_clock?_of_offset {n : Nat} (hn : n < dayLength) {front : Text} {k : Nat}
    (hfront : front.length = k) :
    let shown := if n % 60000000 = 0 then
        Text.digits 2 (n / 1000000 / 3600) ++ ':' :: Text.digits 2 (n / 1000000 / 60 % 60)
      else
        clockText (n / 1000000 / 3600) (n / 1000000 / 60 % 60) (n / 1000000 % 60) (n % 1000000)
    ∃ clock, clock? (front ++ shown) k (front ++ shown).length = some clock ∧
      clock.atEnd = true ∧ clock.total = n := by
  have hhour : n / 1000000 / 3600 < 100 := by
    unfold dayLength at hn
    omega
  have hminute : n / 1000000 / 60 % 60 < 100 := Nat.lt_trans (Nat.mod_lt _ (by decide)) (by decide)
  have hsecond : n / 1000000 % 60 < 100 := Nat.lt_trans (Nat.mod_lt _ (by decide)) (by decide)
  have hmicrosecond : n % 1000000 < 1000000 := Nat.mod_lt _ (by decide)
  have hfields : (n / 1000000 / 3600 * 60 + n / 1000000 / 60 % 60) * 60 + n / 1000000 % 60 =
      n / 1000000 := by omega
  intro shown
  by_cases hminutes : n % 60000000 = 0
  · have hshown : shown =
        Text.digits 2 (n / 1000000 / 3600) ++ ':' :: Text.digits 2 (n / 1000000 / 60 % 60) :=
      if_pos hminutes
    have hlength : (front ++ shown).length = k + 5 := by
      simp [hshown, hfront, Text.length_digits 2 (by decide) hhour,
        Text.length_digits 2 (by decide) hminute]
    refine ⟨⟨[n / 1000000 / 3600, n / 1000000 / 60 % 60], 0, true⟩, ?_, rfl, ?_⟩
    · rw [hlength, hshown]
      exact clock?_digits hhour hminute hfront
    · show (((n / 1000000 / 3600 * 60 + n / 1000000 / 60 % 60) * 60 + 0 : Nat) : Int) * 1000000 +
        (0 : Nat) = n
      omega
  · have hshown : shown = clockText (n / 1000000 / 3600) (n / 1000000 / 60 % 60)
        (n / 1000000 % 60) (n % 1000000) := if_neg hminutes
    obtain ⟨atEnd, hclock, hatEnd⟩ :=
      clock?_clockText hhour hminute hsecond hmicrosecond hfront []
    rw [List.append_nil, ← hshown] at hclock
    refine ⟨_, by rw [List.length_append, hfront]; exact hclock, hatEnd rfl, ?_⟩
    show (((n / 1000000 / 3600 * 60 + n / 1000000 / 60 % 60) * 60 + n / 1000000 % 60 : Nat) : Int) *
      1000000 + (n % 1000000 : Nat) = n
    rw [hfields]
    omega

/-- An offset is read back at the end of a text. -/
theorem offset?_showOffset {d : Int} (hd : IsReadableOffset d) {front : Text} {k : Nat}
    (hfront : front.length = k) : offset? (front ++ Moment.showOffset d) k = some d := by
  obtain ⟨hday, hsmall⟩ := hd
  have hfront' : (front ++ [signOf d]).length = k + 1 := by
    rw [List.length_append, hfront]
    rfl
  obtain ⟨clock, hclock, hend, htotal⟩ := exists_clock?_of_offset hday hfront'
  rw [List.append_assoc, List.singleton_append, ← showOffset_eq] at hclock
  have hsign : charAt (front ++ Moment.showOffset d) k = signOf d := by
    rw [showOffset_eq]
    exact charAt_append hfront _ 0
  have hzulu : signOf d ≠ 'Z' := by
    unfold signOf
    split <;> decide
  have hminus : signOf d = '-' ↔ d < 0 := by
    unfold signOf
    split <;> simp [*]
  rw [offset?, hsign, if_neg hzulu, hclock, Option.bind_eq_bind, Option.bind_some]
  simp only [hend, htotal, Bool.not_true, Bool.false_eq_true, if_false, hminus]
  congr 1
  split <;> split <;> omega

/-! ## Dates -/

/-- A date in full. -/
def dateText (d : Date) : Text :=
  Text.digits 4 d.year ++ '-' :: (Text.digits 2 d.month ++ '-' :: Text.digits 2 d.day)

section Dates

variable {d : Date} (hyear : d.year < 10000) (hmonth : d.month < 100) (hday : d.day < 100)

include hyear hmonth hday

theorem length_dateText : (dateText d).length = 10 := by
  simp [dateText, Text.length_digits 4 (by decide) hyear, Text.length_digits 2 (by decide) hmonth,
    Text.length_digits 2 (by decide) hday]

/-- What stands at the places of a date: hyphens, and digits between them. -/
theorem places_dateText (rest : Text) :
    number? (dateText d ++ rest) 0 4 = some d.year ∧ charAt (dateText d ++ rest) 4 = '-' ∧
      (charAt (dateText d ++ rest) 5).isDigit = true ∧
      number? (dateText d ++ rest) 5 2 = some d.month ∧ charAt (dateText d ++ rest) 7 = '-' ∧
      number? (dateText d ++ rest) 8 2 = some d.day := by
  have hlength := Text.length_digits 4 (by decide) hyear
  have hlength' := Text.length_digits 2 (by decide) hmonth
  have hfirst : (Text.digits 4 d.year ++ ['-']).length = 5 := by simp [hlength]
  have hsecond : (Text.digits 4 d.year ++ '-' :: Text.digits 2 d.month).length = 7 := by
    simp [hlength, hlength']
  have hthird : (Text.digits 4 d.year ++ '-' :: (Text.digits 2 d.month ++ ['-'])).length = 8 := by
    simp [hlength, hlength']
  refine ⟨?_, ?_, ?_, ?_, ?_, ?_⟩
  · rw [dateText, List.append_assoc]
    exact number?_digits 4 (by decide) hyear _
  · rw [dateText, List.append_assoc]
    exact charAt_append hlength _ 0
  · have hplace := charAt_append hfirst
      (Text.digits 2 d.month ++ ('-' :: Text.digits 2 d.day ++ rest)) 0
    have hdigit := isDigit_charAt_digits 2 (by decide) hmonth ('-' :: Text.digits 2 d.day ++ rest)
    rw [← hplace] at hdigit
    simpa [dateText] using hdigit
  · have hplace := number?_append hfirst
      (Text.digits 2 d.month ++ ('-' :: Text.digits 2 d.day ++ rest)) 0 2
    rw [number?_digits 2 (by decide) hmonth] at hplace
    simpa [dateText] using hplace
  · simpa [dateText, charAt] using charAt_append hsecond ('-' :: (Text.digits 2 d.day ++ rest)) 0
  · have hplace := number?_append hthird (Text.digits 2 d.day ++ rest) 0 2
    rw [number?_digits 2 (by decide) hday] at hplace
    simpa [dateText] using hplace

theorem dateEnd_dateText (rest : Text) : dateEnd (dateText d ++ rest) = 10 := by
  obtain ⟨-, hhyphen, hdigit, -⟩ := places_dateText hyear hmonth hday rest
  have hweek : charAt (dateText d ++ rest) 5 ≠ 'W' := by
    intro h
    rw [h] at hdigit
    cases hdigit
  have hlength : (dateText d ++ rest).length ≠ 7 := by
    rw [List.length_append, length_dateText hyear hmonth hday]
    omega
  rw [dateEnd, if_neg hlength, if_pos hhyphen, if_neg hweek]

theorem date?_dateText (rest : Text) : date? (dateText d ++ rest) 10 = some d := by
  obtain ⟨hyear', hhyphen, hdigit, hmonth', hhyphen', hday'⟩ :=
    places_dateText hyear hmonth hday rest
  have hweek : charAt (dateText d ++ rest) 5 ≠ 'W' := by
    intro h
    rw [h] at hdigit
    cases hdigit
  rw [date?, hyear', Option.bind_eq_bind, Option.bind_some]
  simp [hhyphen, hweek, hmonth', hhyphen', hday']

end Dates

end Iso

/-! ## Moments -/

/-- Whether a moment is one that reading gives: it exists, and it is known what its clock is ahead
by. -/
structure Moment.IsReadable (m : Moment) : Prop where
  isValid : m.IsValid
  offset : ∃ d, m.offset = some d ∧ Iso.IsReadableOffset d

theorem Moment.IsReadable.isSome_offset {m : Moment} (h : m.IsReadable) : m.offset.isSome := by
  obtain ⟨d, hoffset, -⟩ := h.offset
  rw [hoffset]
  rfl

theorem Moment.iso_eq {m : Moment} {d : Int} (hoffset : m.offset = some d) :
    m.iso = Iso.dateText m.date ++ 'T' ::
      (Iso.clockText m.hour m.minute m.second m.microsecond ++ showOffset d) := by
  simp [iso, hoffset, Iso.dateText, Iso.clockText]

namespace Iso

theorem isAscii_fraction (microseconds : Nat) : (Moment.fraction microseconds).IsAscii := by
  unfold Moment.fraction
  split
  · exact Text.isAscii_nil
  · exact Text.isAscii_cons.mpr ⟨by decide, Text.isAscii_digits 6 microseconds⟩

theorem isAscii_clockText (hour minute second microsecond : Nat) :
    (clockText hour minute second microsecond).IsAscii := by
  have hcolon : (':' : Char).toNat < 0x80 := by decide
  simp only [clockText, Text.isAscii_append, Text.isAscii_cons, Text.isAscii_digits,
    isAscii_fraction, hcolon, and_self]

theorem isAscii_iso {m : Moment} {d : Int} (hoffset : m.offset = some d) : m.iso.IsAscii := by
  have hhyphen : ('-' : Char).toNat < 0x80 := by decide
  have hcolon : (':' : Char).toNat < 0x80 := by decide
  have htime : ('T' : Char).toNat < 0x80 := by decide
  have hsign : (signOf d).toNat < 0x80 := by
    unfold signOf
    split <;> decide
  have hshown : (Moment.showOffset d).IsAscii := by
    rw [showOffset_eq, Text.isAscii_cons]
    refine ⟨hsign, ?_⟩
    split
    · simp only [Text.isAscii_append, Text.isAscii_cons, Text.isAscii_digits, hcolon, and_self]
    · exact isAscii_clockText _ _ _ _
  rw [Moment.iso_eq hoffset]
  simp only [dateText, Text.isAscii_append, Text.isAscii_cons, Text.isAscii_digits,
    isAscii_clockText, hshown, hhyphen, htime, and_self]

/-- What is written behind the date is read back. -/
theorem withTime?_clockText {m : Moment} (h : m.IsValid) {d : Int} (hoffset : m.offset = some d)
    (hd : IsReadableOffset d) {front : Text} {n : Nat} (hfront : front.length = n) (date : Date) :
    withTime? (front ++ (clockText m.hour m.minute m.second m.microsecond ++
      Moment.showOffset d)) date n = some { m with date := date } := by
  obtain ⟨-, hhour, hminute, hsecond, hmicrosecond, -⟩ := h
  have hsign : signOf d = '+' ∨ signOf d = '-' := by
    unfold signOf
    split
    · exact Or.inr rfl
    · exact Or.inl rfl
  have hzone := zoneStart_clockText hfront m.hour m.minute m.second m.microsecond hsign
  obtain ⟨atEnd, hclock, -⟩ := clock?_clockText (Nat.lt_trans hhour (by decide))
    (Nat.lt_trans hminute (by decide)) (Nat.lt_trans hsecond (by decide)) hmicrosecond hfront
    (Moment.showOffset d)
  have hlength : (front ++ clockText m.hour m.minute m.second m.microsecond).length =
      n + (clockText m.hour m.minute m.second m.microsecond).length := by
    rw [List.length_append, hfront]
  have hread := offset?_showOffset hd hlength
  rw [List.append_assoc] at hread
  have hmore : n + (clockText m.hour m.minute m.second m.microsecond).length <
      (front ++ (clockText m.hour m.minute m.second m.microsecond ++
        Moment.showOffset d)).length := by
    rw [List.length_append, List.length_append, hfront, showOffset_eq, List.length_cons]
    omega
  rw [withTime?]
  rw [showOffset_eq] at hclock hread hmore ⊢
  rw [hzone, hclock, Option.bind_eq_bind, Option.bind_some, if_pos hmore, hread, hoffset]
  rfl

/-- A moment that is written in full is read back. -/
theorem readUniversal_iso {m : Moment} (h : m.IsReadable) : readUniversal m.iso = .ok m := by
  obtain ⟨hvalid, d, hoffset, hd⟩ := h
  have hyear : m.date.year < 10000 := Nat.lt_succ_of_le hvalid.1.2.1
  have hmonth : m.date.month < 100 := Nat.lt_of_le_of_lt hvalid.1.2.2.2.1 (by decide)
  have hday : m.date.day < 100 := Nat.lt_of_le_of_lt hvalid.1.day_le (by decide)
  have hlength := length_dateText hyear hmonth hday
  have hfields : fieldsOf? m.iso = some m := by
    rw [fieldsOf?, octets_of_isAscii (isAscii_iso hoffset), Moment.iso_eq hoffset]
    have hlong : ¬(dateText m.date ++ 'T' :: (clockText m.hour m.minute m.second m.microsecond ++
        Moment.showOffset d)).length < 7 := by
      rw [List.length_append, hlength]
      omega
    have hmore : 10 < (dateText m.date ++ 'T' :: (clockText m.hour m.minute m.second
        m.microsecond ++ Moment.showOffset d)).length := by
      rw [List.length_append, hlength, List.length_cons]
      omega
    have htime : charAt (dateText m.date ++ 'T' :: (clockText m.hour m.minute m.second
        m.microsecond ++ Moment.showOffset d)) 10 = 'T' := charAt_append hlength _ 0
    have hfront : (dateText m.date ++ ['T']).length = 11 := by
      rw [List.length_append, hlength]
      rfl
    have hread := withTime?_clockText hvalid hoffset hd hfront m.date
    rw [List.append_assoc] at hread
    simp only [hlong, if_false]
    rw [dateEnd_dateText hyear hmonth hday, date?_dateText hyear hmonth hday, Option.bind_eq_bind,
      Option.bind_some, if_pos hmore, htime]
    exact hread
  rw [readUniversal, read, hfields]
  show (Moment.check m).map _ = _
  rw [Moment.check, if_pos hvalid]
  show Except.ok { m with offset := some (m.offset.getD 0) } = _
  rw [hoffset]
  exact congrArg Except.ok (by rw [Option.getD_some, ← hoffset])

/-! ## What is read -/

theorem offset?_cases {s : Text} {i : Nat} {d : Int} (h : offset? s i = some d) :
    d = 0 ∨ 1000000 ≤ d.natAbs := by
  rw [offset?] at h
  split at h
  · split at h
    · exact Or.inl (Option.some.inj h).symm
    · cases h
  · obtain ⟨clock, -, h⟩ := Option.bind_eq_some_iff.mp h
    split at h
    · cases h
    · obtain rfl := Option.some.inj h
      split <;> split <;> omega

theorem withTime?_offset {s : Text} {date : Date} {i : Nat} {m : Moment}
    (h : withTime? s date i = some m) : ∀ d ∈ m.offset, d = 0 ∨ 1000000 ≤ d.natAbs := by
  obtain ⟨clock, -, h⟩ := Option.bind_eq_some_iff.mp h
  split at h
  · obtain ⟨d, hd, h⟩ := Option.bind_eq_some_iff.mp h
    obtain rfl := Option.some.inj h
    intro e he
    obtain rfl := Option.some.inj he
    exact offset?_cases hd
  · split at h
    · obtain rfl := Option.some.inj h
      exact nofun
    · cases h

theorem fieldsOf?_offset {t : Text} {m : Moment} (h : fieldsOf? t = some m) :
    ∀ d ∈ m.offset, d = 0 ∨ 1000000 ≤ d.natAbs := by
  rw [fieldsOf?] at h
  split at h
  · cases h
  · obtain ⟨date, -, h⟩ := Option.bind_eq_some_iff.mp h
    split at h
    · exact withTime?_offset h
    · obtain rfl := Option.some.inj h
      exact nofun

/-- What is read can be written in full and be read again. -/
theorem isReadable_of_readUniversal {t : Text} {m : Moment} (h : readUniversal t = .ok m) :
    m.IsReadable := by
  rw [readUniversal, read] at h
  split at h
  · rename_i u hfields
    rw [Moment.check] at h
    split at h
    · rename_i hvalid
      obtain rfl := Except.ok.inj h
      have hoffset := fieldsOf?_offset hfields
      obtain ⟨hdate, hhour, hminute, hsecond, hmicrosecond, hday⟩ := hvalid
      have hd : IsReadableOffset (u.offset.getD 0) := by
        cases hknown : u.offset with
        | none => exact ⟨by decide, Or.inl rfl⟩
        | some d =>
          have hbound := hday d hknown
          refine ⟨?_, hoffset d hknown⟩
          rw [Option.getD_some]
          omega
      refine ⟨⟨hdate, hhour, hminute, hsecond, hmicrosecond, ?_⟩, _, rfl, hd⟩
      intro e he
      obtain rfl := Option.some.inj he
      have hbound := hd.1
      omega
    · cases h
  · cases h

end Iso

end HitListing.Calendar
