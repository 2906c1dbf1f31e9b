import HitListing.Proofs.JsonText
import HitListing.Store

/-!
# Documents that cannot be read

A document that cannot be read is reported as a fault of the index, unless its id
is a number that the index cannot be asked for, or the report would have to name
an id that has no text (`Store.get_error_iff`).  An index that has lost its table
before it was asked for any document does not come to look at the id.
-/

namespace HitListing

/-- Whether a fault says of an id that the index is not in order. -/
def Fault.IsCorruption (f : Fault) (id : DocumentId) : Prop :=
  f = .documentMissing id.plain ∨ ∃ problem, f = .documentUnreadable id.plain problem

/-- Whether an id is a whole number that 64 bits do not hold. -/
def DocumentId.IsTooWide (id : DocumentId) : Prop :=
  ∃ n, id = .int n ∧ isStorable n = false

theorem DocumentId.integer?_error {id : DocumentId} {f : Fault}
    (h : DocumentId.integer? id = .error f) :
    (∃ kind, f = .unknownIdKind kind) ∧ ¬DocumentId.IsTooWide id ∨
      f = .outOfRange ∧ DocumentId.IsTooWide id := by
  cases id with
  | int n =>
    cases hn : isStorable n with
    | true =>
      simp [DocumentId.integer?, hn] at h
    | false =>
      right
      have hf : Except.error Fault.outOfRange = (Except.error f : Except Fault (Option Int)) := by
        rw [← h, DocumentId.integer?, hn]
        rfl
      exact ⟨(Except.error.inj hf).symm, n, rfl, hn⟩
  | arr items =>
    cases h
    exact Or.inl ⟨⟨_, rfl⟩, nofun⟩
  | obj fields =>
    cases h
    exact Or.inl ⟨⟨_, rfl⟩, nofun⟩
  | _ => cases h

/-- An id that 64 bits hold has a text. -/
theorem DocumentId.numeralsFit_int {n : Int} (h : isStorable n = true) :
    (Json.int n).numeralsFit = true := by
  rw [isStorable, Bool.and_eq_true, decide_eq_true_eq, decide_eq_true_eq, idBound] at h
  have hdigits : 10 ^ 19 ≤ 10 ^ maxDigits := Nat.pow_le_pow_right (by decide) (by decide)
  rw [Json.numeralsFit_int_iff]
  omega

/-- A fault that is to name an id says that the index is not in order, if the id has a text. -/
theorem Fault.isCorruption_of_report {id : DocumentId} {report : Text → Fault} {f : Fault}
    (hreport : ∀ t, report t = .documentMissing t ∨
      ∃ problem, report t = .documentUnreadable t problem)
    (h : (id.shown >>= fun t => (.error (report t) : Except Fault Hit)) = .error f) :
    f.IsCorruption id ↔ id.numeralsFit = true := by
  cases hfits : id.numeralsFit with
  | false =>
    rw [Json.shown_of_not_fits hfits] at h
    cases h
    exact iff_of_false (by simp [IsCorruption]) nofun
  | true =>
    rw [Json.shown_of_fits hfits] at h
    cases h
    exact iff_of_true (hreport id.plain) rfl

/-- What the index says to an id if there is no answer for it. -/
theorem Store.ask_error_iff {id : DocumentId} {answer : Option Int → Except Fault Hit} {f : Fault}
    (hanswer : ∀ n, answer n = .error f → (f.IsCorruption id ↔ id.numeralsFit = true))
    (h : Store.ask id answer = .error f) :
    f.IsCorruption id ↔ id.numeralsFit = true ∧ ¬DocumentId.IsTooWide id := by
  unfold Store.ask at h
  cases hid : DocumentId.integer? id with
  | error g =>
    simp only [hid] at h
    rcases DocumentId.integer?_error hid with ⟨⟨kind, rfl⟩, hnarrow⟩ | ⟨rfl, hwide⟩
    · rw [and_iff_left hnarrow]
      exact Fault.isCorruption_of_report (fun t => Or.inr ⟨_, rfl⟩) h
    · cases h
      exact iff_of_false (by simp [Fault.IsCorruption]) fun hfits => hfits.2 hwide
  | ok n =>
    have hnarrow : ¬DocumentId.IsTooWide id := by
      intro hwide
      obtain ⟨n, rfl, hn⟩ := hwide
      simp [DocumentId.integer?, hn] at hid
    simp only [hid] at h
    rw [and_iff_left hnarrow]
    exact hanswer n h

/-- A document that cannot be read is a fault of the index, unless its id has no text, or is too
wide to be asked for and the index comes to look at it. -/
theorem Store.get_error_iff {s : Store} {id : DocumentId} {f : Fault} (h : s.get id = .error f) :
    f.IsCorruption id ↔
      id.numeralsFit = true ∧ ¬(s ≠ .dropped false ∧ DocumentId.IsTooWide id) := by
  match s with
  | .dropped false =>
    rw [and_iff_left (fun hasked => hasked.1 rfl)]
    exact Fault.isCorruption_of_report (fun t => Or.inr ⟨_, rfl⟩) h
  | .dropped true =>
    rw [and_iff_right (nofun : Store.dropped true ≠ .dropped false)]
    exact ask_error_iff (fun n => Fault.isCorruption_of_report fun t => Or.inr ⟨_, rfl⟩) h
  | .ready rows =>
    rw [and_iff_right (nofun : Store.ready rows ≠ .dropped false)]
    refine ask_error_iff (fun n hn => ?_) h
    cases hrow : n.bind fun n => rows.find? (·.id = n) with
    | some row =>
      rw [hrow] at hn
      cases hn
    | none =>
      rw [hrow] at hn
      exact Fault.isCorruption_of_report (fun t => Or.inl rfl) hn

end HitListing
