import HitListing.Draft

/-!
# Steps of a draft

What steps one after another write, and how they end.  A step that gives a
result is followed by what comes next (`Draft.bind_of_ok`); after one that fails
nothing is written any more (`Draft.bind_of_error`).
-/

namespace HitListing.Draft

variable {α β γ : Type}

/-! ## Single steps -/

@[simp] theorem text_write (t : Text) : (write t).text = t := rfl

@[simp] theorem text_ofExcept (r : Except Fault α) : (ofExcept r).text = [] := rfl

@[simp] theorem ofExcept_ok (a : α) : ofExcept (.ok a) = pure a := rfl

/-! ## One step after another -/

section Bind

variable {d : Draft α} {f : α → Draft β}

theorem bind_of_ok {a : α} (h : d.result = .ok a) :
    d >>= f = ⟨d.text ++ (f a).text, d.log ++ (f a).log, (f a).result⟩ := by
  show d.andThen f = _
  rw [andThen, h]

theorem bind_of_error {e : Fault} (h : d.result = .error e) :
    d >>= f = ⟨d.text, d.log, .error e⟩ := by
  show d.andThen f = _
  rw [andThen, h]

theorem text_bind_of_ok {a : α} (h : d.result = .ok a) :
    (d >>= f).text = d.text ++ (f a).text := by
  rw [bind_of_ok h]

theorem result_bind_of_ok {a : α} (h : d.result = .ok a) :
    (d >>= f).result = (f a).result := by
  rw [bind_of_ok h]

theorem text_bind_of_error {e : Fault} (h : d.result = .error e) : (d >>= f).text = d.text := by
  rw [bind_of_error h]

theorem result_bind_of_error {e : Fault} (h : d.result = .error e) :
    (d >>= f).result = .error e := by
  rw [bind_of_error h]

/-- Steps that give a result together do so one by one. -/
theorem exists_of_result_bind {b : β} (h : (d >>= f).result = .ok b) :
    ∃ a, d.result = .ok a ∧ (f a).result = .ok b ∧ (d >>= f).text = d.text ++ (f a).text := by
  cases hd : d.result with
  | error e =>
    rw [result_bind_of_error hd] at h
    cases h
  | ok a =>
    rw [result_bind_of_ok hd] at h
    exact ⟨a, rfl, h, text_bind_of_ok hd⟩

/-- What follows a step is written behind it, and more may come behind that. -/
theorem exists_text_bind {a : α} {t : Text} (h : d.result = .ok a)
    (ht : ∃ rest, (f a).text = t ++ rest) : ∃ rest, (d >>= f).text = d.text ++ t ++ rest := by
  obtain ⟨rest, hrest⟩ := ht
  exact ⟨rest, by rw [text_bind_of_ok h, hrest, List.append_assoc]⟩

end Bind

/-! ## Steps that write the same -/

/-- Whether two steps write the same and end in the same way. -/
def Agrees (d e : Draft α) : Prop :=
  d.text = e.text ∧ d.result = e.result

theorem Agrees.refl (d : Draft α) : d.Agrees d :=
  ⟨rfl, rfl⟩

theorem Agrees.bind {d e : Draft α} {f g : α → Draft β} (h : d.Agrees e)
    (hf : ∀ a, e.result = .ok a → (f a).Agrees (g a)) : (d >>= f).Agrees (e >>= g) := by
  obtain ⟨htext, hresult⟩ := h
  cases he : e.result with
  | error fault =>
    rw [he] at hresult
    rw [bind_of_error hresult, bind_of_error he, htext]
    exact ⟨rfl, rfl⟩
  | ok a =>
    rw [he] at hresult
    obtain ⟨hnext, hend⟩ := hf a he
    rw [bind_of_ok hresult, bind_of_ok he, htext, hnext, hend]
    exact ⟨rfl, rfl⟩

instance : LawfulMonad Draft := LawfulMonad.mk' Draft
  (by
    intro α d
    obtain ⟨text, log, result⟩ := d
    cases result with
    | ok a =>
      show (⟨text ++ [], log ++ [], .ok a⟩ : Draft α) = _
      rw [List.append_nil, List.append_nil]
    | error e => rfl)
  (by
    intro α β a f
    rfl)
  (by
    intro α β γ d f g
    cases hd : d.result with
    | error e => rw [bind_of_error hd, bind_of_error hd, bind_of_error rfl]
    | ok a =>
      rw [bind_of_ok hd, bind_of_ok hd]
      cases hf : (f a).result with
      | error e => rw [bind_of_error rfl, bind_of_error hf]
      | ok b => rw [bind_of_ok rfl, bind_of_ok hf, List.append_assoc, List.append_assoc])

end HitListing.Draft
