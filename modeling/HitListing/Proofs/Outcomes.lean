import HitListing.Fault

/-!
# Steps that may fail

When steps one after another give a result: each of them has to.  And how they
may fail: in the ways that one of them does.
-/

namespace HitListing

/-! ## Results -/

/-- Whether a step gives a result. -/
def Succeeds {α : Type} (r : Except Fault α) : Prop :=
  ∃ a, r = .ok a

theorem succeeds_ok {α : Type} (a : α) : Succeeds (.ok a) :=
  ⟨a, rfl⟩

theorem not_succeeds_error {α : Type} (f : Fault) : ¬Succeeds (.error f : Except Fault α) := by
  intro h
  obtain ⟨a, ha⟩ := h
  cases ha

/-- A step and what follows succeed if the step does and then what follows from its result. -/
theorem succeeds_bind_iff {α β : Type} {r : Except Fault α} {f : α → Except Fault β} :
    Succeeds (r >>= f) ↔ ∃ a, r = .ok a ∧ Succeeds (f a) := by
  cases r with
  | error e =>
    refine iff_of_false (not_succeeds_error e) ?_
    intro h
    obtain ⟨a, ha, _⟩ := h
    cases ha
  | ok a =>
    constructor
    · intro h
      exact ⟨a, rfl, h⟩
    · intro h
      obtain ⟨b, hb, h⟩ := h
      cases hb
      exact h

/-- Steps that give a result together do so one by one. -/
theorem exists_of_bind_eq_ok {ε α β : Type} {r : Except ε α} {f : α → Except ε β} {b : β}
    (h : r >>= f = .ok b) : ∃ a, r = .ok a ∧ f a = .ok b := by
  cases r with
  | error e => cases h
  | ok a => exact ⟨a, rfl, h⟩

/-- If it does not depend on the result whether what follows succeeds, both are apart. -/
theorem succeeds_bind_iff_of_forall {α β : Type} {r : Except Fault α} {f : α → Except Fault β}
    {P : Prop} (h : ∀ a, r = .ok a → (Succeeds (f a) ↔ P)) :
    Succeeds (r >>= f) ↔ Succeeds r ∧ P := by
  rw [succeeds_bind_iff]
  constructor
  · intro h
    obtain ⟨a, ha, hf⟩ := h
    exact ⟨⟨a, ha⟩, (h a ha).mp hf⟩
  · intro h
    obtain ⟨⟨a, ha⟩, hP⟩ := h
    exact ⟨a, ha, (h a ha).mpr hP⟩

/-- What only works on a result cannot fail. -/
theorem succeeds_bind_ok_iff {α β : Type} {r : Except Fault α} {g : α → β} :
    Succeeds (r >>= fun a => .ok (g a)) ↔ Succeeds r := by
  rw [succeeds_bind_iff_of_forall fun a _ => iff_true_intro (succeeds_ok (g a)), and_true]

/-- Of two steps that do not depend on each other both have to succeed. -/
theorem succeeds_both_iff {α β γ : Type} {r : Except Fault α} {s : Except Fault β}
    {g : α → β → γ} :
    Succeeds (r >>= fun a => s >>= fun b => .ok (g a b)) ↔ Succeeds r ∧ Succeeds s :=
  succeeds_bind_iff_of_forall fun _ _ => succeeds_bind_ok_iff

/-- What follows from a step cannot fail if it only works on the result. -/
theorem succeeds_map_iff {α β : Type} {r : Except Fault α} {f : α → β} :
    Succeeds (r.map f) ↔ Succeeds r := by
  cases r with
  | error e => exact iff_of_false (not_succeeds_error e) (not_succeeds_error e)
  | ok a => exact iff_of_true (succeeds_ok _) (succeeds_ok a)

/-- Steps for all items succeed if each does. -/
theorem succeeds_mapM_iff {α β : Type} {f : α → Except Fault β} {items : List α} :
    Succeeds (items.mapM f) ↔ ∀ item ∈ items, Succeeds (f item) := by
  induction items with
  | nil => exact iff_of_true (succeeds_ok []) nofun
  | cons item items ih =>
    rw [List.mapM_cons, List.forall_mem_cons, ← ih]
    exact succeeds_both_iff

/-- Steps for all items that are known give what each of them gives. -/
theorem mapM_eq_map {ε α β : Type} {f : α → Except ε β} {g : α → β} {items : List α}
    (h : ∀ item ∈ items, f item = .ok (g item)) : items.mapM f = .ok (items.map g) := by
  induction items with
  | nil => rfl
  | cons item items ih =>
    obtain ⟨hitem, hrest⟩ := List.forall_mem_cons.mp h
    rw [List.mapM_cons, hitem, ih hrest]
    rfl

/-- Steps that undo what was done to each item give the items back. -/
theorem mapM_map_eq_self {ε α β : Type} {f : β → Except ε α} {g : α → β} (items : List α)
    (h : ∀ item, f (g item) = .ok item) : (items.map g).mapM f = .ok items := by
  rw [List.mapM_map]
  exact (mapM_eq_map fun item _ => h item).trans (congrArg _ (List.map_id items))

/-- Each result of steps for all items is that of one of them. -/
theorem exists_of_mem_mapM {ε α β : Type} {f : α → Except ε β} {items : List α}
    {found : List β} (h : items.mapM f = .ok found) {b : β} (hb : b ∈ found) :
    ∃ item ∈ items, f item = .ok b := by
  induction items generalizing found with
  | nil =>
    cases h
    cases hb
  | cons item items ih =>
    rw [List.mapM_cons] at h
    obtain ⟨first, hfirst, h⟩ := exists_of_bind_eq_ok h
    obtain ⟨rest, hrest, h⟩ := exists_of_bind_eq_ok h
    cases h
    rcases List.mem_cons.mp hb with rfl | hb
    · exact ⟨item, List.mem_cons_self, hfirst⟩
    · obtain ⟨other, hother, heq⟩ := ih hrest hb
      exact ⟨other, List.mem_cons_of_mem item hother, heq⟩

/-- A test that never fails picks what it holds of. -/
theorem filterM_eq_filter {α : Type} {p : α → Except Fault Bool} {q : α → Bool} {items : List α}
    (h : ∀ a ∈ items, p a = .ok (q a)) : items.filterM p = .ok (items.filter q) := by
  have haux : ∀ (rest acc : List α), (∀ a ∈ rest, p a = .ok (q a)) →
      List.filterAuxM p rest acc = .ok ((rest.filter q).reverse ++ acc) := by
    intro rest
    induction rest with
    | nil =>
      intro acc _
      rfl
    | cons a rest ih =>
      intro acc hrest
      have hnext := ih (cond (q a) (a :: acc) acc) fun b hb => hrest b (List.mem_cons_of_mem _ hb)
      rw [List.filterAuxM, hrest a List.mem_cons_self]
      show List.filterAuxM p rest (cond (q a) (a :: acc) acc) = _
      rw [hnext]
      cases hq : q a with
      | false => rw [List.filter_cons_of_neg (by simp [hq])]; rfl
      | true => rw [List.filter_cons_of_pos hq, List.reverse_cons, List.append_assoc]; rfl
  rw [List.filterM, haux items [] h]
  show Except.ok _ = _
  rw [List.append_nil, List.reverse_reverse]

/-- What a test that can fail has picked is what it says yes to. -/
theorem mem_of_filterM {α : Type} {p : α → Except Fault Bool} {items found : List α}
    (h : items.filterM p = .ok found) {a : α} : a ∈ found ↔ a ∈ items ∧ p a = .ok true := by
  have haux : ∀ (rest acc found : List α), List.filterAuxM p rest acc = .ok found →
      ∀ a ∈ rest, Succeeds (p a) := by
    intro rest
    induction rest with
    | nil => exact fun _ _ _ => nofun
    | cons a rest ih =>
      intro acc found h
      rw [List.filterAuxM] at h
      obtain ⟨answer, hanswer, h⟩ := exists_of_bind_eq_ok h
      exact List.forall_mem_cons.mpr ⟨⟨answer, hanswer⟩, ih _ found h⟩
  have hsucceeds : ∀ a ∈ items, Succeeds (p a) := by
    rw [List.filterM] at h
    obtain ⟨picked, hpicked, _⟩ := exists_of_bind_eq_ok h
    exact haux items [] picked hpicked
  have hanswers : ∀ a ∈ items, p a = .ok ((p a).toOption.getD false) := by
    intro a ha
    obtain ⟨answer, hanswer⟩ := hsucceeds a ha
    rw [hanswer]
    rfl
  rw [filterM_eq_filter hanswers] at h
  rw [← Except.ok.inj h, List.mem_filter]
  refine and_congr_right fun ha => ?_
  obtain ⟨answer, hanswer⟩ := hsucceeds a ha
  rw [hanswer, Except.ok.injEq]
  rfl

/-! ## Faults -/

/-- Whether a step fails, if at all, with a fault of some kind. -/
def FailsOnlyWith {α : Type} (P : Fault → Prop) (r : Except Fault α) : Prop :=
  ∀ f, r = .error f → P f

section Faults

variable {α β : Type} {P : Fault → Prop}

theorem failsOnlyWith_ok (a : α) : FailsOnlyWith P (.ok a) := by
  intro f h
  cases h

theorem failsOnlyWith_error {f : Fault} (h : P f) :
    FailsOnlyWith P (.error f : Except Fault α) := by
  intro g hg
  cases hg
  exact h

theorem FailsOnlyWith.bind {r : Except Fault α} {f : α → Except Fault β} (h : FailsOnlyWith P r)
    (hf : ∀ a, r = .ok a → FailsOnlyWith P (f a)) : FailsOnlyWith P (r >>= f) := by
  cases r with
  | error e => exact failsOnlyWith_error (h e rfl)
  | ok a => exact hf a rfl

theorem FailsOnlyWith.map {r : Except Fault α} {f : α → β} (h : FailsOnlyWith P r) :
    FailsOnlyWith P (r.map f) := by
  cases r with
  | error e => exact failsOnlyWith_error (h e rfl)
  | ok a => exact failsOnlyWith_ok (f a)

end Faults

end HitListing
