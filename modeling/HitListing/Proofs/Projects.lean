import HitListing.Project
import HitListing.Proofs.MomentText
import Mathlib.Logic.Basic

/-!
# Projects that always answer

Among projects whose paths are texts every path can be looked up
(`Registry.exists_projectFor`).  The moments of loaded messages are such as
reading gives (`Registry.isReadable_of_load`), of clocks of known offset, so that
it can always be said which of the messages are pending
(`Project.succeeds_messagesJson`).
-/

namespace HitListing

/-! ## Messages -/

namespace Message

/-- Whether the moments of a message are such as reading gives. -/
structure IsReadable (m : Message) : Prop where
  created : ∀ e ∈ m.created, e.IsReadable
  expiration : ∀ e ∈ m.expiration, e.IsReadable

theorem isReadable_of_readMoment {value : Json} {moment : Option Calendar.Moment}
    (h : readMoment value = .ok moment) : ∀ e ∈ moment, e.IsReadable := by
  intro e he
  obtain rfl := he
  cases value with
  | str t =>
    rw [readMoment] at h
    cases hread : Calendar.Iso.readUniversal t with
    | error f =>
      rw [hread] at h
      cases h
    | ok m =>
      rw [hread] at h
      cases h
      exact Calendar.Iso.isReadable_of_readUniversal hread
  | _ => cases h

theorem isReadable_of_ofJson {entry : Json} {m : Message} (h : ofJson entry = .ok m) :
    m.IsReadable := by
  cases entry with
  | obj fields =>
    obtain ⟨text, -, h⟩ := exists_of_bind_eq_ok h
    obtain ⟨tags, -, h⟩ := exists_of_bind_eq_ok h
    split at h
    · obtain ⟨created, hcreated, h⟩ := exists_of_bind_eq_ok h
      obtain ⟨expiration, hexpiration, h⟩ := exists_of_bind_eq_ok h
      cases h
      exact ⟨isReadable_of_readMoment hcreated, isReadable_of_readMoment hexpiration⟩
    · cases h
  | _ => cases h

end Message

namespace Project

theorem isReadable_of_ofJson {entry : Json} {p : Project} (h : ofJson entry = .ok p) :
    ∀ m ∈ p.messages, m.IsReadable := by
  obtain ⟨fields, -, h⟩ := exists_of_bind_eq_ok h
  obtain ⟨entries, -, h⟩ := exists_of_bind_eq_ok h
  obtain ⟨messages, hmessages, h⟩ := exists_of_bind_eq_ok h
  obtain ⟨name, -, h⟩ := exists_of_bind_eq_ok h
  obtain ⟨tabSize, -, h⟩ := exists_of_bind_eq_ok h
  cases h
  intro m hm
  obtain ⟨entry, -, hentry⟩ := exists_of_mem_mapM hmessages hm
  exact Message.isReadable_of_ofJson hentry

/-- Whether the messages of a project expire by clocks of known offset. -/
def IsTimed (p : Project) : Prop :=
  ∀ m ∈ p.messages, ∀ e ∈ m.expiration, e.offset.isSome

theorem isTimed_of_isReadable {p : Project} (h : ∀ m ∈ p.messages, m.IsReadable) : p.IsTimed :=
  fun m hm e he => ((h m hm).expiration e he).isSome_offset

/-- Whether a message is pending, where its clock is known. -/
def isPending (tag : Text) (now : Calendar.Moment) (m : Message) : Bool :=
  m.hasTag tag && !(m.expiration.any fun e => e.instant ≤ now.instant)

/-- Of messages with known clocks it can be said which are pending. -/
theorem pending_eq_filter {p : Project} {now : Calendar.Moment} (h : p.IsTimed)
    (hnow : now.offset.isSome) (tag : Text) :
    p.pending tag now = .ok (p.messages.filter (isPending tag now)) := by
  apply filterM_eq_filter
  intro m hm
  unfold isPending
  cases htag : m.hasTag tag with
  | false => rfl
  | true =>
    rw [if_pos rfl, Message.isExpired, Bool.true_and]
    cases hexpiration : m.expiration with
    | none => rfl
    | some e =>
      have he : e.offset.isSome := h m hm e hexpiration
      simp [Calendar.Moment.le, he, hnow, pure, Except.pure, bind, Except.bind]

theorem succeeds_messagesJson {p : Project} {now : Calendar.Moment} (h : p.IsTimed)
    (hnow : now.offset.isSome) (tag : Text) : Succeeds (p.messagesJson tag now) := by
  unfold messagesJson
  rw [pending_eq_filter h hnow]
  exact succeeds_ok _

end Project

/-! ## Registries -/

namespace Registry

theorem isReadable_of_load {rows : Json} {registry : Registry} (h : load rows = .ok registry) :
    ∀ project ∈ registry.projects, ∀ m ∈ project.messages, m.IsReadable := by
  obtain ⟨entries, -, h⟩ := exists_of_bind_eq_ok h
  obtain ⟨projects, hprojects, h⟩ := exists_of_bind_eq_ok h
  cases h
  intro project hproject
  obtain ⟨entry, -, hentry⟩ := exists_of_mem_mapM hprojects hproject
  exact Project.isReadable_of_ofJson hentry

theorem isTimed_of_load {rows : Json} {registry : Registry} (h : load rows = .ok registry) :
    ∀ project ∈ registry.projects, project.IsTimed :=
  fun project hproject => Project.isTimed_of_isReadable (isReadable_of_load h project hproject)

/-- A search gives one of the projects gone through, or the best one so far. -/
theorem exists_search {projects : List Project}
    (h : ∀ project ∈ projects, ∃ t, project.path = .str t) (path : Text)
    (best : Option (Project × Nat)) :
    ∃ found, search path best projects = .ok found ∧
      ∀ project ∈ found, project ∈ best.map (·.1) ∨ project ∈ projects := by
  induction projects generalizing best with
  | nil => exact ⟨best.map (·.1), rfl, fun project hproject => Or.inl hproject⟩
  | cons first projects ih =>
    obtain ⟨⟨t, ht⟩, hrest⟩ := List.forall_mem_cons.mp h
    have hroot : first.root = .ok (Project.trimSlashes t) := by
      unfold Project.root
      rw [ht]
    have hstep : search path best (first :: projects) =
          search path (some (first, (Project.trimSlashes t).length)) projects ∨
        search path best (first :: projects) = search path best projects := by
      rw [search, hroot]
      exact ite_eq_or_eq _ _ _
    rcases hstep with hstep | hstep
    · rw [hstep]
      obtain ⟨found, hfound, hmem⟩ := ih hrest (some (first, (Project.trimSlashes t).length))
      refine ⟨found, hfound, ?_⟩
      intro project hproject
      rcases hmem project hproject with hbest | hin
      · obtain rfl := Option.some.inj hbest
        exact Or.inr List.mem_cons_self
      · exact Or.inr (List.mem_cons_of_mem first hin)
    · rw [hstep]
      obtain ⟨found, hfound, hmem⟩ := ih hrest best
      refine ⟨found, hfound, ?_⟩
      intro project hproject
      rcases hmem project hproject with hbest | hin
      · exact Or.inl hbest
      · exact Or.inr (List.mem_cons_of_mem first hin)

theorem exists_projectFor {r : Registry}
    (h : ∀ project ∈ r.projects, ∃ t, project.path = .str t) (path : Text) :
    ∃ found, r.projectFor path = .ok found ∧ ∀ project ∈ found, project ∈ r.projects := by
  obtain ⟨found, hfound, hmem⟩ := exists_search h (Project.trimSlashes path) none
  refine ⟨found, hfound, ?_⟩
  intro project hproject
  rcases hmem project hproject with hbest | hin
  · cases hbest
  · exact hin

end Registry

end HitListing
