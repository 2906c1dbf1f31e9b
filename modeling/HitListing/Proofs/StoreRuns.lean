import HitListing.Proofs.DocumentReading
import HitListing.Proofs.FilledStore
import Mathlib.Data.List.Infix

/-!
# Whole runs of a store

Work on a store comes down to events: documents are written or added, and blocks
are left as they end (`Work.trace`).  A ledger says which documents are kept, and
which are written and not kept yet, and work leaves the connection that its
ledger says (`Work.runOn_session`).

A store whose documents have different ids is read as these documents
(`Store.holds_ready`).  That makes the store at any moment of a run a faithful
record of it (`Connection.run_new_faithful`).  A block that fails leaves no trace
if it only writes.  What is added in it stays, and so does what an exit leaves
behind (`Connection.not_undone`).
-/

namespace HitListing

/-! ## Fields that are stored -/

theorem Genre.ofCode_code (g : Genre) : ofCode (some g.code) = g := by
  cases g <;> rfl

/-- The hit that the fields of a document are read as. -/
def DocumentFields.toHit (d : DocumentFields) (id : Int) : Hit :=
  ⟨id, d.path, d.genre, d.date, d.tags, d.scopes, d.positions⟩

theorem DocumentFields.toHit_toRow (d : DocumentFields) (id : Int) :
    (d.toNew.toRow id).toHit = d.toHit id := by
  have hgenre : Genre.ofCode d.toNew.genre = d.genre := Genre.ofCode_code d.genre
  rw [Row.toHit, DocumentFields.toHit, ← hgenre]
  rfl

/-! ## Reading a store -/

/-- Whether a store is read as some documents: each is found under its id and nothing under other
ids, the list has them all by path and id, and the counts are theirs. -/
structure Store.Holds (s : Store) (live : List Row) : Prop where
  get_live : ∀ row ∈ live, s.get (.int row.id) = .ok row.toHit
  get_other : ∀ n, isStorable n = true → (∀ row ∈ live, row.id ≠ n) →
    ∃ f, s.get (.int n) = .error f ∧ f.IsCorruption (.int n)
  list : ∃ hits, s.list = .ok hits ∧ hits.Perm (live.map (·.toHit)) ∧
    hits.Pairwise fun a b => pathLe a.path b.path = true ∧ (a.path = b.path → a.id < b.id)
  stats : s.stats = .ok ⟨live.length, (live.filter (·.path.isNone)).length⟩

namespace Store

/-- An id that 64 bits hold is looked up among the ids of the rows. -/
theorem get_int {rows : List Row} {n : Int} (hn : isStorable n = true) :
    (Store.ready rows).get (.int n) =
      match rows.find? (·.id = n) with
      | some row => .ok row.toHit
      | none => .error (.documentMissing (Json.int n).plain) := by
  have hid : DocumentId.integer? (.int n) = .ok (some n) := by
    rw [DocumentId.integer?, if_pos hn]
  have hshown : (Json.int n).shown = .ok (Json.int n).plain :=
    Json.shown_of_fits (DocumentId.numeralsFit_int hn)
  rw [get, ask, hid, hshown]
  rfl

/-- A store whose documents have different ids is read as them. -/
theorem holds_ready {rows : List Row} (hids : rows.Pairwise fun a b => a.id ≠ b.id)
    (hstorable : ∀ row ∈ rows, isStorable row.id = true) : (Store.ready rows).Holds rows where
  get_live row hrow := by
    have hfind : rows.find? (·.id = row.id) = some row := by
      obtain ⟨before, after, rfl⟩ := List.append_of_mem hrow
      rw [List.find?_eq_some_iff_append]
      refine ⟨by simp, before, after, rfl, fun other hother => ?_⟩
      have hne := (List.pairwise_append.mp hids).2.2 other hother row List.mem_cons_self
      simpa using hne
    rw [get_int (hstorable row hrow), hfind]
  get_other n hn hother := by
    have hfind : rows.find? (·.id = n) = none := by
      rw [List.find?_eq_none]
      intro row hrow
      simpa using hother row hrow
    exact ⟨_, by rw [get_int hn, hfind], Or.inl rfl⟩
  list := by
    refine ⟨(rows.mergeSort rowLe).map (·.toHit), rfl, (List.mergeSort_perm _ _).map _, ?_⟩
    have hids' : (rows.mergeSort rowLe).Pairwise fun a b => a.id ≠ b.id :=
      (List.mergeSort_perm rows rowLe).symm.pairwise hids fun h => h.symm
    rw [List.pairwise_map]
    refine ((pairwise_mergeSort_rowLe rows).and hids').imp ?_
    intro a b h
    obtain ⟨hpath, hid⟩ := (rowLe_iff a b).mp h.1
    refine ⟨hpath, fun hsame => ?_⟩
    have hle := hid hsame
    have hne := h.2
    show a.id < b.id
    omega
  stats := rfl

end Store

/-! ## Work through a connection -/

namespace Session

variable {α β : Type}

theorem runOn_bind (work : Session α) (next : α → Session β) (c : Connection) :
    (work >>= next).runOn c =
      match work.runOn c with
      | (.ok a, left) => (next a).runOn left
      | (.error e, left) => (.error e, left) := by
  unfold runOn ExceptT.run StateT.run
  simp only [bind, ExceptT.bind, ExceptT.mk, StateT.bind, ExceptT.bindCont]
  cases work c with
  | mk result left => cases result <;> rfl

theorem runOn_tryCatch (work : Session α) (handle : Raised → Session α) (c : Connection) :
    (tryCatch work handle).runOn c =
      match work.runOn c with
      | (.ok a, left) => (.ok a, left)
      | (.error e, left) => (handle e).runOn left := by
  unfold runOn ExceptT.run StateT.run tryCatch
  simp only [instMonadExceptOfMonadExceptOf, tryCatchThe, MonadExceptOf.tryCatch,
    ExceptT.tryCatch, ExceptT.mk, bind, StateT.bind]
  cases work c with
  | mk result left => cases result <;> rfl

/-- A block is left as it ends, and what it has raised is raised again. -/
theorem runOn_transaction (block : Session α) (c : Connection) :
    (transaction block).runOn c =
      match block.runOn c with
      | (.ok a, left) => (.ok a, left.leave none)
      | (.error e, left) => (.error e, left.leave (some e)) := by
  rw [transaction, runOn_tryCatch, runOn_bind]
  cases block.runOn c with
  | mk result left => cases result <;> rfl

/-- A document is written to the working copy. -/
theorem runOn_write (add : Store → Except Fault (Int × Store)) (c : Connection) :
    (write add).runOn c =
      match add c.working with
      | .ok (id, s) => (.ok id, ⟨c.committed, s⟩)
      | .error f => (.error (.fault f), c) := by
  have hget : (get : Session Connection).runOn c = (.ok c, c) := rfl
  rw [write, runOn_bind, hget]
  simp only
  cases add c.working with
  | error f => rfl
  | ok added => rfl

end Session

/-! ## What happens to a store -/

/-- What happens to a store in the course of work. -/
inductive Event where
  /-- A document is written. -/
  | insert (drawn : Int) (d : NewDocument)
  /-- A document is written under a given id. -/
  | insertAs (id : Int) (d : NewDocument)
  /-- A document is added. -/
  | add (drawn : Int) (d : DocumentFields)
  /-- A block is left, as it has ended. -/
  | leave (raised : Option Raised)
deriving DecidableEq

/-- The connection after an event. -/
def Event.act : Event → Connection → Connection
  | insert drawn d, c => ((Session.insert drawn d).runOn c).2
  | insertAs id d, c => ((Session.insertAs id d).runOn c).2
  | add drawn d, c => ((Session.addDocument drawn d).runOn c).2
  | leave raised, c => c.leave raised

/-- The connection after events. -/
def Connection.after (c : Connection) (events : List Event) : Connection :=
  events.foldl (fun c e => e.act c) c

/-- Whether all that is written so far is kept after an event. -/
def Event.keeps : Event → Bool
  | add _ _ => true
  | leave none => true
  | _ => false

/-- A document is written if there is an id for it. -/
theorem Store.addDrawing_ready (rows : List Row) (drawn : Int) (d : NewDocument) :
    (Store.ready rows).addDrawing drawn d =
      match newId? rows drawn with
      | some id => .ok (id, .ready (rows ++ [d.toRow id]))
      | none => .error .indexFull := by
  show (match newId? rows drawn with
    | some id => Except.ok (id, Store.ready (rows ++ [d.toRow id]))
    | none => Except.error Fault.indexFull) = _
  cases newId? rows drawn <;> rfl

/-- Why no document can be written under an id, if that is so. -/
def Store.refusal? (rows : List Row) (id : Int) : Option Fault :=
  if !isStorable id then some .outOfRange
  else if rows.any (·.id = id) then some .duplicateId
  else none

/-- A document is written under a given id unless there is a reason against it. -/
theorem Store.addAs_ready (rows : List Row) (id : Int) (d : NewDocument) :
    (Store.ready rows).addAs id d =
      match refusal? rows id with
      | none => .ok (id, .ready (rows ++ [d.toRow id]))
      | some f => .error f := by
  unfold refusal?
  change (if !isStorable id then Except.error Fault.outOfRange
    else if rows.any (·.id = id) then Except.error Fault.duplicateId
    else Except.ok (id, Store.ready (rows ++ [d.toRow id]))) = _
  split
  · rfl
  · split
    · rfl
    · rfl

/-- The documents that are kept, and those that are written and not kept yet. -/
structure Ledger where
  kept : List Row
  pending : List Row
deriving DecidableEq

namespace Ledger

/-- The ledger of a new store. -/
def empty : Ledger := ⟨[], []⟩

/-- All documents that are written. -/
def written (l : Ledger) : List Row :=
  l.kept ++ l.pending

/-- The ledger after one more document is written. -/
def write (l : Ledger) (row : Row) : Ledger :=
  ⟨l.kept, l.pending ++ [row]⟩

/-- The ledger after a block is left. -/
def leave (l : Ledger) : Option Raised → Ledger
  | none => ⟨l.written, []⟩
  | some (.fault _) => ⟨l.kept, []⟩
  | some .exit => l

/-- The ledger after an event. -/
def after (l : Ledger) : Event → Ledger
  | .insert drawn d =>
    match Store.newId? l.written drawn with
    | some id => l.write (d.toRow id)
    | none => l
  | .insertAs id d => if (Store.refusal? l.written id).isNone then l.write (d.toRow id) else l
  | .add drawn d =>
    match Store.newId? l.written drawn with
    | some id => (l.write (d.toNew.toRow id)).leave none
    | none => l.leave (some (.fault .indexFull))
  | .leave raised => l.leave raised

/-- The ledger after events. -/
def afterAll (l : Ledger) (events : List Event) : Ledger :=
  events.foldl after l

/-- The connection of a ledger. -/
def connection (l : Ledger) : Connection :=
  ⟨.ready l.kept, .ready l.written⟩

theorem write_connection (l : Ledger) (row : Row) :
    (l.write row).connection = ⟨.ready l.kept, .ready (l.written ++ [row])⟩ := by
  rw [connection, written, write, written, List.append_assoc]

theorem leave_connection (l : Ledger) (raised : Option Raised) :
    (l.leave raised).connection = l.connection.leave raised := by
  match raised with
  | none => simp [connection, Connection.leave, Connection.commit, leave, written]
  | some (.fault f) => simp [connection, Connection.leave, Connection.rollback, leave, written]
  | some .exit => rfl

/-- A document that is written to the store is written in the ledger. -/
theorem runOn_insert (l : Ledger) (drawn : Int) (d : NewDocument) :
    (Session.insert drawn d).runOn l.connection =
      match Store.newId? l.written drawn with
      | some id => (.ok id, (l.after (.insert drawn d)).connection)
      | none => (.error (.fault .indexFull), l.connection) := by
  have hadd : l.connection.working.addDrawing drawn d =
      (Store.ready l.written).addDrawing drawn d := rfl
  rw [Session.insert, Session.runOn_write, hadd, Store.addDrawing_ready, after]
  cases Store.newId? l.written drawn with
  | some id =>
    simp only [write_connection]
    rfl
  | none => rfl

theorem runOn_insertAs (l : Ledger) (id : Int) (d : NewDocument) :
    (Session.insertAs id d).runOn l.connection =
      match Store.refusal? l.written id with
      | none => (.ok id, (l.after (.insertAs id d)).connection)
      | some f => (.error (.fault f), l.connection) := by
  have hadd : l.connection.working.addAs id d = (Store.ready l.written).addAs id d := rfl
  rw [Session.insertAs, Session.runOn_write, hadd, Store.addAs_ready, after]
  cases Store.refusal? l.written id with
  | none =>
    simp only [Option.isNone_none, if_true, write_connection]
    rfl
  | some f => rfl

/-- A document that is added is kept with all that is written, if there is an id for it. -/
theorem runOn_addDocument (l : Ledger) (drawn : Int) (d : DocumentFields) :
    (Session.addDocument drawn d).runOn l.connection =
      match Store.newId? l.written drawn with
      | some id => (.ok id, (l.after (.add drawn d)).connection)
      | none => (.error (.fault .indexFull), (l.after (.add drawn d)).connection) := by
  rw [Session.addDocument, Session.runOn_transaction, runOn_insert, after, after]
  cases Store.newId? l.written drawn with
  | some id => simp only [leave_connection]
  | none => simp only [leave_connection]

/-- What an event does to the connection is what it does to the ledger. -/
theorem act_connection (l : Ledger) (e : Event) : e.act l.connection = (l.after e).connection := by
  cases e with
  | insert drawn d =>
    rw [Event.act, runOn_insert, after]
    cases Store.newId? l.written drawn with
    | some id => rfl
    | none => rfl
  | insertAs id d =>
    rw [Event.act, runOn_insertAs, after]
    cases Store.refusal? l.written id with
    | none => rfl
    | some f => rfl
  | add drawn d =>
    rw [Event.act, runOn_addDocument]
    cases Store.newId? l.written drawn with
    | some id => rfl
    | none => rfl
  | leave raised => rw [Event.act, after, leave_connection]

theorem after_connection (l : Ledger) (events : List Event) :
    l.connection.after events = (l.afterAll events).connection := by
  induction events generalizing l with
  | nil => rfl
  | cons e events ih =>
    rw [Connection.after, List.foldl_cons, act_connection]
    exact ih (l.after e)

theorem afterAll_append (l : Ledger) (before events : List Event) :
    l.afterAll (before ++ events) = (l.afterAll before).afterAll events :=
  List.foldl_append

theorem afterAll_cons (l : Ledger) (e : Event) (events : List Event) :
    l.afterAll (e :: events) = (l.after e).afterAll events := rfl

end Ledger

/-! ## Work as events -/

/-- What happens in the course of work, and what it raises if it stops before its end. -/
structure Trace where
  events : List Event
  raised : Option Raised
deriving DecidableEq

namespace Trace

/-- The outcome of work. -/
def outcome (t : Trace) : Except Raised Unit :=
  match t.raised with
  | none => .ok ()
  | some e => .error e

/-- The events of a block of work with that trace, of which the last one is that it is left. -/
def ofBlock (t : Trace) : List Event :=
  t.events ++ [.leave t.raised]

/-- The trace with events before it. -/
def behind (events : List Event) (t : Trace) : Trace :=
  ⟨events ++ t.events, t.raised⟩

end Trace

namespace Work

/-- What happens in the course of work that is begun with a ledger. -/
def trace : Work → Ledger → Trace
  | done, _ => ⟨[], none⟩
  | stop e, _ => ⟨[], some e⟩
  | insert drawn d rest, l =>
    match Store.newId? l.written drawn with
    | some _ => (rest.trace (l.after (.insert drawn d))).behind [.insert drawn d]
    | none => ⟨[], some (.fault .indexFull)⟩
  | insertAs id d rest, l =>
    match Store.refusal? l.written id with
    | none => (rest.trace (l.after (.insertAs id d))).behind [.insertAs id d]
    | some f => ⟨[], some (.fault f)⟩
  | add drawn d rest, l =>
    match Store.newId? l.written drawn with
    | some _ => (rest.trace (l.after (.add drawn d))).behind [.add drawn d]
    | none => ⟨[.leave (some (.fault .indexFull))], some (.fault .indexFull)⟩
  | block inner rest, l =>
    let t := inner.trace l
    (rest.trace (l.afterAll t.ofBlock)).behind t.ofBlock

/-- Whether work ends as its trace says, with the connection of the ledger after its events. -/
def RunsAs (work : Session Unit) (l : Ledger) (t : Trace) : Prop :=
  work.runOn l.connection = (t.outcome, (l.afterAll t.events).connection)

theorem RunsAs.behind {next : Session Unit} {l : Ledger} {events : List Event} {t : Trace}
    (h : RunsAs next (l.afterAll events) t) {work : Session Unit}
    (hfirst : work.runOn l.connection = next.runOn (l.afterAll events).connection) :
    RunsAs work l (t.behind events) := by
  rw [RunsAs, hfirst, h, Trace.behind, Ledger.afterAll_append]
  rfl

theorem RunsAs.transaction {work : Session Unit} {l : Ledger} {t : Trace} (h : RunsAs work l t) :
    (Session.transaction work).runOn l.connection =
      (t.outcome, (l.afterAll t.ofBlock).connection) := by
  rw [Session.runOn_transaction, h, Trace.ofBlock, Ledger.afterAll_append, Ledger.afterAll_cons,
    Ledger.after, Trace.outcome]
  cases t.raised with
  | none => exact congrArg _ (Ledger.leave_connection _ _).symm
  | some e => exact congrArg _ (Ledger.leave_connection _ _).symm

/-- Work leaves the connection of the ledger after its events, and raises what stops it. -/
theorem runOn_session (w : Work) (l : Ledger) : RunsAs w.session l (w.trace l) := by
  induction w generalizing l with
  | done => rfl
  | stop e => rfl
  | insert drawn d rest ih =>
    have hfirst := Ledger.runOn_insert l drawn d
    rw [trace]
    cases hid : Store.newId? l.written drawn with
    | some id =>
      have hrest : RunsAs rest.session (l.afterAll [.insert drawn d]) _ := ih _
      refine hrest.behind ?_
      rw [session, Session.runOn_bind, hfirst, hid]
      rfl
    | none =>
      rw [RunsAs, session, Session.runOn_bind, hfirst, hid]
      rfl
  | insertAs id d rest ih =>
    have hfirst := Ledger.runOn_insertAs l id d
    rw [trace]
    cases hrefusal : Store.refusal? l.written id with
    | none =>
      have hrest : RunsAs rest.session (l.afterAll [.insertAs id d]) _ := ih _
      refine hrest.behind ?_
      rw [session, Session.runOn_bind, hfirst, hrefusal]
      rfl
    | some f =>
      rw [RunsAs, session, Session.runOn_bind, hfirst, hrefusal]
      rfl
  | add drawn d rest ih =>
    have hfirst := Ledger.runOn_addDocument l drawn d
    rw [trace]
    cases hid : Store.newId? l.written drawn with
    | some id =>
      have hrest : RunsAs rest.session (l.afterAll [.add drawn d]) _ := ih _
      refine hrest.behind ?_
      rw [session, Session.runOn_bind, hfirst, hid]
      rfl
    | none =>
      rw [RunsAs, session, Session.runOn_bind, hfirst, hid, Ledger.after, hid]
      rfl
  | block inner rest ihInner ihRest =>
    refine (ihRest _).behind ?_
    rw [session, Session.runOn_bind, Session.runOn_tryCatch, (ihInner l).transaction,
      Trace.outcome]
    cases (inner.trace l).raised with
    | none => rfl
    | some e => rfl

end Work

/-! ## What a ledger says -/

namespace Ledger

/-- Whether the documents of a ledger have different ids, all of them such that 64 bits hold. -/
structure IsSound (l : Ledger) : Prop where
  distinct : l.written.Pairwise fun a b => a.id ≠ b.id
  storable : ∀ row ∈ l.written, isStorable row.id = true

theorem isSound_empty : empty.IsSound :=
  ⟨List.Pairwise.nil, nofun⟩

theorem written_write (l : Ledger) (row : Row) : (l.write row).written = l.written ++ [row] :=
  (List.append_assoc _ _ _).symm

/-- A document under a new id can be written. -/
theorem IsSound.write {l : Ledger} (h : l.IsSound) {row : Row}
    (hnew : (∀ other ∈ l.written, other.id ≠ row.id) ∧ isStorable row.id = true) :
    (l.write row).IsSound := by
  constructor
  · rw [written_write, List.pairwise_append]
    refine ⟨h.distinct, List.pairwise_singleton _ _, fun other hother new hnew' => ?_⟩
    rw [List.mem_singleton.mp hnew']
    exact hnew.1 other hother
  · rw [written_write, List.forall_mem_append, List.forall_mem_singleton]
    exact ⟨h.storable, hnew.2⟩

theorem IsSound.leave {l : Ledger} (h : l.IsSound) (raised : Option Raised) :
    (l.leave raised).IsSound := by
  match raised with
  | none =>
    have hwritten : (l.leave none).written = l.written := List.append_nil _
    exact ⟨hwritten ▸ h.distinct, hwritten ▸ h.storable⟩
  | some (.fault f) =>
    have hwritten : (l.leave (some (.fault f))).written = l.kept := List.append_nil _
    have hsub : l.kept.Sublist l.written := List.sublist_append_left _ _
    rw [← hwritten] at hsub
    exact ⟨h.distinct.sublist hsub, fun row hrow => h.storable row (hsub.subset hrow)⟩
  | some .exit => exact h

/-- The id that a document gets is a new one. -/
theorem IsSound.of_newId? {l : Ledger} (h : l.IsSound) {drawn id : Int}
    (hid : Store.newId? l.written drawn = some id) :
    (∀ row ∈ l.written, row.id ≠ id) ∧ isStorable id = true := by
  unfold Store.newId? at hid
  split at hid
  · rename_i hnext
    cases hid
    refine ⟨fun row hrow => Int.ne_of_lt (Store.lt_nextId hrow), ?_⟩
    rw [isStorable, Bool.and_eq_true, decide_eq_true_eq, decide_eq_true_eq]
    refine ⟨?_, hnext⟩
    by_cases hnone : l.written = []
    · rw [hnone]
      decide
    · obtain ⟨row, hrow, hrowNext⟩ := Store.exists_nextId_eq hnone
      have hlow := h.storable row hrow
      rw [isStorable, Bool.and_eq_true, decide_eq_true_eq] at hlow
      omega
  · split at hid
    · rename_i hdrawn
      cases hid
      rw [Bool.and_eq_true, List.all_eq_true] at hdrawn
      exact ⟨fun row hrow => of_decide_eq_true (hdrawn.2 row hrow), hdrawn.1⟩
    · cases hid

/-- There is no id for a document only if the greatest is taken, and what is drawn too. -/
theorem IsSound.of_newId?_eq_none {l : Ledger} (h : l.IsSound) {drawn : Int}
    (hid : Store.newId? l.written drawn = none) :
    (∃ row ∈ l.written, row.id = idBound - 1) ∧
      (isStorable drawn = true → ∃ row ∈ l.written, row.id = drawn) := by
  unfold Store.newId? at hid
  split at hid
  · cases hid
  · rename_i hnext
    split at hid
    · cases hid
    · rename_i hdrawn
      constructor
      · have hsome : l.written ≠ [] := by
          intro hnone
          rw [hnone] at hnext
          exact hnext (by decide)
        obtain ⟨row, hrow, hrowNext⟩ := Store.exists_nextId_eq hsome
        have hhigh := h.storable row hrow
        rw [isStorable, Bool.and_eq_true, decide_eq_true_eq, decide_eq_true_eq] at hhigh
        exact ⟨row, hrow, by omega⟩
      · intro hstorable
        simpa [hstorable] using hdrawn

/-- An id against which there is no reason is a new one. -/
theorem IsSound.of_refusal? {l : Ledger} {id : Int}
    (hfree : Store.refusal? l.written id = none) :
    (∀ row ∈ l.written, row.id ≠ id) ∧ isStorable id = true := by
  unfold Store.refusal? at hfree
  split at hfree
  · cases hfree
  · rename_i hstorable
    split at hfree
    · cases hfree
    · rename_i htaken
      constructor
      · intro row hrow hid
        exact htaken (List.any_eq_true.mpr ⟨row, hrow, decide_eq_true hid⟩)
      · simpa using hstorable

/-- Whatever happens, the ids stay different. -/
theorem IsSound.after {l : Ledger} (h : l.IsSound) (e : Event) : (l.after e).IsSound := by
  cases e with
  | insert drawn d =>
    rw [Ledger.after]
    cases hid : Store.newId? l.written drawn with
    | some id => exact h.write (h.of_newId? hid)
    | none => exact h
  | insertAs id d =>
    rw [Ledger.after]
    cases hrefusal : Store.refusal? l.written id with
    | none => exact h.write (of_refusal? hrefusal)
    | some f => exact h
  | add drawn d =>
    rw [Ledger.after]
    cases hid : Store.newId? l.written drawn with
    | some id => exact (h.write (h.of_newId? hid)).leave none
    | none => exact h.leave _
  | leave raised => exact h.leave raised

theorem IsSound.afterAll {l : Ledger} (h : l.IsSound) (events : List Event) :
    (l.afterAll events).IsSound := by
  induction events generalizing l with
  | nil => exact h
  | cons e events ih => exact ih (h.after e)

/-- What is kept stays. -/
theorem kept_after (l : Ledger) (e : Event) : l.kept <+: (l.after e).kept := by
  have hleave (l : Ledger) (raised : Option Raised) : l.kept <+: (l.leave raised).kept := by
    match raised with
    | none => exact List.prefix_append _ _
    | some (.fault f) => exact List.prefix_refl _
    | some .exit => exact List.prefix_refl _
  cases e with
  | insert drawn d =>
    rw [after]
    cases Store.newId? l.written drawn <;> exact List.prefix_refl _
  | insertAs id d =>
    rw [after]
    split <;> exact List.prefix_refl _
  | add drawn d =>
    rw [after]
    cases Store.newId? l.written drawn with
    | some id => exact hleave (l.write _) none
    | none => exact hleave l _
  | leave raised => exact hleave l raised

theorem kept_afterAll (l : Ledger) (events : List Event) :
    l.kept <+: (l.afterAll events).kept := by
  induction events generalizing l with
  | nil => exact List.prefix_refl _
  | cons e events ih => exact (l.kept_after e).trans (ih (l.after e))

/-- A document that has been added is there ever after. -/
theorem mem_written_of_add {l : Ledger} {drawn id : Int}
    (hid : Store.newId? l.written drawn = some id) (d : DocumentFields) (later : List Event) :
    d.toNew.toRow id ∈ ((l.after (.add drawn d)).afterAll later).written := by
  have hadded : d.toNew.toRow id ∈ (l.after (.add drawn d)).kept := by
    rw [after, hid]
    show _ ∈ (l.write (d.toNew.toRow id)).written
    rw [written_write]
    exact List.mem_append_right _ List.mem_cons_self
  exact List.mem_append_left _ ((kept_afterAll _ later).subset hadded)

/-- Events that keep nothing change nothing that is kept. -/
theorem kept_afterAll_of_keeps_eq_false {events : List Event} (h : ∀ e ∈ events, e.keeps = false)
    (l : Ledger) : (l.afterAll events).kept = l.kept := by
  induction events generalizing l with
  | nil => rfl
  | cons e events ih =>
    obtain ⟨he, hrest⟩ := List.forall_mem_cons.mp h
    have hkept : (l.after e).kept = l.kept := by
      match e with
      | .insert drawn d =>
        rw [after]
        cases Store.newId? l.written drawn <;> rfl
      | .insertAs id d =>
        rw [after]
        split <;> rfl
      | .add drawn d => cases he
      | .leave none => cases he
      | .leave (some (.fault f)) => rfl
      | .leave (some .exit) => rfl
    exact (ih hrest (l.after e)).trans hkept

/-- A block that fails and keeps nothing leaves what was there before it, if that was kept. -/
theorem afterAll_ofBlock_of_fault {l : Ledger} (hnone : l.pending = []) {t : Trace} {f : Fault}
    (hraised : t.raised = some (.fault f)) (hkeeps : ∀ e ∈ t.events, e.keeps = false) :
    l.afterAll t.ofBlock = l := by
  rw [Trace.ofBlock, afterAll_append, hraised]
  show Ledger.mk (l.afterAll t.events).kept [] = l
  rw [kept_afterAll_of_keeps_eq_false hkeeps, ← hnone]

end Ledger

/-! ## Runs -/

/-- The ledger of a new store after events. -/
def ledgerAfter (events : List Event) : Ledger :=
  Ledger.empty.afterAll events

/-- The documents that are live after events on a new store. -/
def liveAfter (events : List Event) : List Row :=
  (ledgerAfter events).written

/-- What happens in the course of work on a new store. -/
def Work.run (w : Work) : Trace :=
  w.trace Ledger.empty

namespace Connection

/-- A connection to a new store. -/
def new : Connection := .ofStore .empty

theorem new_after (events : List Event) : new.after events = (ledgerAfter events).connection :=
  Ledger.empty.after_connection events

/-- After events on a new store it is read as the live documents. -/
theorem holds_after (events : List Event) :
    (new.after events).working.Holds (liveAfter events) := by
  have hsound := Ledger.isSound_empty.afterAll events
  rw [new_after]
  exact Store.holds_ready hsound.distinct hsound.storable

/-- Work on a new store leaves what its events leave.  At any moment, within a block too, the store
is read as the documents that are live then.  A document that is added gets an id that is not live,
and is read under it with all its fields ever after; only if the greatest of all ids is taken, and
the one that is drawn as well, it is not added.  A block of work ends as it does, and what it raises
is raised again; if that is a fault, and nothing is added or kept in the block, and nothing that was
written before it waits to be kept, all is as if the block had never been. -/
theorem run_new_faithful :
    (∀ w : Work, w.session.runOn new = (w.run.outcome, new.after w.run.events)) ∧
    ∀ events : List Event,
      (new.after events).working.Holds (liveAfter events) ∧
      (∀ drawn d,
        (∃ id, (∀ row ∈ liveAfter events, row.id ≠ id) ∧
          (Session.addDocument drawn d).runOn (new.after events) =
            (.ok id, new.after (events ++ [.add drawn d])) ∧
          ∀ later,
            (new.after (events ++ .add drawn d :: later)).working.get (.int id) =
              .ok (d.toHit id)) ∨
        (∃ row ∈ liveAfter events, row.id = idBound - 1) ∧
          (isStorable drawn = true → ∃ row ∈ liveAfter events, row.id = drawn) ∧
          (Session.addDocument drawn d).runOn (new.after events) =
            (.error (.fault .indexFull),
              new.after (events ++ [.leave (some (.fault .indexFull))]))) ∧
      ∀ (block : Work) (t : Trace), t = block.trace (ledgerAfter events) →
        (Session.transaction block.session).runOn (new.after events) =
          (t.outcome, new.after (events ++ t.ofBlock)) ∧
        ∀ f, t.raised = some (.fault f) → (∀ e ∈ t.events, e.keeps = false) →
          (ledgerAfter events).pending = [] →
            new.after (events ++ t.ofBlock) = new.after events := by
  refine ⟨fun w => ?_, fun events => ⟨holds_after events, fun drawn d => ?_, ?_⟩⟩
  · rw [new_after]
    exact w.runOn_session Ledger.empty
  · have hsound := Ledger.isSound_empty.afterAll events
    have hadd := Ledger.runOn_addDocument (ledgerAfter events) drawn d
    rw [new_after, new_after, new_after, ledgerAfter, ledgerAfter, ledgerAfter,
      Ledger.afterAll_append, Ledger.afterAll_append]
    cases hid : Store.newId? (ledgerAfter events).written drawn with
    | some id =>
      left
      refine ⟨id, (hsound.of_newId? hid).1, ?_, fun later => ?_⟩
      · rw [hid] at hadd
        exact hadd
      · have hrow : d.toNew.toRow id ∈ liveAfter (events ++ .add drawn d :: later) := by
          rw [liveAfter, ledgerAfter, Ledger.afterAll_append, Ledger.afterAll_cons]
          exact Ledger.mem_written_of_add hid d later
        have hget := (holds_after _).get_live _ hrow
        rw [DocumentFields.toHit_toRow] at hget
        exact hget
    | none =>
      right
      obtain ⟨hgreatest, hdrawn⟩ := hsound.of_newId?_eq_none hid
      rw [Ledger.after, hid] at hadd
      exact ⟨hgreatest, hdrawn, hadd⟩
  · rintro block t rfl
    rw [new_after, new_after, ledgerAfter, ledgerAfter, Ledger.afterAll_append]
    refine ⟨(block.runOn_session _).transaction, fun f hraised hkeeps hnone => ?_⟩
    rw [Ledger.afterAll_ofBlock_of_fault hnone hraised hkeeps]

/-- A block that fails after it has written two documents, one of them under a given id. -/
def failingBlock : Work :=
  .insert 55 ⟨some "x/y.c", some "p", none, none, none, none⟩
    (.insertAs 7 ⟨none, none, none, none, none, none⟩ (.stop (.fault .aborted)))

/-- Work of all kinds, with that block in it, on an index that comes to have the greatest id. -/
def mixedWork : Work :=
  .add 1 ⟨some "b/two.c", .plain, some "20200115103000000", some [], none, none⟩
    (.block (.insertAs 9223372036854775807 ⟨some "a/one.c", some "x", none, none, none, none⟩ .done)
      (.block failingBlock (.add 4444 ⟨none, .other, none, none, none, none⟩ .done)))

theorem run_new_faithful_mixedWork :
    mixedWork.session.runOn new = (.ok (), new.after mixedWork.run.events) ∧
    (new.after mixedWork.run.events).working.Holds (liveAfter mixedWork.run.events) ∧
    (liveAfter mixedWork.run.events).map (·.id) = [1, 9223372036854775807, 4444] ∧
    let before := mixedWork.run.events.take 3
    ((Session.transaction failingBlock.session).runOn (new.after before)).1 =
        .error (.fault .aborted) ∧
      new.after (before ++ (failingBlock.trace (ledgerAfter before)).ofBlock) =
        new.after before := by
  obtain ⟨hrun, hmoment⟩ := run_new_faithful
  obtain ⟨-, -, hblock⟩ := hmoment (mixedWork.run.events.take 3)
  obtain ⟨hends, hundone⟩ := hblock failingBlock _ rfl
  have hraised : (failingBlock.trace (ledgerAfter (mixedWork.run.events.take 3))).raised =
      some (.fault .aborted) := by
    decide
  have hdone : mixedWork.run.outcome = .ok () := by decide
  refine ⟨?_, (hmoment _).1, by decide, ?_, hundone .aborted hraised (by decide) (by decide)⟩
  · rw [hrun, hdone]
  · rw [hends, Trace.outcome, hraised]

/-- Not every block that stops is undone: the documents that an exit leaves behind are there, and
kept as soon as a document is added; and a document that is added in a block is there even if the
block fails.  Nor is every id that no document has a fault of the index. -/
theorem not_undone :
    let written : NewDocument := ⟨some "x/y.c", some "p", none, none, none, none⟩
    let added : DocumentFields := ⟨some "a/b.c", .plain, none, none, none, none⟩
    let left := (Session.transaction (Work.insert 1 written (.stop .exit)).session).runOn new
    let kept := ((Session.addDocument 1 added).runOn left.2).2.rollback
    let failed :=
      (Session.transaction (Work.add 1 added (.stop (.fault .aborted))).session).runOn new
    left.1 = .error .exit ∧ left.2.working.get (.int 1) = .ok (written.toRow 1).toHit ∧
      kept.working.get (.int 1) = .ok (written.toRow 1).toHit ∧
      failed.1 = .error (.fault .aborted) ∧
      failed.2.working.get (.int 1) = .ok (added.toHit 1) ∧
      new.working.get (.int 9223372036854775808) = .error .outOfRange := by
  decide

end Connection

end HitListing
