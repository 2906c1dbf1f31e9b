import HitListing.Group
import HitListing.Json.Order
import HitListing.Json.Shown
import HitListing.Number.Numeral

/-!
# The document store

The stored fields of all documents, each under an integer id.  An operation
gives the store that it leaves; one that fails leaves the store as it was.

A connection writes to a working copy of the store.  What it has written is kept
when it commits and lost when it rolls back.  A block of work does one or the
other at its end, but neither if it is left because the program is to end.

The table of documents can be lost, after which every operation fails.
-/

namespace HitListing

/-- A stored document. -/
structure Row where
  id : Int
  path : Option Text
  /-- The letter of the genre. -/
  genre : Option Text
  date : Option Text
  tags : Option Bytes
  scopes : Option Bytes
  positions : Option Bytes
deriving DecidableEq, Repr

/-- The hit that a stored document is. -/
def Row.toHit (r : Row) : Hit :=
  ⟨r.id, r.path, Genre.ofCode r.genre, r.date, r.tags, r.scopes, r.positions⟩

/-- The fields of a document that is not stored yet. -/
structure NewDocument where
  path : Option Text
  genre : Option Text
  date : Option Text
  tags : Option Bytes
  scopes : Option Bytes
  positions : Option Bytes
deriving DecidableEq, Repr

/-- The fields of a document that is given to the store to keep. -/
structure DocumentFields where
  path : Option Text
  genre : Genre
  date : Option Text
  tags : Option Bytes
  scopes : Option Bytes
  positions : Option Bytes
deriving DecidableEq, Repr

/-- The fields as they are stored: the genre as its letter. -/
def DocumentFields.toNew (d : DocumentFields) : NewDocument :=
  ⟨d.path, some d.genre.code, d.date, d.tags, d.scopes, d.positions⟩

/-- A new document under an id. -/
def NewDocument.toRow (d : NewDocument) (id : Int) : Row :=
  ⟨id, d.path, d.genre, d.date, d.tags, d.scopes, d.positions⟩

/-- A store: its documents in the order in which they were added, or a store
whose table is gone. -/
inductive Store where
  | ready (rows : List Row)
  /-- An index that has been asked for a document keeps the question, and goes on to check the ids
  that it is asked for. -/
  | dropped (asked : Bool)
deriving DecidableEq, Repr

/-- How many documents there are, and how many of them lack a path. -/
structure StoreStats where
  documents : Nat
  withoutPath : Nat
deriving DecidableEq, Repr

/-! ## Ids -/

/-- The integer above all that 64 bits hold. -/
def idBound : Int := 9223372036854775808

/-- Whether an integer fits into 64 bits. -/
def isStorable (n : Int) : Bool :=
  -idBound ≤ n && n < idBound

/-- Whether a character may stand around a numeral in the index. -/
def isIndexBlank (c : Char) : Bool :=
  c = ' ' || ('\t' ≤ c && c ≤ '\r')

/-- The number that decimal digits stand for. -/
def digitsValue (digits : Text) : Nat :=
  ofDigits (digits.filterMap decimalValue?)

/-- The exponent of a numeral, which is all that is left of it. -/
def exponent? : Text → Option Int
  | [] => some 0
  | e :: rest =>
    let (negative, digits) := match rest with
      | '-' :: rest => (true, rest)
      | '+' :: rest => (false, rest)
      | rest => (false, rest)
    if (e = 'e' || e = 'E') && !digits.isEmpty && digits.all Char.isDigit then
      some (if negative then -(digitsValue digits : Int) else digitsValue digits)
    else none

/-- The integer that a double is equal to as an id: one strictly between the bounds
of 64 bits. -/
def wholeNumber? (x : Binary64) : Option Int :=
  match x.value? with
  | some q => if q.den = 1 && -idBound < q.num && q.num < idBound then some q.num else none
  | none => none

/-- The integer that a numeral without a sign stands for, if it does.  A numeral
with a point or an exponent stands for a double. -/
def unsignedId? (negative : Bool) (t : Text) : Option Int := do
  let whole := t.takeWhile Char.isDigit
  match t.dropWhile Char.isDigit with
  | [] =>
    if whole.isEmpty then none
    else some (if negative then -(digitsValue whole : Int) else digitsValue whole)
  | rest =>
    let point := rest.head? = some '.'
    let fraction := if point then (rest.drop 1).takeWhile Char.isDigit else []
    let behind := if point then (rest.drop 1).dropWhile Char.isDigit else rest
    let e ← exponent? behind
    if (whole ++ fraction).isEmpty then none
    else wholeNumber? (.ofDecimal negative (digitsValue (whole ++ fraction)) (e - fraction.length))

/-- The integer that the index takes a text for, if it does. -/
def textId? (t : Text) : Option Int :=
  match Text.trim isIndexBlank t with
  | '-' :: rest => unsignedId? true rest
  | '+' :: rest => unsignedId? false rest
  | rest => unsignedId? false rest

/-- The integer that a value given as an id is equal to, if there is one. -/
def DocumentId.integer? (id : DocumentId) : Except Fault (Option Int) :=
  match id with
  | .bool b => .ok (some (if b then 1 else 0))
  | .int n => if isStorable n then .ok (some n) else .error .outOfRange
  | .real x => .ok (wholeNumber? x)
  | .str t => .ok (textId? t)
  | .null => .ok none
  | id => .error (.unknownIdKind id.kindName)

namespace Store

/-- The store without documents. -/
def empty : Store := .ready []

/-- The documents of a store. -/
def rows : Store → Except Fault (List Row)
  | .ready rows => .ok rows
  | .dropped _ => .error .noTable

/-- The id of the next document: one more than the greatest, or 1. -/
def nextId : List Row → Int
  | [] => 1
  | r :: rest => rest.foldl (fun n s => max n s.id) r.id + 1

/-- The id that a document gets: the next one, or, as soon as the greatest of all ids is taken, one
that the index draws at random until it is free.  The last that is drawn may be taken too, as the
index does not draw for ever. -/
def newId? (rows : List Row) (drawn : Int) : Option Int :=
  if nextId rows < idBound then some (nextId rows)
  else if isStorable drawn && rows.all (·.id ≠ drawn) then some drawn
  else none

/-! ## Operations -/

/-- Add a document under the next id. -/
def add (s : Store) (d : NewDocument) : Except Fault (Int × Store) := do
  let rows ← s.rows
  let id := nextId rows
  return (id, .ready (rows ++ [d.toRow id]))

/-- Add a document under the id that it gets, given one that is drawn. -/
def addDrawing (s : Store) (drawn : Int) (d : NewDocument) : Except Fault (Int × Store) := do
  let rows ← s.rows
  match newId? rows drawn with
  | some id => return (id, .ready (rows ++ [d.toRow id]))
  | none => throw .indexFull

/-- Add a document under a given id, which must be free. -/
def addAs (s : Store) (id : Int) (d : NewDocument) : Except Fault (Int × Store) := do
  let rows ← s.rows
  if !isStorable id then throw .outOfRange
  else if rows.any (·.id = id) then throw .duplicateId
  else return (id, .ready (rows ++ [d.toRow id]))

/-- The answer for an id that the index accepts. -/
def ask (id : DocumentId) (answer : Option Int → Except Fault Hit) : Except Fault Hit :=
  match DocumentId.integer? id with
  | .error (.unknownIdKind kind) => do
    throw (.documentUnreadable (← id.shown) (.unknownKind kind))
  | .error f => .error f
  | .ok n => answer n

/-- The document with an id.  A fault names the id, for which the id must have a text. -/
def get (s : Store) (id : DocumentId) : Except Fault Hit :=
  match s with
  | .dropped false => do throw (.documentUnreadable (← id.shown) .noTable)
  | .dropped true => ask id fun _ => do throw (.documentUnreadable (← id.shown) .noTable)
  | .ready rows =>
    ask id fun n =>
      match n.bind fun n => rows.find? (·.id = n) with
      | some row => .ok row.toHit
      | none => do throw (.documentMissing (← id.shown))

/-- Whether a document comes before another: without a path first, then by path,
then by id. -/
def rowLe (a b : Row) : Bool :=
  match a.path, b.path with
  | none, none => a.id ≤ b.id
  | none, some _ => true
  | some _, none => false
  | some p, some q => if p = q then a.id ≤ b.id else Text.le p q

/-- All documents in order. -/
def list (s : Store) : Except Fault (List Hit) := do
  let rows ← s.rows
  return (rows.mergeSort rowLe).map (·.toHit)

/-- The number of documents. -/
def stats (s : Store) : Except Fault StoreStats := do
  let rows ← s.rows
  return ⟨rows.length, (rows.filter (·.path.isNone)).length⟩

/-- Remove the document with an id; how many were removed. -/
def delete (s : Store) (id : DocumentId) : Except Fault (Nat × Store) := do
  let rows ← s.rows
  match ← DocumentId.integer? id with
  | none => return (0, s)
  | some n =>
    let kept := rows.filter (·.id ≠ n)
    return (rows.length - kept.length, .ready kept)

/-- Add documents one after another. -/
def addAll (s : Store) : List NewDocument → Except Fault Store
  | [] => .ok s
  | d :: rest => do
    let (_, s) ← s.add d
    s.addAll rest

/-- Lose the table of documents, before any document has been asked for. -/
def drop (s : Store) : Except Fault Store := do
  let _ ← s.rows
  return .dropped false

end Store

/-! ## Connections -/

/-- What a connection works on: the store as it was last committed, and the store with all that
has been written to it since. -/
structure Connection where
  committed : Store
  working : Store
deriving DecidableEq, Repr

namespace Connection

/-- A connection to a store. -/
def ofStore (s : Store) : Connection := ⟨s, s⟩

/-- Keep what has been written. -/
def commit (c : Connection) : Connection := ⟨c.working, c.working⟩

/-- Go back to what was committed. -/
def rollback (c : Connection) : Connection := ⟨c.committed, c.committed⟩

end Connection

/-- Why work stops before its end. -/
inductive Raised where
  /-- Something has gone wrong. -/
  | fault (f : Fault)
  /-- The program is to end, by an interrupt or an exit.  That is no fault, and what handles faults
  lets it pass. -/
  | exit
deriving DecidableEq, Repr

/-- Leave a block of work.  If it has come to its end, all that is written so far is kept; if it
has failed, what is not kept yet is gone.  An exit leaves all as it is. -/
def Connection.leave (c : Connection) : Option Raised → Connection
  | none => c.commit
  | some (.fault _) => c.rollback
  | some .exit => c

/-- Work that is done through a connection.  Work that stops leaves what it has written until
then. -/
abbrev Session := ExceptT Raised (StateM Connection)

namespace Session

/-- The outcome of work and the connection that it leaves. -/
def runOn {α : Type} (work : Session α) (c : Connection) : Except Raised α × Connection :=
  (ExceptT.run work).run c

/-- Write a document in some way; the id that it gets. -/
def write (add : Store → Except Fault (Int × Store)) : Session Int := do
  let c ← get
  match add c.working with
  | .error f => throw (.fault f)
  | .ok (id, s) =>
    set { c with working := s }
    return id

/-- Write a document under the id that it gets, given one that is drawn. -/
def insert (drawn : Int) (d : NewDocument) : Session Int :=
  write fun s => s.addDrawing drawn d

/-- Write a document under a given id, which must be free. -/
def insertAs (id : Int) (d : NewDocument) : Session Int :=
  write fun s => s.addAs id d

/-- Do a block of work, and leave it as it ends.  A block within a block is left in the same way:
there is one connection, and all that is written through it is kept or gone together. -/
def transaction {α : Type} (block : Session α) : Session α :=
  tryCatch
    (do
      let a ← block
      modify fun c => c.leave none
      return a)
    fun e => do
      modify fun c => c.leave (some e)
      throw e

/-- Add a document. -/
def addDocument (drawn : Int) (d : DocumentFields) : Session Int :=
  transaction (insert drawn d.toNew)

end Session

/-- Work step by step, up to where it ends.  A step that may need an id that is drawn comes with
it.  If a document cannot be written, the work stops. -/
inductive Work where
  /-- All is done. -/
  | done
  /-- The work stops. -/
  | stop (e : Raised)
  /-- A document is written. -/
  | insert (drawn : Int) (d : NewDocument) (rest : Work)
  /-- A document is written under a given id. -/
  | insertAs (id : Int) (d : NewDocument) (rest : Work)
  /-- A document is added. -/
  | add (drawn : Int) (d : DocumentFields) (rest : Work)
  /-- A block of work is done, after which the work goes on, even if the block has stopped.  Work
  that stops with its block is one whose rest is to stop. -/
  | block (inner rest : Work)
deriving DecidableEq, Repr

namespace Work

/-- The work on a connection. -/
def session : Work → Session Unit
  | done => return ()
  | stop e => throw e
  | insert drawn d rest => do
    let _ ← Session.insert drawn d
    rest.session
  | insertAs id d rest => do
    let _ ← Session.insertAs id d
    rest.session
  | add drawn d rest => do
    let _ ← Session.addDocument drawn d
    rest.session
  | block inner rest => do
    tryCatch (Session.transaction inner.session) fun _ => return ()
    rest.session

/-- The work of writing documents, and of what comes then.  Should ids have to be drawn, 1 is
drawn. -/
def insertAll (documents : List NewDocument) (rest : Work) : Work :=
  documents.foldr (insert 1) rest

end Work

/-- Add documents together, unless that is given up in the end. -/
def Store.transaction (s : Store) (documents : List NewDocument) (giveUp : Bool) :
    Except Fault Store :=
  let last := if giveUp then Work.stop (.fault .aborted) else .done
  match (Session.transaction (Work.insertAll documents last).session).runOn (.ofStore s) with
  | (.ok _, c) => .ok c.working
  | (.error (.fault f), _) => .error f
  | (.error .exit, c) => .ok c.working

end HitListing
