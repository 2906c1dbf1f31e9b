import HitListing.Fault
import HitListing.Utf8

/-!
# Byte streams

What reading a file gives, piece by piece.  A read asks for at most so many
bytes; it may get fewer although more follow, and it may fail.
-/

namespace HitListing

/-- A stream of bytes. -/
inductive Stream where
  /-- Nothing follows. -/
  | ended
  /-- The next read fails. -/
  | failing (f : Fault)
  /-- A stretch of bytes that one read does not go beyond.  If `flaw` is there,
  a read that would reach the end of the stretch fails instead. -/
  | stretch (bytes : Bytes) (flaw : Option Fault) (next : Stream)
deriving DecidableEq, Repr

namespace Stream

/-- The stream of a file as it is. -/
def ofBytes (bytes : Bytes) : Stream :=
  if bytes = [] then .ended else .stretch bytes none .ended

/-- The number of bytes in a stream. -/
def size : Stream → Nat
  | .ended => 0
  | .failing _ => 0
  | .stretch bytes _ next => bytes.length + next.size

/-- Read at most `limit` bytes.  No bytes mean that the stream has ended. -/
def read (limit : Nat) : Stream → Except Fault (Bytes × Stream)
  | .ended => .ok ([], .ended)
  | .failing f => .error f
  | .stretch bytes flaw next =>
    if bytes.length ≤ limit then
      match flaw with
      | some f => .error f
      | none => .ok (bytes, next)
    else .ok (bytes.take limit, .stretch (bytes.drop limit) flaw next)

end Stream

end HitListing
