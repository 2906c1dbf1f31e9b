import HitListing.Gzip.Crc32
import HitListing.Gzip.Deflate
import HitListing.Stream

/-!
# Gzip files

A gzip file is a sequence of members, each a header, compressed data and a
trailer with the checksum and the size of the data.  Zeros may stand behind a
member.

The stream of a file gives the data of its members in turn.  It fails where a
header or a trailer is wrong or the file ends too early, but only after the data
before that place.
-/

namespace HitListing.Gzip

/-- The first `count` bytes and the bytes behind them, if there are enough. -/
def exactly (count : Nat) (bytes : Bytes) : Except Fault (Bytes × Bytes) :=
  if bytes.length < count then .error .endOfStream else .ok (bytes.take count, bytes.drop count)

/-- A number in bytes, the lowest byte first. -/
def littleEndian (bytes : Bytes) : Nat :=
  bytes.foldr (fun b n => b.toNat + 256 * n) 0

/-- Whether a bit of the header's flags is set. -/
def hasFlag (flags : UInt8) (bit : Nat) : Bool :=
  flags.toNat.testBit bit

/-- Pass over a field of the header with its length in front. -/
def skipExtra (flags : UInt8) (bytes : Bytes) : Except Fault Bytes :=
  if hasFlag flags 2 then do
    let (length, rest) ← exactly 2 bytes
    let (_, rest) ← exactly (littleEndian length) rest
    return rest
  else .ok bytes

/-- Pass over a field of the header that a zero ends. -/
def skipName (flags : UInt8) (bit : Nat) (bytes : Bytes) : Bytes :=
  if hasFlag flags bit then (bytes.dropWhile (· ≠ 0)).drop 1 else bytes

/-- The bytes behind a header; nothing if no member follows. -/
def header (bytes : Bytes) : Except Fault (Option Bytes) := do
  match bytes with
  | [] => return none
  | 0x1f :: 0x8b :: rest =>
    let (fields, rest) ← exactly 8 rest
    let flags := fields.getD 1 0
    if fields.getD 0 0 ≠ 8 then throw .badGzip
    else
      let rest ← skipExtra flags rest
      let rest := skipName flags 4 (skipName flags 3 rest)
      if hasFlag flags 1 then
        let (_, rest) ← exactly 2 rest
        return some rest
      else return some rest
  | _ => throw .badGzip

/-- The bytes behind a trailer and the zeros that follow it. -/
def trailer (output rest : Bytes) : Except Fault Bytes := do
  let (fields, rest) ← exactly 8 rest
  if littleEndian (fields.take 4) ≠ (crc32 output).toNat then throw .badGzip
  else if littleEndian (fields.drop 4) ≠ output.length % 4294967296 then throw .badGzip
  else return rest.dropWhile (· = 0)

/-- A stream that gives bytes before what follows. -/
def before (bytes : Bytes) (flaw : Option Fault) (next : Stream) : Stream :=
  if bytes = [] then next else .stretch bytes flaw next

/-- The stream of at most `count` members. -/
def members : (count : Nat) → Bytes → Stream
  | 0, _ => .ended
  | count + 1, bytes =>
    match header bytes with
    | .error f => .failing f
    | .ok none => .ended
    | .ok (some rest) =>
      match Deflate.decode rest with
      | .broken output => before output (some .badDeflate) (.failing .badDeflate)
      | .cut output => before output none (.failing .endOfStream)
      | .finished output rest =>
        match trailer output rest with
        | .error f => before output none (.failing f)
        | .ok rest => before output none (members count rest)

/-- The stream of a gzip file.  A member has at least one byte, so that the
length of the file bounds their number. -/
def stream (bytes : Bytes) : Stream :=
  members (bytes.length + 1) bytes

end HitListing.Gzip
