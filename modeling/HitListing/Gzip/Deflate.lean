import HitListing.Utf8

/-!
# Deflate

The compressed format inside of gzip files: blocks of bytes as they are, or of
symbols in a prefix code, where a symbol is a byte or the length of an earlier
stretch that is repeated.

Decoding yields all bytes that the data gives before it ends, is cut off or
breaks a rule, and says which of the three happened.  Bits are a list; each
symbol takes at least one of them, so their number bounds every loop.
-/

namespace HitListing.Deflate

/-- The bits of bytes, the lowest bit of each byte first. -/
def bitsOf (bytes : Bytes) : List Bool :=
  bytes.flatMap fun b => (List.range 8).map fun i => b.toNat.testBit i

/-- How reading a part went: a value and the bits behind it, or the bits ran
out, or they break a rule. -/
inductive Part (α : Type) where
  | ok (value : α) (rest : List Bool)
  | cut
  | broken
deriving Repr

/-- Go on after a part. -/
def Part.andThen {α β : Type} (p : Part α) (f : α → List Bool → Part β) : Part β :=
  match p with
  | .ok value rest => f value rest
  | .cut => .cut
  | .broken => .broken

/-- A number of the given count of bits, the lowest first. -/
def number (count : Nat) (bits : List Bool) : Part Nat :=
  if bits.length < count then .cut
  else .ok ((bits.take count).foldr (fun b n => 2 * n + b.toNat) 0) (bits.drop count)

/-! ## Prefix codes -/

/-- A canonical prefix code: the symbols of one bit, of two bits, and so on. -/
abbrev Code := List (List Nat)

/-- The greatest length of a code word. -/
def maxCodeLength : Nat := 15

/-- The symbols whose code word has the given length. -/
def symbolsOfLength (lengths : List Nat) (length : Nat) : List Nat :=
  lengths.zipIdx.filterMap fun (l, symbol) => if l = length then some symbol else none

/-- The number of code words of the greatest length that are left over; nothing
if there are too many words. -/
def leftOver? (code : Code) : Option Nat :=
  code.foldlM (fun left symbols =>
    if symbols.length ≤ 2 * left then some (2 * left - symbols.length) else none) 1

/-- The code with the given lengths of its words, zero for symbols without one.
Words may be left over only if `single` allows it and no word is longer than one
bit. -/
def Code.ofLengths? (single : Bool) (lengths : List Nat) : Option Code :=
  let longest := lengths.foldl max 0
  let code := (List.range' 1 maxCodeLength).map (symbolsOfLength lengths)
  match leftOver? code with
  | none => none
  | some left =>
    if longest = 0 ∨ left = 0 ∨ (single ∧ longest = 1) then some (code.take (max longest 1))
    else none

/-- The next symbol.  `word` and `first` are the word read so far and the first
word of its length. -/
def symbol (word first : Nat) : Code → List Bool → Part Nat
  | [], _ => .broken
  | _ :: _, [] => .cut
  | symbols :: longer, b :: bits =>
    let word := 2 * word + b.toNat
    match symbols[word - first]? with
    | some s => .ok s bits
    | none => symbol word (2 * (first + symbols.length)) longer bits

/-! ## Code lengths -/

/-- The order in which the lengths of the code for lengths are stored. -/
def lengthOrder : List Nat :=
  [16, 17, 18, 0, 8, 7, 9, 6, 10, 5, 11, 4, 12, 3, 13, 2, 14, 1, 15]

/-- A list of numbers of three bits. -/
def triples : (count : Nat) → List Bool → Part (List Nat)
  | 0, bits => .ok [] bits
  | count + 1, bits =>
    (number 3 bits).andThen fun n bits =>
      (triples count bits).andThen fun more bits => .ok (n :: more) bits

/-- The lengths of the code for lengths, symbol by symbol. -/
def orderedLengths (stored : List Nat) : List Nat :=
  (List.range 19).map fun symbol => ((lengthOrder.zip stored).lookup symbol).getD 0

/-- The lengths of the words of two codes, `count` in all, after those in
`found`.  A code for lengths without any word reads as zeros. -/
def lengths (code : Code) (count : Nat) : (fuel : Nat) → List Nat → List Bool → Part (List Nat)
  | 0, _, _ => .broken
  | fuel + 1, found, bits =>
    if count ≤ found.length then .ok found bits
    else
      let next : Part Nat :=
        if code.all List.isEmpty then number 1 bits |>.andThen fun _ bits => .ok 0 bits
        else symbol 0 0 code bits
      next.andThen fun s bits =>
        let run (value extra least : Nat) : Part (List Nat) :=
          (number extra bits).andThen fun n bits =>
            let times := n + least
            if count < found.length + times then .broken
            else lengths code count fuel (found ++ List.replicate times value) bits
        if s < 16 then lengths code count fuel (found ++ [s]) bits
        else if s = 16 then
          match found.getLast? with
          | none => .broken
          | some last => run last 2 3
        else if s = 17 then run 0 3 3
        else run 0 7 11

/-- The codes for symbols and for distances at the head of a block. -/
def codes (bits : List Bool) : Part (Code × Code) :=
  (number 5 bits).andThen fun n bits =>
  (number 5 bits).andThen fun d bits =>
  (number 4 bits).andThen fun c bits =>
    let symbolCount := n + 257
    let distanceCount := d + 1
    if 286 < symbolCount ∨ 30 < distanceCount then .broken
    else
      (triples (c + 4) bits).andThen fun stored bits =>
        match Code.ofLengths? false (orderedLengths stored) with
        | none => .broken
        | some code =>
          (lengths code (symbolCount + distanceCount) (bits.length + 1) [] bits).andThen
            fun found bits =>
              if (found[256]?).getD 0 = 0 then .broken
              else
                match Code.ofLengths? true (found.take symbolCount),
                  Code.ofLengths? true (found.drop symbolCount) with
                | some symbols, some distances => .ok (symbols, distances) bits
                | _, _ => .broken

/-- The code for symbols of blocks that bring no code. -/
def fixedSymbols : Code :=
  (Code.ofLengths? true (List.replicate 144 8 ++ List.replicate 112 9 ++ List.replicate 24 7 ++
    List.replicate 8 8)).getD []

/-- The code for distances of blocks that bring no code. -/
def fixedDistances : Code :=
  (Code.ofLengths? true (List.replicate 32 5)).getD []

/-! ## Symbols -/

/-- The least length and the extra bits of each length symbol. -/
def lengthRanges : List (Nat × Nat) :=
  [(3, 0), (4, 0), (5, 0), (6, 0), (7, 0), (8, 0), (9, 0), (10, 0), (11, 1), (13, 1), (15, 1),
    (17, 1), (19, 2), (23, 2), (27, 2), (31, 2), (35, 3), (43, 3), (51, 3), (59, 3), (67, 4),
    (83, 4), (99, 4), (115, 4), (131, 5), (163, 5), (195, 5), (227, 5), (258, 0)]

/-- The least distance and the extra bits of each distance symbol. -/
def distanceRanges : List (Nat × Nat) :=
  [(1, 0), (2, 0), (3, 0), (4, 0), (5, 1), (7, 1), (9, 2), (13, 2), (17, 3), (25, 3), (33, 4),
    (49, 4), (65, 5), (97, 5), (129, 6), (193, 6), (257, 7), (385, 7), (513, 8), (769, 8),
    (1025, 9), (1537, 9), (2049, 10), (3073, 10), (4097, 11), (6145, 11), (8193, 12), (12289, 12),
    (16385, 13), (24577, 13)]

/-- A number of a table of ranges, by its symbol. -/
def inRange (ranges : List (Nat × Nat)) (symbol : Nat) (bits : List Bool) : Part Nat :=
  match ranges[symbol]? with
  | none => .broken
  | some (least, extra) => (number extra bits).andThen fun n bits => .ok (least + n) bits

/-- Repeat bytes from `distance` bytes back. -/
def repeatBack (distance : Nat) : (count : Nat) → Array UInt8 → Array UInt8
  | 0, out => out
  | count + 1, out => repeatBack distance count (out.push ((out[out.size - distance]?).getD 0))

/-- How a stretch of blocks ends. -/
inductive Ending where
  /-- Properly, before the given bits. -/
  | finished (rest : List Bool)
  | cut
  | broken
deriving Repr

/-- Decode the symbols of a block, after the bytes in `out`. -/
def blockBody (symbols distances : Code) :
    (fuel : Nat) → Array UInt8 → List Bool → Array UInt8 × Ending
  | 0, out, _ => (out, .cut)
  | fuel + 1, out, bits =>
    match symbol 0 0 symbols bits with
    | .cut => (out, .cut)
    | .broken => (out, .broken)
    | .ok s bits =>
      if s < 256 then blockBody symbols distances fuel (out.push (UInt8.ofNat s)) bits
      else if s = 256 then (out, .finished bits)
      else
        let back : Part (Nat × Nat) :=
          (inRange lengthRanges (s - 257) bits).andThen fun length bits =>
          (symbol 0 0 distances bits).andThen fun d bits =>
          (inRange distanceRanges d bits).andThen fun distance bits =>
            if out.size < distance then .broken else .ok (length, distance) bits
        match back with
        | .cut => (out, .cut)
        | .broken => (out, .broken)
        | .ok (length, distance) bits =>
          blockBody symbols distances fuel (repeatBack distance length out) bits

/-- Copy whole bytes. -/
def storedBody : (count : Nat) → Array UInt8 → List Bool → Array UInt8 × Ending
  | 0, out, bits => (out, .finished bits)
  | count + 1, out, bits =>
    match number 8 bits with
    | .ok b bits => storedBody count (out.push (UInt8.ofNat b)) bits
    | _ => (out, .cut)

/-- Decode a block of bytes as they are.  It begins at a whole byte. -/
def storedBlock (out : Array UInt8) (bits : List Bool) : Array UInt8 × Ending :=
  let sizes : Part Nat :=
    (number 16 (bits.drop (bits.length % 8))).andThen fun size bits =>
    (number 16 bits).andThen fun check bits =>
      if size + check = 0xffff then .ok size bits else .broken
  match sizes with
  | .ok size bits => storedBody size out bits
  | .cut => (out, .cut)
  | .broken => (out, .broken)

/-- Decode a block behind its first bit. -/
def block (out : Array UInt8) (bits : List Bool) : Array UInt8 × Ending :=
  match number 2 bits with
  | .ok 0 bits => storedBlock out bits
  | .ok 1 bits => blockBody fixedSymbols fixedDistances (bits.length + 1) out bits
  | .ok 2 bits =>
    match codes bits with
    | .ok (symbols, distances) bits => blockBody symbols distances (bits.length + 1) out bits
    | .cut => (out, .cut)
    | .broken => (out, .broken)
  | .ok _ _ => (out, .broken)
  | _ => (out, .cut)

/-- Decode blocks up to the last one. -/
def blocks : (fuel : Nat) → Array UInt8 → List Bool → Array UInt8 × Ending
  | 0, out, _ => (out, .cut)
  | _ + 1, out, [] => (out, .cut)
  | fuel + 1, out, last :: bits =>
    match block out bits with
    | (out, .finished rest) => if last then (out, .finished rest) else blocks fuel out rest
    | stopped => stopped

/-- The bytes that compressed data gives, and how it ends: properly before the
given bytes, or cut off, or broken. -/
inductive Decoded where
  | finished (output rest : Bytes)
  | cut (output : Bytes)
  | broken (output : Bytes)
deriving Repr

/-- Decode compressed data at the front of bytes. -/
def decode (bytes : Bytes) : Decoded :=
  let bits := bitsOf bytes
  match blocks (bits.length + 1) #[] bits with
  | (out, .finished rest) => .finished out.toList (bytes.drop (bytes.length - rest.length / 8))
  | (out, .cut) => .cut out.toList
  | (out, .broken) => .broken out.toList

end HitListing.Deflate
