import HitListing.Utf8

/-!
# Checksums

The 32-bit cyclic redundancy check, one bit at a time.
-/

namespace HitListing.Gzip

/-- The remainder after one bit. -/
def crcBit (c : UInt32) : UInt32 :=
  if c &&& 1 = 1 then (c >>> 1) ^^^ 0xedb88320 else c >>> 1

/-- The remainder after one byte. -/
def crcByte (c : UInt32) (b : UInt8) : UInt32 :=
  crcBit (crcBit (crcBit (crcBit (crcBit (crcBit (crcBit (crcBit (c ^^^ b.toUInt32))))))))

/-- The checksum of bytes. -/
def crc32 (bytes : Bytes) : UInt32 :=
  bytes.foldl crcByte 0xffffffff ^^^ 0xffffffff

end HitListing.Gzip
