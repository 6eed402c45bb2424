/-!
# Checksums of compressed containers

CRC-32 (the reflected polynomial 0xEDB88320, as gzip uses it) and Adler-32 (as zlib uses it),
both as left folds of a step per byte, so that the checksum of a concatenation is the fold of the
second part from the state the first part left.
-/

set_option autoImplicit false

namespace Dissect.Deflate

def crcBit (c : UInt32) : UInt32 :=
  if c &&& 1 == 1 then (c >>> 1) ^^^ 0xEDB88320 else c >>> 1

def crcEntry (n : Nat) : UInt32 := (List.replicate 8 ()).foldl (fun c _ => crcBit c) n.toUInt32

def crcTable : Array UInt32 := (Array.range 256).map crcEntry

def crcByte (c : UInt32) (b : UInt8) : UInt32 :=
  (crcTable.getD ((c ^^^ b.toUInt32) &&& 0xFF).toNat 0) ^^^ (c >>> 8)

def crc32 (data : ByteArray) : UInt32 :=
  data.foldl crcByte 0xFFFFFFFF ^^^ 0xFFFFFFFF

def adlerByte (s : Nat × Nat) (b : UInt8) : Nat × Nat :=
  let a := (s.1 + b.toNat) % 65521
  (a, (s.2 + a) % 65521)

/-- The Adler-32 of a byte array: the sum of the bytes plus one, and the sum of those sums, both
modulo 65521. -/
def adler32 (data : ByteArray) : Nat :=
  let (a, b) := data.foldl adlerByte (1, 0)
  b * 65536 + a

end Dissect.Deflate
