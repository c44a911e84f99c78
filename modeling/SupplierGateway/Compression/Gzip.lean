import SupplierGateway.Compression.Inflate

/-!
# Compressed files

A file is a header, a deflated stream, and the checksum and length of what the stream stands for.
Reading checks all of it.  Only the first file is read when several stand one after another, and
what follows it is ignored.
-/

namespace SupplierGateway
namespace Compression

/-! ## The checksum -/

/-- Divides one bit further. -/
def crcBit (crc : UInt32) : UInt32 :=
  if crc &&& 1 = 1 then (crc >>> 1) ^^^ 0xEDB88320 else crc >>> 1

/-- Takes one byte into the checksum. -/
def crcByte (crc : UInt32) (b : UInt8) : UInt32 :=
  crcBit (crcBit (crcBit (crcBit (crcBit (crcBit (crcBit (crcBit (crc ^^^ b.toUInt32))))))))

/-- The cyclic redundancy checksum of bytes. -/
def crc32 (bytes : List UInt8) : UInt32 :=
  (bytes.foldl crcByte 0xFFFFFFFF) ^^^ 0xFFFFFFFF

/-! ## Files -/

/-- The header of a file without optional parts. -/
def plainHeader : List UInt8 := [0x1f, 0x8b, 8, 0, 0, 0, 0, 0, 0, 255]

/-- A file that stands for the given bytes. -/
def compress (bytes : List UInt8) : List UInt8 :=
  plainHeader ++ store bytes ++ littleEndian 4 (crc32 bytes).toNat ++
    littleEndian 4 (bytes.length % UInt32.size)

/-- Skips a text that ends with a zero byte. -/
def skipText : List UInt8 → Option (List UInt8)
  | [] => none
  | b :: rest => if b = 0 then some rest else skipText rest

/-- Skips a number of bytes that must be there. -/
def skipBytes (count : Nat) (bytes : List UInt8) : Option (List UInt8) :=
  if count ≤ bytes.length then some (bytes.drop count) else none

/-- Skips the optional part of a header that a flag announces. -/
def skipIf (flag : Bool) (skip : List UInt8 → Option (List UInt8)) (bytes : List UInt8) :
    Option (List UInt8) :=
  if flag then skip bytes else some bytes

/-- Skips a part that is preceded by its length. -/
def skipExtra (bytes : List UInt8) : Option (List UInt8) := do
  let rest ← skipBytes 2 bytes
  skipBytes (ofLittleEndian (bytes.take 2)) rest

/-- Skips the checksum of a header, which must be right. -/
def skipHeaderChecksum (all bytes : List UInt8) : Option (List UInt8) := do
  let rest ← skipBytes 2 bytes
  let header := all.take (all.length - bytes.length)
  if ofLittleEndian (bytes.take 2) = (crc32 header).toNat % UInt16.size then some rest else none

/-- Skips a header. -/
def skipHeader (all : List UInt8) : Option (List UInt8) :=
  match all with
  | 0x1f :: 0x8b :: 8 :: flags :: rest => do
      let has (bit : Nat) : Bool := flags.toNat.testBit bit
      if has 5 || has 6 || has 7 then none
      else
        let rest ← skipBytes 6 rest
        let rest ← skipIf (has 2) skipExtra rest
        let rest ← skipIf (has 3) skipText rest
        let rest ← skipIf (has 4) skipText rest
        skipIf (has 1) (skipHeaderChecksum all) rest
  | _ => none

/-- The bytes that a file stands for. -/
def decompress (file : List UInt8) : Option (List UInt8) := do
  let stream ← skipHeader file
  let (bytes, bits) ← inflate (bitsOfBytes stream)
  let (checksum, bits) ← takeNumber 32 (alignToByte bits)
  let (size, _) ← takeNumber 32 bits
  if checksum = (crc32 bytes).toNat ∧ size = bytes.length % UInt32.size then some bytes else none

end Compression
end SupplierGateway
