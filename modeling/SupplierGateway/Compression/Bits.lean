/-!
# Bits and bytes

A compressed stream is read bit by bit, the least significant bit of each byte first.  Numbers are
stored with their least significant bit first as well.
-/

namespace SupplierGateway
namespace Compression

/-- The low `count` bits of a number, least significant first. -/
def bitsOf : Nat → Nat → List Bool
  | 0, _ => []
  | count + 1, n => (n % 2 == 1) :: bitsOf count (n / 2)

/-- The bits of bytes. -/
def bitsOfBytes (bytes : List UInt8) : List Bool :=
  bytes.flatMap fun b => bitsOf 8 b.toNat

/-- Reads a number of `count` bits. -/
def takeNumber : Nat → List Bool → Option (Nat × List Bool)
  | 0, bits => some (0, bits)
  | _ + 1, [] => none
  | count + 1, bit :: rest =>
      (takeNumber count rest).map fun (n, left) => (2 * n + (if bit then 1 else 0), left)

/-- Skips to the next byte of a stream that ends with a whole byte. -/
def alignToByte (bits : List Bool) : List Bool :=
  bits.drop (bits.length % 8)

/-- Reads whole bytes. -/
def takeBytes : Nat → List Bool → Option (List UInt8 × List Bool)
  | 0, bits => some ([], bits)
  | count + 1, bits =>
      match takeNumber 8 bits with
      | none => none
      | some (n, left) => (takeBytes count left).map fun (bs, last) => (UInt8.ofNat n :: bs, last)

/-- The bytes of a number, least significant first. -/
def littleEndian : Nat → Nat → List UInt8
  | 0, _ => []
  | count + 1, n => UInt8.ofNat (n % 256) :: littleEndian count (n / 256)

/-- The number of bytes, least significant first. -/
def ofLittleEndian : List UInt8 → Nat
  | [] => 0
  | b :: rest => b.toNat + 256 * ofLittleEndian rest

end Compression
end SupplierGateway
