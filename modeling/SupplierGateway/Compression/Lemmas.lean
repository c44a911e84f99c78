import Mathlib.Algebra.Group.Nat.Defs
import SupplierGateway.Compression.Bits

/-!
# Reading bits that were written

A number that was written in a fixed number of bits or bytes is read back up to what it can hold,
and bytes are read back from their bits.
-/

namespace SupplierGateway
namespace Compression

/-- Reading a number gives back the bits that were written. -/
theorem takeNumber_bitsOf (count n : Nat) (rest : List Bool) :
    takeNumber count (bitsOf count n ++ rest) = some (n % 2 ^ count, rest) := by
  induction count generalizing n with
  | zero => simp [takeNumber, bitsOf, Nat.mod_one]
  | succ count ih =>
      simp only [bitsOf, List.cons_append, takeNumber, ih, Option.map_some]
      congr 2
      rw [Nat.pow_succ', Nat.mod_mul]
      by_cases hbit : n % 2 = 1
      · simp [hbit]
        omega
      · have : n % 2 = 0 := by omega
        simp [this]

/-- Reading bytes gives back the bytes that were written. -/
theorem takeBytes_bitsOfBytes (bytes : List UInt8) (rest : List Bool) :
    takeBytes bytes.length (bitsOfBytes bytes ++ rest) = some (bytes, rest) := by
  induction bytes with
  | nil => rfl
  | cons b bs ih =>
      have hbits : bitsOfBytes (b :: bs) ++ rest
          = bitsOf 8 b.toNat ++ (bitsOfBytes bs ++ rest) := by
        simp [bitsOfBytes]
      rw [hbits, List.length_cons]
      simp [takeBytes, takeNumber_bitsOf, ih]

/-- A number is read back from its bytes. -/
theorem ofLittleEndian_littleEndian (count n : Nat) :
    ofLittleEndian (littleEndian count n) = n % 256 ^ count := by
  induction count generalizing n with
  | zero => simp [ofLittleEndian, littleEndian, Nat.mod_one]
  | succ count ih =>
      have hlow : (UInt8.ofNat (n % 256)).toNat = n % 256 := by
        simp
      simp only [littleEndian, ofLittleEndian, ih, hlow]
      rw [Nat.pow_succ', Nat.mod_mul]

@[simp] theorem length_littleEndian (count n : Nat) :
    (littleEndian count n).length = count := by
  induction count generalizing n with
  | zero => rfl
  | succ count ih => simp [littleEndian, ih]

@[simp] theorem length_bitsOf (count n : Nat) : (bitsOf count n).length = count := by
  induction count generalizing n with
  | zero => rfl
  | succ count ih => simp [bitsOf, ih]

end Compression
end SupplierGateway
