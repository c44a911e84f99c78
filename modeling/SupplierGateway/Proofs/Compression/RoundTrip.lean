import Mathlib.Algebra.Group.Nat.Defs
import SupplierGateway.Compression.Gzip
import SupplierGateway.Compression.Lemmas

/-!
# Compressed files are read back

What is written as a compressed file is read back as it was: `decompress_compress`.  The writer
stores bytes in blocks of limited size, so the proof goes along the blocks; the reader bounds its
turns by the number of bits, of which every block has more than enough.
-/

namespace SupplierGateway
namespace Compression

/-! ## Bits of bytes -/

theorem bitsOfBytes_cons (b : UInt8) (bytes : List UInt8) :
    bitsOfBytes (b :: bytes) = bitsOf 8 b.toNat ++ bitsOfBytes bytes := by
  simp [bitsOfBytes]

theorem bitsOfBytes_append (first second : List UInt8) :
    bitsOfBytes (first ++ second) = bitsOfBytes first ++ bitsOfBytes second := by
  simp [bitsOfBytes]

theorem length_bitsOfBytes (bytes : List UInt8) :
    (bitsOfBytes bytes).length = 8 * bytes.length := by
  induction bytes with
  | nil => rfl
  | cons b rest ih =>
      rw [bitsOfBytes_cons, List.length_append, length_bitsOf, ih, List.length_cons]
      omega

/-- The bits of a number are its low bits followed by the bits of the rest. -/
theorem bitsOf_add (low count n : Nat) :
    bitsOf (low + count) n = bitsOf low (n % 2 ^ low) ++ bitsOf count (n / 2 ^ low) := by
  induction low generalizing n with
  | zero => simp [bitsOf]
  | succ low ih =>
      have hbit : n % 2 ^ (low + 1) % 2 = n % 2 :=
        Nat.mod_mod_of_dvd n ⟨2 ^ low, Nat.pow_succ'⟩
      have hrest : n % 2 ^ (low + 1) / 2 = n / 2 % 2 ^ low := by
        rw [Nat.pow_succ', Nat.mod_mul_right_div_self]
      have hdiv : n / 2 ^ (low + 1) = n / 2 / 2 ^ low := by
        rw [Nat.pow_succ', Nat.div_div_eq_div_mul]
      rw [show low + 1 + count = low + count + 1 by omega]
      simp only [bitsOf, ih, List.cons_append, hbit, hrest, hdiv]

/-- The bits of the bytes of a number are the bits of the number. -/
theorem bitsOfBytes_littleEndian (count n : Nat) :
    bitsOfBytes (littleEndian count n) = bitsOf (8 * count) n := by
  induction count generalizing n with
  | zero => rfl
  | succ count ih =>
      have hlow : (UInt8.ofNat (n % 256)).toNat = n % 256 := by
        simp
      rw [littleEndian, bitsOfBytes_cons, hlow, ih, Nat.mul_succ, Nat.add_comm (8 * count) 8]
      exact (bitsOf_add 8 (8 * count) n).symm

/-- A number below the limit is read back from the bits of its bytes. -/
theorem takeNumber_littleEndian {count n : Nat} (hfits : n < 2 ^ (8 * count))
    (rest : List Bool) :
    takeNumber (8 * count) (bitsOfBytes (littleEndian count n) ++ rest) = some (n, rest) := by
  rw [bitsOfBytes_littleEndian, takeNumber_bitsOf, Nat.mod_eq_of_lt hfits]

/-- A stream of whole bytes is aligned. -/
theorem alignToByte_bitsOfBytes (bytes : List UInt8) :
    alignToByte (bitsOfBytes bytes) = bitsOfBytes bytes := by
  rw [alignToByte, length_bitsOfBytes, Nat.mul_mod_right, List.drop_zero]

/-! ## Stored blocks -/

/-- A stored block after its mark: padding, its size twice and its bytes. -/
theorem inflateBlock_stored (out : Array UInt8) {now : List UInt8}
    (hlimit : now.length ≤ storedLimit) (rest : List UInt8) :
    inflateBlock out (List.replicate 7 false ++ bitsOfBytes (littleEndian 2 now.length ++
        littleEndian 2 (65535 - now.length) ++ now ++ rest)) =
      some (out ++ now.toArray, bitsOfBytes rest) := by
  have hsize : now.length < 2 ^ (8 * 2) := by
    unfold storedLimit at hlimit
    omega
  have hcomplement : 65535 - now.length < 2 ^ (8 * 2) := by omega
  have hsum : now.length + (65535 - now.length) = 65535 := by
    unfold storedLimit at hlimit
    omega
  have hkind : ∀ bits, takeNumber 2 (List.replicate 7 false ++ bits) =
      some (0, List.replicate 5 false ++ bits) := fun _ => rfl
  have halign : ∀ bytes : List UInt8,
      alignToByte (List.replicate 5 false ++ bitsOfBytes bytes) = bitsOfBytes bytes := by
    intro bytes
    have hlength : (List.replicate 5 false ++ bitsOfBytes bytes).length % 8 = 5 := by
      rw [List.length_append, length_bitsOfBytes, List.length_replicate]
      omega
    rw [alignToByte, hlength]
    rfl
  have hfirst := takeNumber_littleEndian hsize
  have hsecond := takeNumber_littleEndian hcomplement
  simp only [Nat.reduceMul] at hfirst hsecond
  simp only [inflateBlock, hkind, Option.bind_eq_bind, Option.bind_some, if_true, inflateStored,
    halign]
  simp only [bitsOfBytes_append, List.append_assoc, hfirst, hsecond, Option.bind_some, hsum,
    ne_eq, not_true_eq_false, if_false, takeBytes_bitsOfBytes]

/-- The mark of a block, and the padding after it. -/
theorem takeNumber_mark (last : Bool) (bits : List Bool) :
    takeNumber 1 (bitsOf 8 (if last then (1 : UInt8) else 0).toNat ++ bits) =
      some (if last then 1 else 0, List.replicate 7 false ++ bits) := by
  cases last <;> rfl

/-- Stored blocks are read back, with any bits after them.  The induction is on the blocks that were
written; the reader has at least as many turns. -/
theorem inflateBlocks_storeBlocks (blocks turns : Nat) (out : Array UInt8)
    (bytes rest : List UInt8) (hroom : bytes.length < storedLimit * blocks)
    (hturns : blocks ≤ turns) :
    inflateBlocks turns out (bitsOfBytes (storeBlocks blocks bytes ++ rest)) =
      some (out ++ bytes.toArray, bitsOfBytes rest) := by
  induction blocks generalizing turns out bytes with
  | zero => omega
  | succ blocks ih =>
      obtain ⟨turns, rfl⟩ : ∃ t, turns = t + 1 := ⟨turns - 1, by omega⟩
      have hnow : (bytes.take storedLimit).length ≤ storedLimit := List.length_take_le ..
      by_cases hlast : bytes.length ≤ storedLimit
      · have hall : bytes.take storedLimit = bytes := List.take_of_length_le hlast
        have hblock := inflateBlock_stored out hlast rest
        have hmark := takeNumber_mark true
        simp only [if_true] at hmark
        simp only [storeBlocks, hlast, if_true, hall, List.append_nil, List.cons_append,
          bitsOfBytes_cons, inflateBlocks, hmark, hblock]
      · have hrest : (bytes.drop storedLimit).length < storedLimit * blocks := by
          rw [List.length_drop]
          rw [Nat.mul_succ] at hroom
          omega
        have hblock := inflateBlock_stored out hnow
          (storeBlocks blocks (bytes.drop storedLimit) ++ rest)
        have hlater := ih turns (out ++ (bytes.take storedLimit).toArray)
          (bytes.drop storedLimit) hrest (by omega)
        have hmark := takeNumber_mark false
        simp only [Bool.false_eq_true, if_false] at hmark
        have hjoin : (out ++ (bytes.take storedLimit).toArray) ++
            (bytes.drop storedLimit).toArray = out ++ bytes.toArray := by
          apply Array.toList_inj.mp
          simp
        simp only [List.append_assoc] at hblock
        simp only [storeBlocks, hlast, if_false, List.cons_append, List.append_assoc,
          bitsOfBytes_cons, inflateBlocks, hmark, hblock, Nat.zero_ne_one, hlater, hjoin]

/-- A stored stream is no shorter than its contents. -/
theorem length_le_storeBlocks (blocks : Nat) (bytes : List UInt8)
    (hroom : bytes.length < storedLimit * blocks) :
    bytes.length ≤ (storeBlocks blocks bytes).length := by
  induction blocks generalizing bytes with
  | zero => omega
  | succ blocks ih =>
      have htake : (bytes.take storedLimit).length = min storedLimit bytes.length :=
        List.length_take ..
      by_cases hlast : bytes.length ≤ storedLimit
      · simp only [storeBlocks, List.length_append, List.length_cons, htake]
        omega
      · have hrest : (bytes.drop storedLimit).length < storedLimit * blocks := by
          rw [List.length_drop]
          rw [Nat.mul_succ] at hroom
          omega
        have hlater := ih _ hrest
        rw [List.length_drop] at hlater
        simp only [storeBlocks, hlast, if_false, List.length_append, List.length_cons, htake]
        omega

/-- A stored stream is read back, with any bits after it. -/
theorem inflate_store (bytes rest : List UInt8) :
    inflate (bitsOfBytes (store bytes ++ rest)) = some (bytes, bitsOfBytes rest) := by
  have hroom : bytes.length < storedLimit * (bytes.length / storedLimit + 1) :=
    Nat.lt_mul_div_succ _ (by decide)
  have hlength := length_le_storeBlocks _ bytes hroom
  have hturns : bytes.length / storedLimit + 1 ≤
      (bitsOfBytes (store bytes ++ rest)).length + 1 := by
    have hdiv : bytes.length / storedLimit ≤ bytes.length := Nat.div_le_self ..
    rw [length_bitsOfBytes, List.length_append, store]
    omega
  have hblocks := inflateBlocks_storeBlocks _ _ #[] bytes rest hroom hturns
  unfold inflate
  rw [show inflateBlocks _ #[] (bitsOfBytes (store bytes ++ rest)) = _ from hblocks]
  simp

/-! ## Files -/

/-- A file is read back as it was written. -/
theorem decompress_compress (bytes : List UInt8) : decompress (compress bytes) = some bytes := by
  have hheader : skipHeader (compress bytes) =
      some (store bytes ++ (littleEndian 4 (crc32 bytes).toNat ++
        littleEndian 4 (bytes.length % UInt32.size))) := by
    simp [compress, plainHeader, skipHeader, skipBytes, skipIf, List.append_assoc]
  have hchecksum : (crc32 bytes).toNat < 2 ^ (8 * 4) := (crc32 bytes).toNat_lt
  have hsize : bytes.length % UInt32.size < 2 ^ (8 * 4) := Nat.mod_lt _ (by decide)
  have hfirst := takeNumber_littleEndian hchecksum
    (bitsOfBytes (littleEndian 4 (bytes.length % UInt32.size)))
  have hsecond := takeNumber_littleEndian hsize []
  rw [← bitsOfBytes_append] at hfirst
  rw [List.append_nil] at hsecond
  simp only [Nat.reduceMul] at hfirst hsecond
  simp only [decompress, hheader, Option.bind_eq_bind, Option.bind_some, inflate_store,
    alignToByte_bitsOfBytes, hfirst, hsecond, and_self, if_true]

end Compression
end SupplierGateway
