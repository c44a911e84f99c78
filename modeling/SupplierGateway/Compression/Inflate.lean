import SupplierGateway.Compression.Bits
import SupplierGateway.Compression.Huffman

/-!
# Inflating

A deflated stream is a sequence of blocks, the last of which is marked.  A stored block holds bytes
as they are.  A compressed block holds symbols of a prefix code: a byte, the end of the block, or a
length that is followed by a distance and repeats bytes written before.  The codes of a compressed
block are fixed or stand in front of it, compressed themselves.

Every turn of a loop reads at least one bit, so the number of bits bounds the number of turns.
-/

namespace SupplierGateway
namespace Compression

/-- The first length and the number of further bits of each length symbol, from symbol 257 on. -/
def lengthCodes : List (Nat × Nat) := [
    (3, 0), (4, 0), (5, 0), (6, 0), (7, 0), (8, 0), (9, 0), (10, 0), (11, 1), (13, 1), (15, 1),
    (17, 1), (19, 2), (23, 2), (27, 2), (31, 2), (35, 3), (43, 3), (51, 3), (59, 3), (67, 4),
    (83, 4), (99, 4), (115, 4), (131, 5), (163, 5), (195, 5), (227, 5), (258, 0)]

/-- The first distance and the number of further bits of each distance symbol. -/
def distanceCodes : List (Nat × Nat) := [
    (1, 0), (2, 0), (3, 0), (4, 0), (5, 1), (7, 1), (9, 2), (13, 2), (17, 3), (25, 3), (33, 4),
    (49, 4), (65, 5), (97, 5), (129, 6), (193, 6), (257, 7), (385, 7), (513, 8), (769, 8),
    (1025, 9), (1537, 9), (2049, 10), (3073, 10), (4097, 11), (6145, 11), (8193, 12), (12289, 12),
    (16385, 13), (24577, 13)]

/-- Reads the further bits of a symbol. -/
def takeExtra (codes : List (Nat × Nat)) (index : Nat) (bits : List Bool) :
    Option (Nat × List Bool) :=
  match codes[index]? with
  | none => none
  | some (base, extra) => (takeNumber extra bits).map fun (n, left) => (base + n, left)

/-- Repeats `count` bytes that stand `distance` bytes before the end. -/
def copyBack (distance : Nat) : Nat → Array UInt8 → Option (Array UInt8)
  | 0, out => some out
  | count + 1, out =>
      if distance = 0 ∨ out.size < distance then none
      else
        match out[out.size - distance]? with
        | some b => copyBack distance count (out.push b)
        | none => none

/-- Reads the symbols of a block. -/
def inflateSymbols (literals distances : CodeTree) :
    Nat → Array UInt8 → List Bool → Option (Array UInt8 × List Bool)
  | 0, _, _ => none
  | turns + 1, out, bits =>
      match literals.decode bits with
      | none => none
      | some (symbol, rest) =>
          if symbol < 256 then
            inflateSymbols literals distances turns (out.push (UInt8.ofNat symbol)) rest
          else if symbol = 256 then some (out, rest)
          else
            match takeExtra lengthCodes (symbol - 257) rest with
            | none => none
            | some (length, rest) =>
                match distances.decode rest with
                | none => none
                | some (index, rest) =>
                    match takeExtra distanceCodes index rest with
                    | none => none
                    | some (distance, rest) =>
                        match copyBack distance length out with
                        | none => none
                        | some out => inflateSymbols literals distances turns out rest

/-- The lengths of the fixed code for literals and lengths. -/
def fixedLiteralLengths : List Nat :=
  List.replicate 144 8 ++ List.replicate 112 9 ++ List.replicate 24 7 ++ List.replicate 8 8

/-- The lengths of the fixed code for distances. -/
def fixedDistanceLengths : List Nat := List.replicate 32 5

/-- The order in which the lengths of the code for lengths are stored. -/
def lengthOrder : List Nat :=
  [16, 17, 18, 0, 8, 7, 9, 6, 10, 5, 11, 4, 12, 3, 13, 2, 14, 1, 15]

/-- Reads `count` numbers of three bits. -/
def takeTriples : Nat → List Bool → Option (List Nat × List Bool)
  | 0, bits => some ([], bits)
  | count + 1, bits =>
      match takeNumber 3 bits with
      | none => none
      | some (n, rest) => (takeTriples count rest).map fun (ns, left) => (n :: ns, left)

/-- Reads code lengths up to a total.  The lengths read so far are in reverse order. -/
def takeLengths (code : CodeTree) (total : Nat) :
    Nat → List Nat → List Bool → Option (List Nat × List Bool)
  | 0, _, _ => none
  | turns + 1, lengths, bits =>
      if lengths.length = total then some (lengths.reverse, bits)
      else if lengths.length > total then none
      else
        match code.decode bits with
        | none => none
        | some (symbol, rest) =>
            if symbol < 16 then takeLengths code total turns (symbol :: lengths) rest
            else
              let (width, base) :=
                if symbol = 16 then (2, 3) else if symbol = 17 then (3, 3) else (7, 11)
              match symbol, lengths, takeNumber width rest with
              | 16, [], _ => none
              | _, _, none => none
              | 16, last :: _, some (n, rest) =>
                  takeLengths code total turns (List.replicate (base + n) last ++ lengths) rest
              | _, _, some (n, rest) =>
                  takeLengths code total turns (List.replicate (base + n) 0 ++ lengths) rest

/-- Reads the codes in front of a compressed block. -/
def takeCodes (bits : List Bool) : Option (CodeTree × CodeTree × List Bool) := do
  let (literalCount, bits) ← takeNumber 5 bits
  let (distanceCount, bits) ← takeNumber 5 bits
  let (lengthCount, bits) ← takeNumber 4 bits
  let literalCount := literalCount + 257
  let distanceCount := distanceCount + 1
  if literalCount > 286 ∨ distanceCount > 30 then none
  else
    let (triples, bits) ← takeTriples (lengthCount + 4) bits
    let stored := lengthOrder.zip triples
    let lengthCode ← CodeTree.ofLengths ((List.range 19).map fun i => (stored.lookup i).getD 0)
    let total := literalCount + distanceCount
    let (lengths, bits) ← takeLengths lengthCode total (total + 1) [] bits
    let literals ← CodeTree.ofLengths (lengths.take literalCount)
    let distances ← CodeTree.ofLengths (lengths.drop literalCount)
    some (literals, distances, bits)

/-- Reads a stored block. -/
def inflateStored (out : Array UInt8) (bits : List Bool) :
    Option (Array UInt8 × List Bool) := do
  let (size, bits) ← takeNumber 16 (alignToByte bits)
  let (complement, bits) ← takeNumber 16 bits
  if size + complement ≠ 65535 then none
  else
    let (bytes, bits) ← takeBytes size bits
    some (out ++ bytes.toArray, bits)

/-- Reads one block after its mark. -/
def inflateBlock (out : Array UInt8) (bits : List Bool) : Option (Array UInt8 × List Bool) := do
  let (kind, bits) ← takeNumber 2 bits
  if kind = 0 then inflateStored out bits
  else if kind = 1 then
    let literals ← CodeTree.ofLengths fixedLiteralLengths
    let distances ← CodeTree.ofLengths fixedDistanceLengths
    inflateSymbols literals distances (bits.length + 1) out bits
  else if kind = 2 then
    let (literals, distances, bits) ← takeCodes bits
    inflateSymbols literals distances (bits.length + 1) out bits
  else none

/-- Reads blocks up to the last. -/
def inflateBlocks : Nat → Array UInt8 → List Bool → Option (Array UInt8 × List Bool)
  | 0, _, _ => none
  | turns + 1, out, bits =>
      match takeNumber 1 bits with
      | none => none
      | some (last, rest) =>
          match inflateBlock out rest with
          | none => none
          | some (out, rest) =>
              if last = 1 then some (out, rest) else inflateBlocks turns out rest

/-- Reads a deflated stream: the bytes it stands for, and the bits after it. -/
def inflate (bits : List Bool) : Option (List UInt8 × List Bool) :=
  (inflateBlocks (bits.length + 1) #[] bits).map fun (out, rest) => (out.toList, rest)

/-! ## Stored streams -/

/-- The most bytes of a stored block. -/
def storedLimit : Nat := 65535

/-- Writes bytes as stored blocks, whose mark and alignment take a byte. -/
def storeBlocks : Nat → List UInt8 → List UInt8
  | 0, _ => []
  | blocks + 1, bytes =>
      let now := bytes.take storedLimit
      let last := bytes.length ≤ storedLimit
      (if last then 1 else 0) :: littleEndian 2 now.length ++
        littleEndian 2 (65535 - now.length) ++ now ++
        (if last then [] else storeBlocks blocks (bytes.drop storedLimit))

/-- A deflated stream that stands for the given bytes. -/
def store (bytes : List UInt8) : List UInt8 :=
  storeBlocks (bytes.length / storedLimit + 1) bytes

end Compression
end SupplierGateway
