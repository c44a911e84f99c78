/-!
# Percent-encoding of one path segment

A segment is written byte by byte from its UTF-8 form.  Letters, digits and `-`, `_`, `.`, `~` are
unreserved and stand for themselves; every other byte becomes `%` and two upper-case hexadecimal
digits.  Decoding reverses this, and refuses a text whose bytes are not UTF-8 or whose `%` is not
followed by two hexadecimal digits.
-/

namespace SupplierGateway
namespace Text
namespace Percent

/-- The characters that need no encoding inside a segment. -/
def unreserved (c : Char) : Bool :=
  c.isAlphanum || c == '-' || c == '_' || c == '.' || c == '~'

/-- The upper-case hexadecimal digit of a number below sixteen. -/
def hexDigit (n : Nat) : Char :=
  if n < 10 then Char.ofNat (48 + n) else Char.ofNat (55 + n)

/-- The number that a hexadecimal digit of either case stands for. -/
def hexValue (c : Char) : Option Nat :=
  let n := c.toNat
  if 48 ≤ n ∧ n ≤ 57 then some (n - 48)
  else if 65 ≤ n ∧ n ≤ 70 then some (n - 55)
  else if 97 ≤ n ∧ n ≤ 102 then some (n - 87)
  else none

/-- The written form of one byte. -/
def encodeByte (b : UInt8) : List Char :=
  let c := Char.ofNat b.toNat
  if unreserved c then [c] else ['%', hexDigit (b.toNat / 16), hexDigit (b.toNat % 16)]

/-- The written form of a text. -/
def encode (s : String) : String :=
  String.ofList (s.toByteArray.data.toList.flatMap encodeByte)

/-- The bytes that a written form stands for. -/
def decodeBytes : List Char → Option (List UInt8)
  | [] => some []
  | '%' :: high :: low :: rest =>
      match hexValue high, hexValue low, decodeBytes rest with
      | some h, some l, some bytes => some (UInt8.ofNat (16 * h + l) :: bytes)
      | _, _, _ => none
  | c :: rest =>
      if unreserved c then (decodeBytes rest).map (UInt8.ofNat c.toNat :: ·) else none

/-- The text that a written form stands for. -/
def decode (s : String) : Option String :=
  (decodeBytes s.toList).bind fun bytes => String.fromUTF8? ⟨bytes.toArray⟩

end Percent
end Text
end SupplierGateway
