import SupplierGateway.Json.Value

/-!
# Number literals and the numbers they denote

A literal without fraction and exponent denotes a natural number or a negative integer when that
fits one machine word.  Every other literal denotes a double, found from a significand of one
machine word and a power of ten by one multiplication or division: digits that no longer fit the
significand count as powers of ten before the point and are ignored after it.  A literal whose
double would be infinite denotes nothing.  Minus zero is a double, because no integer keeps its
sign.
-/

namespace SupplierGateway
namespace Json

/-- The parts of a number literal, digit by digit. -/
structure Literal where
  negative : Bool
  whole : List Nat
  fraction : List Nat
  /-- Whether the exponent is negative, and its digits. -/
  exponent : Option (Bool × List Nat)
deriving DecidableEq, Repr

/-- Appends a digit to a significand while the result still fits one machine word. -/
def appendDigit (significand digit : Nat) : Option Nat :=
  let next := 10 * significand + digit
  if next < UInt64.size then some next else none

/-- Reads the digits before the point: the significand, and how many digits did not fit. -/
def wholeDigits : List Nat → Nat → Nat × Nat
  | [], significand => (significand, 0)
  | d :: rest, significand =>
      match appendDigit significand d with
      | some next => wholeDigits rest next
      | none => (significand, (d :: rest).length)

/-- Reads the digits after the point: the significand, and how many digits went into it.  The
first digit that does not fit ends the reading. -/
def fractionDigits : List Nat → Nat → Nat → Nat × Nat
  | [], significand, taken => (significand, taken)
  | d :: rest, significand, taken =>
      match appendDigit significand d with
      | some next => fractionDigits rest next (taken + 1)
      | none => (significand, taken)

/-- The number that a list of digits denotes. -/
def digitsValue (digits : List Nat) : Nat :=
  digits.foldl (fun n d => 10 * n + d) 0

/-- The double `10 ^ n`, for `n` up to 308. -/
def tenTo (n : Nat) : Float := Float.ofScientific 1 false n

/-- Divides by `10 ^ n`, in steps whose powers of ten are doubles.  It stops early at zero. -/
def divideByTenTo (x : Float) (n : Nat) : Float :=
  if n ≤ 308 then x / tenTo n
  else if x == 0.0 then x
  else divideByTenTo (x / tenTo 308) (n - 308)
termination_by n

/-- The double `significand * 10 ^ exponent`, rounded after each operation, unless it is
infinite. -/
def scaledDouble (significand : Nat) (exponent : Int) : Option Float :=
  let x := (UInt64.ofNat significand).toFloat
  if exponent < 0 then some (divideByTenTo x exponent.natAbs)
  else if exponent ≤ 308 then
    let y := x * tenTo exponent.toNat
    if y.isInf then none else some y
  else if x == 0.0 then some x
  else none

/-- The largest exponent that is followed digit by digit. -/
def exponentLimit : Nat := 2147483647

/-- The double that a literal denotes. -/
def Literal.double? (l : Literal) : Option Float :=
  let (wholePart, skipped) := wholeDigits l.whole 0
  let (significand, taken) := fractionDigits l.fraction wholePart 0
  let start : Int := (skipped : Int) - taken
  let magnitude :=
    match l.exponent with
    | none => scaledDouble significand start
    | some (down, digits) =>
        let size := digitsValue digits
        if exponentLimit < size then
          if significand ≠ 0 && !down then none else some 0.0
        else scaledDouble significand (if down then start - size else start + size)
  magnitude.map fun x => if l.negative then -x else x

/-- The number that a literal denotes, if any. -/
def Literal.number? (l : Literal) : Option Number :=
  let n := digitsValue l.whole
  if l.fraction.isEmpty && l.exponent.isNone then
    if !l.negative && n < UInt64.size then some (.natural (UInt64.ofNat n))
    else if l.negative && 0 < n && n ≤ UInt64.size / 2 then some (.negative (UInt64.ofNat n))
    else l.double?.map .fraction
  else l.double?.map .fraction

end Json
end SupplierGateway
