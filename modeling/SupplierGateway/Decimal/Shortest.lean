/-!
# The shortest decimal that reads back

A finite binary fraction of double precision is written with the fewest significant digits that
still lie in the interval of reals rounding to it.  Among the decimals with that many digits the
one nearest to the value is taken, and of two equally near ones the even one.  All arithmetic is
exact arithmetic on natural numbers.
-/

namespace SupplierGateway
namespace Decimal

/-- The number of decimal digits of `n`, with none for zero. -/
def digitCount (n : Nat) : Nat :=
  if n = 0 then 0 else (Nat.toDigits 10 n).length

/-- A positive rational as numerator and denominator. -/
structure Ratio where
  num : Nat
  den : Nat
deriving DecidableEq, Repr

/-- A positive binary fraction with the ends of the interval of reals that round to it, all over
one denominator.  The ends belong to the interval exactly when the significand is even. -/
structure Interval where
  low : Nat
  value : Nat
  high : Nat
  den : Nat
  closed : Bool
deriving DecidableEq, Repr

/-- The interval around a positive double, given by the low 63 bits of its representation. -/
def Interval.ofBits (bits : Nat) : Interval :=
  let field := bits / Nat.pow 2 52
  let fraction := bits % Nat.pow 2 52
  let significand := if field = 0 then fraction else fraction + Nat.pow 2 52
  -- The value is `4 * significand * 2 ^ shift / 2 ^ 1076`.
  let shift := if field = 0 then 0 else field - 1
  let below := if fraction = 0 && field > 1 then 1 else 2
  let scale := Nat.pow 2 shift
  { low := (4 * significand - below) * scale
    value := 4 * significand * scale
    high := (4 * significand + 2) * scale
    den := Nat.pow 2 1076
    closed := significand % 2 == 0 }

/-- The decimal exponent `e` with `10 ^ e ≤ r < 10 ^ (e + 1)`. -/
def Ratio.magnitude (r : Ratio) : Int :=
  if r.den ≤ r.num then (digitCount (r.num / r.den) : Int) - 1
  else
    -- The least `j` with `r.den ≤ r.num * 10 ^ j`.
    -(digitCount ((r.den + r.num - 1) / r.num - 1) : Int)

/-- A decimal `digits * 10 ^ exponent`. -/
structure Scaled where
  digits : Nat
  exponent : Int
deriving DecidableEq, Repr

/-- A candidate lies in the interval.  The candidate is `c * 10 ^ k`, compared after both sides
have been multiplied by `den * 10 ^ max 0 (-k)`. -/
def Interval.contains (i : Interval) (c : Nat) (k : Int) : Bool :=
  let point := c * Nat.pow 10 k.toNat * i.den
  let low := i.low * Nat.pow 10 (-k).toNat
  let high := i.high * Nat.pow 10 (-k).toNat
  if i.closed then low ≤ point && point ≤ high else low < point && point < high

/-- The candidate on the grid of multiples of `10 ^ k` that lies in the interval, if any: the
neighbour of the value that is nearer to it, the even one when both are equally near. -/
def Interval.onGrid (i : Interval) (k : Int) : Option Nat :=
  let top := i.value * Nat.pow 10 (-k).toNat
  let unit := i.den * Nat.pow 10 k.toNat
  let c := top / unit
  let rest := 2 * (top % unit)
  let downFirst := rest < unit || (rest == unit && c % 2 == 0)
  let (first, second) := if downFirst then (c, c + 1) else (c + 1, c)
  if i.contains first k then some first
  else if i.contains second k then some second
  else none

/-- Tries grids from coarse to fine.  Seventeen digits always suffice, so the bound on the number
of grids is never reached. -/
def Interval.searchGrids (i : Interval) (k : Int) : Nat → Scaled
  | 0 => { digits := 0, exponent := 0 }
  | grids + 1 =>
      match i.onGrid k with
      | some c => { digits := c, exponent := k }
      | none => i.searchGrids (k - 1) grids

/-- Moves trailing zeros of the digits into the exponent. -/
def Scaled.normalise (s : Scaled) : Scaled :=
  if s.digits = 10 then { digits := 1, exponent := s.exponent + 1 } else s

/-- The shortest decimal that reads back as the positive finite double with these bits. -/
def shortest (bits : Nat) : Scaled :=
  let i := Interval.ofBits bits
  let k := (Ratio.magnitude { num := i.value, den := i.den })
  (i.searchGrids k 18).normalise

/-- How a decimal is laid out. -/
structure Layout where
  /-- Decimal exponents of the leading digit from here on use an exponent mark. -/
  exponentFrom : Option Int
  /-- Decimal exponents of the leading digit below this use an exponent mark. -/
  exponentBelow : Option Int
  /-- A whole number ends in a point and a zero. -/
  pointZero : Bool

/-- Interchange text: positional from `1e-5` up to below `1e16`, and always with a point or an
exponent. -/
def Layout.interchange : Layout :=
  { exponentFrom := some 16, exponentBelow := some (-5), pointZero := true }

/-- Text for readers: always positional, and a whole number shows no point. -/
def Layout.plain : Layout :=
  { exponentFrom := none, exponentBelow := none, pointZero := false }

private def zeros (n : Nat) : String := String.ofList (List.replicate n '0')

/-- The text of a positive decimal. -/
def Layout.render (layout : Layout) (s : Scaled) : String :=
  let digits := Nat.toDigits 10 s.digits
  let count : Int := digits.length
  let lead := s.exponent + count - 1
  let useExponent :=
    layout.exponentFrom.any (fun bound => bound ≤ lead) ||
      layout.exponentBelow.any (fun bound => lead < bound)
  if useExponent then
    let fraction := String.ofList (digits.drop 1)
    String.ofList (digits.take 1) ++ (if fraction.isEmpty then "" else "." ++ fraction) ++
      (if lead < 0 then "e-" else "e+") ++ toString lead.natAbs
  else if 0 ≤ s.exponent then
    String.ofList digits ++ zeros s.exponent.toNat ++ (if layout.pointZero then ".0" else "")
  else
    let places := (-s.exponent).toNat
    if places < digits.length then
      String.ofList (digits.take (digits.length - places)) ++ "." ++
        String.ofList (digits.drop (digits.length - places))
    else "0." ++ zeros (places - digits.length) ++ String.ofList digits

/-- The text of a finite double.  The sign of zero is kept. -/
def Layout.text (layout : Layout) (x : Float) : String :=
  let bits := x.toBits.toNat
  let magnitude := bits % Nat.pow 2 63
  let sign := if bits < Nat.pow 2 63 then "" else "-"
  if magnitude = 0 then sign ++ (if layout.pointZero then "0.0" else "0")
  else sign ++ layout.render (shortest magnitude)

end Decimal
end SupplierGateway
