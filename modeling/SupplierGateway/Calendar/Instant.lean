import SupplierGateway.Calendar.Date
import SupplierGateway.Text.Blank

/-!
# Instants and their text

An instant is a number of nanoseconds since the beginning of 1970 in universal time.

The accepted text is a date, any single separator that is one byte long, a time of day with an
optional fraction of a second, and an offset, with blanks around the whole.  Digits past the ninth
of a fraction are ignored.  A sixtieth second is accepted only in the last minute of a month in
universal time, and stands for the last nanosecond before it.

An instant is written in universal time, with as much of the fraction as is not zero.  Only years
from zero to 9999 can be written: an earlier instant has an empty text, and reading a text whose
instant lies later crashes.
-/

namespace SupplierGateway
namespace Calendar

/-- A point in time. -/
structure Instant where
  nanos : Int
deriving DecidableEq, Repr

instance : LT Instant := ⟨fun a b => a.nanos < b.nanos⟩
instance : LE Instant := ⟨fun a b => a.nanos ≤ b.nanos⟩
instance (a b : Instant) : Decidable (a < b) := inferInstanceAs (Decidable (a.nanos < b.nanos))
instance (a b : Instant) : Decidable (a ≤ b) := inferInstanceAs (Decidable (a.nanos ≤ b.nanos))

/-- Nanoseconds in a second. -/
def nanosPerSecond : Int := 1000000000

/-- Nanoseconds in a day of twenty-four hours. -/
def nanosPerDay : Int := 86400 * nanosPerSecond

/-- The last year that has a text. -/
def lastYear : Int := 9999

/-- The reasons for which a text gives no instant. -/
inductive InstantFault where
  /-- The text is not of the accepted form, or names a date or time that does not exist. -/
  | unreadable
  /-- The text is of the accepted form, but its year in universal time is past 9999. -/
  | beyondCalendar
deriving DecidableEq, Repr

/-! ## Reading -/

/-- The number that the first `n` characters spell, when all of them are decimal digits. -/
def takeNumber (n : Nat) (cs : List Char) : Option (Nat × List Char) :=
  let digits := cs.take n
  if digits.length = n ∧ digits.all Char.isDigit then
    some (digits.foldl (fun v c => 10 * v + (c.toNat - 48)) 0, cs.drop n)
  else none

/-- Drops one given character. -/
def takeChar (c : Char) : List Char → Option (List Char)
  | d :: rest => if c = d then some rest else none
  | [] => none

/-- Drops one character of a single byte, whichever it is. -/
def takeSeparator : List Char → Option (List Char)
  | c :: rest => if c.toNat < 128 then some rest else none
  | [] => none

/-- The nanoseconds that the digits after the point stand for. -/
def fractionNanos (digits : List Char) : Nat :=
  let nine := (digits ++ List.replicate 9 '0').take 9
  nine.foldl (fun v c => 10 * v + (c.toNat - 48)) 0

/-- An optional fraction of a second, in nanoseconds. -/
def takeFraction (cs : List Char) : Option (Nat × List Char) :=
  match cs with
  | '.' :: rest =>
      let digits := rest.takeWhile Char.isDigit
      if digits.isEmpty then none
      else some (fractionNanos digits, rest.dropWhile Char.isDigit)
  | _ => some (0, cs)

/-- An offset from universal time, in seconds, that ends the text. -/
def takeOffset : List Char → Option Int
  | ['Z'] => some 0
  | ['z'] => some 0
  | sign :: rest => do
      let direction : Int ← if sign = '+' then some 1 else if sign = '-' then some (-1) else none
      let (hours, rest) ← takeNumber 2 rest
      let rest ← takeChar ':' rest
      let (minutes, rest) ← takeNumber 2 rest
      if hours ≤ 23 ∧ minutes ≤ 59 ∧ rest = [] then
        some (direction * ((hours * 60 + minutes) * 60 : Nat))
      else none
  | [] => none

/-- A date and time of day with its offset, as written. -/
structure Written where
  date : Date
  hour : Nat
  minute : Nat
  second : Nat
  nanos : Nat
  offset : Int
deriving DecidableEq, Repr

/-- Reads the parts of a text without looking at their ranges. -/
def Written.read (cs : List Char) : Option Written := do
  let (year, cs) ← takeNumber 4 cs
  let cs ← takeChar '-' cs
  let (month, cs) ← takeNumber 2 cs
  let cs ← takeChar '-' cs
  let (day, cs) ← takeNumber 2 cs
  let cs ← takeSeparator cs
  let (hour, cs) ← takeNumber 2 cs
  let cs ← takeChar ':' cs
  let (minute, cs) ← takeNumber 2 cs
  let cs ← takeChar ':' cs
  let (second, cs) ← takeNumber 2 cs
  let (nanos, cs) ← takeFraction cs
  let offset ← takeOffset cs
  some { date := { year := year, month, day }, hour, minute, second, nanos, offset }

/-- The instant of a date and time of day with an offset. -/
def Written.instant (w : Written) : Instant :=
  let seconds := 86400 * w.date.dayNumber + ((w.hour * 60 + w.minute) * 60 + w.second : Nat)
  { nanos := (seconds - w.offset) * nanosPerSecond + w.nanos }

/-- The date and time of day exist, the second being at most 59. -/
def Written.occurs (w : Written) : Bool :=
  w.date.valid && w.hour ≤ 23 && w.minute ≤ 59 && w.second ≤ 59

/-- The date in universal time. -/
def Instant.date (i : Instant) : Date :=
  Date.ofDayNumber (i.nanos / nanosPerDay)

/-- The last nanosecond of a month in universal time. -/
def Instant.endsMonth (i : Instant) : Bool :=
  let d := i.date
  i.nanos % nanosPerDay == nanosPerDay - 1 && d.day == monthLength d.year d.month

/-- The instant that a text names. -/
def Instant.parse (s : String) : Except InstantFault Instant :=
  match Written.read (Text.trimChars s.toList) with
  | none => .error .unreadable
  | some w =>
      if w.second = 60 then
        let last := { w with second := 59, nanos := 999999999 }
        if last.occurs ∧ last.instant.endsMonth ∧ last.instant.date.year ≤ lastYear then
          .ok last.instant
        else .error .unreadable
      else if w.occurs then
        if w.instant.date.year ≤ lastYear then .ok w.instant else .error .beyondCalendar
      else .error .unreadable

/-! ## Writing -/

/-- The last `width` decimal digits of a number, with leading zeros. -/
def padded : Nat → Nat → List Char
  | 0, _ => []
  | width + 1, n => padded width (n / 10) ++ [Char.ofNat (48 + n % 10)]

/-- The fraction of a second as it is written: nothing for zero, and no zeros at its end. -/
def fractionChars (nanos : Nat) : List Char :=
  if nanos = 0 then []
  else '.' :: Text.dropTrailing (· == '0') (padded 9 nanos)

/-- The text of an instant, empty when its year cannot be written. -/
def Instant.text (i : Instant) : String :=
  let d := i.date
  let ofDay := (i.nanos % nanosPerDay).toNat
  let seconds := ofDay / 1000000000
  if 0 ≤ d.year ∧ d.year ≤ lastYear then
    String.ofList <|
      padded 4 d.year.toNat ++ '-' :: padded 2 d.month ++ '-' :: padded 2 d.day ++
        'T' :: padded 2 (seconds / 3600) ++ ':' :: padded 2 (seconds / 60 % 60) ++
        ':' :: padded 2 (seconds % 60) ++ fractionChars (ofDay % 1000000000) ++ ['Z']
  else ""

/-! ## Rental days -/

/-- The number of days that are billed from one instant to a later one: a begun day counts as a
whole one.  Nothing is billed when the second instant is not later. -/
def Instant.rentalDaysUntil (start finish : Instant) : UInt32 :=
  let span := finish.nanos - start.nanos
  if span ≤ 0 then 0
  else
    let whole := span / nanosPerDay
    let begun := if whole * nanosPerDay < span then 1 else 0
    UInt32.ofNat (min (whole + begun).toNat (UInt32.size - 1))

end Calendar
end SupplierGateway
