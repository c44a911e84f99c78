import Mathlib.Algebra.Ring.Nat
import Mathlib.Data.List.Induction
import SupplierGateway.Calendar.Instant
import SupplierGateway.Proofs.Calendar.DayNumbers

/-!
# The parts of the text of an instant

A text is read part by part, and its parts determine whether it names an instant and which.

* `spelled`, `takeNumber_padded` and `takeNumber_lt` — numbers of a fixed width;
* `takeFraction_fractionChars` — fractions of a second, with and without zeros at their end;
* `takeOffset_bounds` — offsets are whole minutes of less than a day;
* `Written.ofText` and `Written.InRange` — the parts of a text, and the ranges in which they lie;
* `Instant.parse_of_leap` and `Instant.parse_of_plain` — how the parts are read;
* `Instant.parse_eq_ok_iff` and `Instant.parse_eq_beyond_iff` — which parts name an instant.
-/

namespace SupplierGateway
namespace Calendar

/-! ## Numbers -/

/-- The number that decimal digits spell. -/
def spelled (digits : List Char) : Nat := digits.foldl (fun v c => 10 * v + (c.toNat - 48)) 0

theorem spelled_concat (digits : List Char) (c : Char) :
    spelled (digits ++ [c]) = 10 * spelled digits + (c.toNat - 48) := by
  simp [spelled]

theorem isDigit_digit : ∀ n < 10, (Char.ofNat (48 + n)).isDigit = true := by decide

theorem toNat_digit : ∀ n < 10, (Char.ofNat (48 + n)).toNat - 48 = n := by decide

theorem toNat_sub_lt_of_isDigit {c : Char} (hdigit : c.isDigit = true) : c.toNat - 48 < 10 := by
  have hle : c.val.toNat ≤ 57 := by
    simp only [Char.isDigit, Bool.and_eq_true, decide_eq_true_eq] at hdigit
    exact UInt32.le_iff_toNat_le.mp hdigit.2
  have hval : c.toNat = c.val.toNat := rfl
  omega

/-- Digits spell a number of no more digits. -/
theorem spelled_lt {digits : List Char} (hdigits : ∀ c ∈ digits, c.isDigit = true) :
    spelled digits < Nat.pow 10 digits.length := by
  induction digits using List.reverseRecOn with
  | nil => decide
  | append_singleton digits c ih =>
      have hbefore := ih fun d hd => hdigits d (List.mem_append_left _ hd)
      have hlast := toNat_sub_lt_of_isDigit (hdigits c (by simp))
      have hpow : Nat.pow 10 (digits.length + 1) = 10 * Nat.pow 10 digits.length := Nat.mul_comm _ 10
      rw [spelled_concat, List.length_append, List.length_singleton, hpow]
      omega

@[simp] theorem length_padded (width n : Nat) : (padded width n).length = width := by
  induction width generalizing n with
  | zero => rfl
  | succ width ih => simp [padded, ih]

theorem isDigit_of_mem_padded {width n : Nat} {c : Char} (hc : c ∈ padded width n) :
    c.isDigit = true := by
  induction width generalizing n with
  | zero => cases hc
  | succ width ih =>
      rw [padded, List.mem_append, List.mem_singleton] at hc
      rcases hc with hc | rfl
      · exact ih hc
      · exact isDigit_digit _ (Nat.mod_lt _ (by decide))

/-- The last `width` digits of a number spell its remainder. -/
theorem spelled_padded (width n : Nat) : spelled (padded width n) = n % Nat.pow 10 width := by
  induction width generalizing n with
  | zero => simp [padded, spelled, Nat.mod_one]
  | succ width ih =>
      have hpow : Nat.pow 10 (width + 1) = 10 * Nat.pow 10 width := Nat.mul_comm _ 10
      rw [padded, spelled_concat, ih, toNat_digit _ (Nat.mod_lt _ (by decide)), hpow, Nat.mod_mul]
      omega

/-- A number that was written with enough digits is read back. -/
theorem takeNumber_padded {width n : Nat} (hn : n < Nat.pow 10 width) (rest : List Char) :
    takeNumber width (padded width n ++ rest) = some (n, rest) := by
  have htake : (padded width n ++ rest).take width = padded width n :=
    List.take_left' (length_padded width n)
  have hdrop : (padded width n ++ rest).drop width = rest :=
    List.drop_left' (length_padded width n)
  have hdigits : (padded width n).all Char.isDigit = true :=
    List.all_eq_true.mpr fun c hc => isDigit_of_mem_padded hc
  have hvalue : spelled (padded width n) = n := by rw [spelled_padded, Nat.mod_eq_of_lt hn]
  simp only [takeNumber, htake, hdrop, length_padded, hdigits, and_self, if_true]
  exact congrArg (fun value => some (value, rest)) hvalue

/-- A number that was read has as many digits as were asked for. -/
theorem takeNumber_lt {width n : Nat} {cs rest : List Char}
    (htaken : takeNumber width cs = some (n, rest)) : n < Nat.pow 10 width := by
  simp only [takeNumber] at htaken
  split at htaken
  · next hdigits =>
    obtain ⟨hlength, hall⟩ := hdigits
    obtain ⟨rfl, -⟩ := Prod.mk.inj (Option.some.inj htaken)
    have hlt := spelled_lt (List.all_eq_true.mp hall)
    rwa [hlength] at hlt
  · cases htaken

/-! ## Single characters -/

theorem takeChar_self (c : Char) (rest : List Char) : takeChar c (c :: rest) = some rest :=
  if_pos rfl

theorem takeSeparator_of_lt {c : Char} (hbyte : c.toNat < 128) (rest : List Char) :
    takeSeparator (c :: rest) = some rest := if_pos hbyte

/-! ## Fractions -/

/-- Zeros at the end of a fraction are filled in again. -/
theorem fractionNanos_dropTrailing {digits : List Char} (hlength : digits.length = 9) :
    fractionNanos (Text.dropTrailing (· == '0') digits) = spelled digits := by
  obtain ⟨zeros, hdigits, hzeros⟩ := Text.dropTrailing_append (· == '0') digits
  have hreplicate : zeros = List.replicate zeros.length '0' :=
    List.eq_replicate_iff.mpr ⟨rfl, fun c hc => beq_iff_eq.mp (hzeros c hc)⟩
  have hfilled : (Text.dropTrailing (· == '0') digits ++ List.replicate 9 '0').take 9 = digits := by
    have hle : zeros.length ≤ 9 := by
      have hsum := congrArg List.length hdigits
      rw [List.length_append, hlength] at hsum
      omega
    have hsplit : List.replicate 9 '0' = zeros ++ List.replicate (9 - zeros.length) '0' := by
      rw [hreplicate, List.length_replicate, List.replicate_append_replicate,
        Nat.add_sub_cancel' hle]
    rw [hsplit, ← List.append_assoc, ← hdigits, List.take_left' hlength]
  simp only [fractionNanos, hfilled]
  rfl

/-- A fraction of a second is read back, before any text that does not begin with a digit. -/
theorem takeFraction_fractionChars {nanos : Nat} (hnanos : nanos < 1000000000) {c : Char}
    (hdigit : c.isDigit = false) (hpoint : c ≠ '.') (rest : List Char) :
    takeFraction (fractionChars nanos ++ c :: rest) = some (nanos, c :: rest) := by
  unfold fractionChars
  split
  · next hzero =>
    rw [hzero, List.nil_append]
    unfold takeFraction
    split
    · next hc => exact absurd (List.cons.inj hc).1 hpoint
    · rfl
  · next hnonzero =>
    have hvalue : fractionNanos (Text.dropTrailing (· == '0') (padded 9 nanos)) = nanos := by
      rw [fractionNanos_dropTrailing (length_padded 9 nanos), spelled_padded]
      exact Nat.mod_eq_of_lt hnanos
    obtain ⟨zeros, hpadded, -⟩ := Text.dropTrailing_append (· == '0') (padded 9 nanos)
    generalize Text.dropTrailing (· == '0') (padded 9 nanos) = digits at hvalue hpadded
    have hdigits : ∀ d ∈ digits, d.isDigit = true := fun d hd =>
      isDigit_of_mem_padded (hpadded ▸ List.mem_append_left _ hd)
    have htake : (digits ++ c :: rest).takeWhile Char.isDigit = digits := by
      rw [List.takeWhile_append_of_pos hdigits, List.takeWhile_cons_of_neg (by simp [hdigit]),
        List.append_nil]
    have hdrop : (digits ++ c :: rest).dropWhile Char.isDigit = c :: rest := by
      rw [List.dropWhile_append_of_pos hdigits, List.dropWhile_cons_of_neg (by simp [hdigit])]
    have hsome : digits.isEmpty = false := by
      rw [List.isEmpty_eq_false_iff]
      rintro rfl
      exact hnonzero hvalue.symm
    simp only [List.cons_append, takeFraction, htake, hdrop, hsome, hvalue]
    rfl

/-- A fraction is less than a second. -/
theorem takeFraction_lt {cs rest : List Char} {nanos : Nat}
    (htaken : takeFraction cs = some (nanos, rest)) : nanos < 1000000000 := by
  unfold takeFraction at htaken
  split at htaken
  · next after =>
    simp only at htaken
    split at htaken
    · cases htaken
    obtain ⟨rfl, -⟩ := Prod.mk.inj (Option.some.inj htaken)
    have hdigits : ∀ c ∈ (after.takeWhile Char.isDigit ++ List.replicate 9 '0').take 9,
        c.isDigit = true := by
      intro c hc
      rcases List.mem_append.mp (List.mem_of_mem_take hc) with hc | hc
      · exact List.all_eq_true.mp List.all_takeWhile c hc
      · rw [List.eq_of_mem_replicate hc]
        rfl
    have hlt := spelled_lt hdigits
    rw [List.length_take, List.length_append, List.length_replicate,
      Nat.min_eq_left (Nat.le_add_left _ _)] at hlt
    exact hlt
  · obtain ⟨rfl, -⟩ := Prod.mk.inj (Option.some.inj htaken)
    decide

/-! ## Offsets -/

/-- The text after the sign of an offset denotes a whole number of minutes, and less than a day. -/
theorem signedOffset_bounds {direction offset : Int} (hdirection : direction = 1 ∨ direction = -1)
    {cs : List Char}
    (htaken : (do
      let (hours, rest) ← takeNumber 2 cs
      let rest ← takeChar ':' rest
      let (minutes, rest) ← takeNumber 2 rest
      if hours ≤ 23 ∧ minutes ≤ 59 ∧ rest = [] then
        some (direction * ((hours * 60 + minutes) * 60 : Nat))
      else none) = some offset) :
    -86400 < offset ∧ offset < 86400 ∧ offset % 60 = 0 := by
  simp only [bind, Option.bind_eq_some_iff, Prod.exists] at htaken
  obtain ⟨hours, _, -, _, -, minutes, _, -, htaken⟩ := htaken
  split at htaken
  · next hrange =>
    obtain ⟨hhours, hminutes, -⟩ := hrange
    obtain rfl := Option.some.inj htaken
    rcases hdirection with rfl | rfl <;> omega
  · cases htaken

/-- An offset is a whole number of minutes, and less than a day. -/
theorem takeOffset_bounds {cs : List Char} {offset : Int} (htaken : takeOffset cs = some offset) :
    -86400 < offset ∧ offset < 86400 ∧ offset % 60 = 0 := by
  unfold takeOffset at htaken
  split at htaken
  · obtain rfl := Option.some.inj htaken
    decide
  · obtain rfl := Option.some.inj htaken
    decide
  · split at htaken
    · exact signedOffset_bounds (.inl rfl) htaken
    split at htaken
    · exact signedOffset_bounds (.inr rfl) htaken
    · cases htaken
  · cases htaken

/-! ## Parts of a text -/

namespace Written

/-- The parts of a text without the blanks around it. -/
def ofText (s : String) : Option Written := read (Text.trimChars s.toList)

/-- The seconds of the day by the clock of the text. -/
def secondOfDay (w : Written) : Nat := (w.hour * 60 + w.minute) * 60 + w.second

/-- A sixtieth second counts as the last nanosecond before it. -/
def counted (w : Written) : Written :=
  if w.second = 60 then { w with second := 59, nanos := 999999999 } else w

/-- The ranges in which the parts of every text lie: the year has four digits, the fraction is less
than a second, and the offset is a whole number of minutes, and less than a day. -/
structure InRange (w : Written) : Prop where
  year_nonneg : 0 ≤ w.date.year
  year_le : w.date.year ≤ lastYear
  nanos_lt : w.nanos < 1000000000
  offset_gt : -86400 < w.offset
  offset_lt : w.offset < 86400
  offset_minutes : w.offset % 60 = 0

theorem inRange_of_read {cs : List Char} {w : Written} (hread : read cs = some w) : w.InRange := by
  unfold read at hread
  obtain ⟨⟨year, _⟩, hyear, hread⟩ := Option.bind_eq_some_iff.mp hread
  obtain ⟨_, -, hread⟩ := Option.bind_eq_some_iff.mp hread
  obtain ⟨⟨month, _⟩, -, hread⟩ := Option.bind_eq_some_iff.mp hread
  obtain ⟨_, -, hread⟩ := Option.bind_eq_some_iff.mp hread
  obtain ⟨⟨day, _⟩, -, hread⟩ := Option.bind_eq_some_iff.mp hread
  obtain ⟨_, -, hread⟩ := Option.bind_eq_some_iff.mp hread
  obtain ⟨⟨hour, _⟩, -, hread⟩ := Option.bind_eq_some_iff.mp hread
  obtain ⟨_, -, hread⟩ := Option.bind_eq_some_iff.mp hread
  obtain ⟨⟨minute, _⟩, -, hread⟩ := Option.bind_eq_some_iff.mp hread
  obtain ⟨_, -, hread⟩ := Option.bind_eq_some_iff.mp hread
  obtain ⟨⟨second, _⟩, -, hread⟩ := Option.bind_eq_some_iff.mp hread
  obtain ⟨⟨nanos, _⟩, hnanos, hread⟩ := Option.bind_eq_some_iff.mp hread
  obtain ⟨offset, hoffset, hread⟩ := Option.bind_eq_some_iff.mp hread
  obtain rfl := Option.some.inj hread
  have hfour : year < 10000 := takeNumber_lt hyear
  obtain ⟨hgt, hlt, hminutes⟩ := takeOffset_bounds hoffset
  exact ⟨by simp, by simp only [lastYear]; omega, takeFraction_lt hnanos, hgt, hlt, hminutes⟩

theorem inRange_of_ofText {s : String} {w : Written} (hread : ofText s = some w) : w.InRange :=
  inRange_of_read hread

/-- The time of day exists. -/
theorem occurs_iff {w : Written} : w.occurs = true ↔
    w.date.valid = true ∧ w.hour ≤ 23 ∧ w.minute ≤ 59 ∧ w.second ≤ 59 := by
  simp [occurs, and_assoc]

theorem secondOfDay_lt {w : Written} (hoccurs : w.occurs = true) : w.secondOfDay < 86400 := by
  obtain ⟨-, hhour, hminute, hsecond⟩ := occurs_iff.mp hoccurs
  unfold secondOfDay
  omega

theorem nanos_instant (w : Written) :
    w.instant.nanos =
      (86400 * w.date.dayNumber + w.secondOfDay - w.offset) * nanosPerSecond + w.nanos := rfl

@[simp] theorem date_counted (w : Written) : w.counted.date = w.date := by
  unfold counted
  split <;> rfl

@[simp] theorem offset_counted (w : Written) : w.counted.offset = w.offset := by
  unfold counted
  split <;> rfl

/-- Seconds up to the fifty-ninth are counted as they are. -/
theorem counted_of_occurs {w : Written} (hoccurs : w.occurs = true) : w.counted = w := by
  obtain ⟨-, -, -, hsecond⟩ := occurs_iff.mp hoccurs
  exact if_neg (by omega)

theorem InRange.counted {w : Written} (hrange : w.InRange) : w.counted.InRange := by
  obtain ⟨hnonneg, hle, hnanos, hgt, hlt, hminutes⟩ := hrange
  unfold Written.counted
  split
  · exact ⟨hnonneg, hle, (by decide : 999999999 < 1000000000), hgt, hlt, hminutes⟩
  · exact ⟨hnonneg, hle, hnanos, hgt, hlt, hminutes⟩

end Written

/-! ## Instants -/

namespace Instant

theorem valid_date (i : Instant) : i.date.valid = true := valid_ofDayNumber _

theorem dayNumber_date (i : Instant) : i.date.dayNumber = i.nanos / nanosPerDay :=
  dayNumber_ofDayNumber _

/-- The instants before a year are those before its first day. -/
theorem year_lt_iff (i : Instant) (year : Int) :
    i.date.year < year ↔ i.nanos < nanosPerDay * (Date.newYear year).dayNumber := by
  rw [Date.year_lt_iff i.valid_date, dayNumber_date]
  unfold nanosPerDay nanosPerSecond
  omega

/-- A text with a sixtieth second is read when that ends a month. -/
theorem parse_of_leap {s : String} {w : Written} (hparts : Written.ofText s = some w)
    (hleap : w.second = 60) :
    Instant.parse s =
      if w.counted.occurs = true ∧ w.counted.instant.endsMonth = true ∧
        w.counted.instant.date.year ≤ lastYear then .ok w.counted.instant
      else .error .unreadable := by
  have hcounted : w.counted = { w with second := 59, nanos := 999999999 } := if_pos hleap
  unfold Written.ofText at hparts
  rw [hcounted]
  simp only [Instant.parse, hparts, if_pos hleap]

/-- A text with any other second is read when it occurs, unless its year is past the last one. -/
theorem parse_of_plain {s : String} {w : Written} (hparts : Written.ofText s = some w)
    (hplain : w.second ≠ 60) :
    Instant.parse s =
      if w.occurs = true then
        if w.instant.date.year ≤ lastYear then .ok w.instant else .error .beyondCalendar
      else .error .unreadable := by
  unfold Written.ofText at hparts
  simp only [Instant.parse, hparts, if_neg hplain]

theorem parse_of_ofText_eq_none {s : String} (hparts : Written.ofText s = none) :
    Instant.parse s = .error .unreadable := by
  unfold Written.ofText at hparts
  simp only [Instant.parse, hparts]

/-- A text names an instant when its parts exist and the year in universal time is not past the last
one, where a sixtieth second has to end a month. -/
theorem parse_eq_ok_iff {s : String} {i : Instant} :
    Instant.parse s = .ok i ↔ ∃ w, Written.ofText s = some w ∧ w.counted.occurs = true ∧
      (w.second = 60 → w.counted.instant.endsMonth = true) ∧ w.counted.instant = i ∧
      i.date.year ≤ lastYear := by
  cases hparts : Written.ofText s with
  | none => simp [parse_of_ofText_eq_none hparts]
  | some w =>
      simp only [Option.some.injEq, exists_eq_left']
      by_cases hleap : w.second = 60
      · rw [parse_of_leap hparts hleap, ite_eq_iff]
        simp only [Except.ok.injEq, reduceCtorEq, and_false, or_false]
        constructor
        · rintro ⟨⟨hoccurs, hends, hyear⟩, rfl⟩
          exact ⟨hoccurs, fun _ => hends, rfl, hyear⟩
        · rintro ⟨hoccurs, hends, rfl, hyear⟩
          exact ⟨⟨hoccurs, hends hleap, hyear⟩, rfl⟩
      · have hcounted : w.counted = w := if_neg hleap
        rw [parse_of_plain hparts hleap, hcounted, ite_eq_iff, ite_eq_iff]
        simp only [Except.ok.injEq, reduceCtorEq, and_false, or_false]
        constructor
        · rintro ⟨hoccurs, hyear, rfl⟩
          exact ⟨hoccurs, fun h => absurd h hleap, rfl, hyear⟩
        · rintro ⟨hoccurs, -, rfl, hyear⟩
          exact ⟨hoccurs, hyear, rfl⟩

/-- Reading crashes iff the parts of a text exist, without a sixtieth second, and the year in
universal time is past the last one. -/
theorem parse_eq_beyond_iff {s : String} :
    Instant.parse s = .error .beyondCalendar ↔ ∃ w, Written.ofText s = some w ∧
      w.occurs = true ∧ lastYear < w.instant.date.year := by
  cases hparts : Written.ofText s with
  | none => simp [parse_of_ofText_eq_none hparts]
  | some w =>
      simp only [Option.some.injEq, exists_eq_left']
      by_cases hleap : w.second = 60
      · have hnot : ¬ w.occurs = true := fun hoccurs => by
          have hsecond := (Written.occurs_iff.mp hoccurs).2.2.2
          omega
        rw [parse_of_leap hparts hleap, ite_eq_iff]
        simp [hnot]
      · rw [parse_of_plain hparts hleap, ite_eq_iff, ite_eq_iff]
        simp

end Instant

end Calendar
end SupplierGateway
