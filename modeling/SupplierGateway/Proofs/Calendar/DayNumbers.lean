import Mathlib.Data.Int.LeastGreatest
import Mathlib.Tactic.IntervalCases
import SupplierGateway.Calendar.Date

/-!
# Every day has one number

The days of the calendar are in bijection with the integers, and consecutive days have consecutive
numbers.

* `marchStart` and `marchStart_succ` — years that begin with March, and their lengths;
* `Date.dayNumber_eq` and `ofMarch` — a date as a year that begins with March and a day in it;
* `ofDayNumber_of_march` — the arithmetic of eras gives the year and the day in it;
* `ofDayNumber_dayNumber`, `valid_ofDayNumber` and `dayNumber_ofDayNumber` — dates of the calendar and
  day numbers correspond to each other one to one;
* `Date.year_lt_iff` — where years begin;
* `Date.next` and `dayNumber_iterate_next` — the calendar, day after day.
-/

namespace SupplierGateway
namespace Calendar

/-! ## Years that begin with March -/

/-- The days from the first of March of year zero to the first of March of a year. -/
def marchStart (year : Int) : Int := 365 * year + year / 4 - year / 100 + year / 400

/-- A year that begins with March ends with the leap day of the next civil year, if there is one. -/
theorem marchStart_succ (year : Int) :
    marchStart (year + 1) = marchStart year + if isLeapYear (year + 1) then 366 else 365 := by
  have hleap : isLeapYear (year + 1) = true ↔
      (year + 1) % 4 = 0 ∧ ((year + 1) % 100 ≠ 0 ∨ (year + 1) % 400 = 0) := by
    simp [isLeapYear]
  unfold marchStart
  split
  · next h =>
    rw [hleap] at h
    omega
  · next h =>
    rw [hleap] at h
    omega

theorem marchStart_le {year later : Int} (hle : year ≤ later) :
    marchStart year ≤ marchStart later := by
  unfold marchStart
  omega

/-- A day within a year that begins with March. -/
def InMarchYear (year dayOfYear : Int) : Prop :=
  0 ≤ dayOfYear ∧ marchStart year + dayOfYear < marchStart (year + 1)

/-! ## Eras -/

/-- The year of an era of four hundred years in which a day of the era lies. -/
def yearOfEra (dayOfEra : Int) : Int :=
  (dayOfEra - dayOfEra / 1460 + dayOfEra / 36524 - dayOfEra / 146096) / 365

/-- A year counted by eras, centuries, leap cycles and the years of a leap cycle. -/
structure YearParts where
  era : Int
  century : Int
  cycle : Int
  rest : Int
  century_nonneg : 0 ≤ century
  century_lt : century < 4
  cycle_nonneg : 0 ≤ cycle
  cycle_lt : cycle < 25
  rest_nonneg : 0 ≤ rest
  rest_lt : rest < 4

namespace YearParts

/-- The year itself. -/
def year (p : YearParts) : Int := 400 * p.era + 100 * p.century + 4 * p.cycle + p.rest

/-- The first day of the year, counted from the beginning of its era. -/
def startInEra (p : YearParts) : Int := 36524 * p.century + 1461 * p.cycle + 365 * p.rest

/-- The parts of a year. -/
def ofYear (year : Int) : YearParts where
  era := year / 400
  century := year % 400 / 100
  cycle := year % 100 / 4
  rest := year % 4
  century_nonneg := by omega
  century_lt := by omega
  cycle_nonneg := by omega
  cycle_lt := by omega
  rest_nonneg := by omega
  rest_lt := by omega

theorem year_ofYear (year : Int) : (ofYear year).year = year := by
  simp only [YearParts.year, ofYear]
  omega

theorem marchStart_year (p : YearParts) : marchStart p.year = 146097 * p.era + p.startInEra := by
  obtain ⟨era, century, cycle, rest, _, _, _, _, _, _⟩ := p
  simp only [marchStart, year, startInEra]
  omega

/-- Only the last year of a leap cycle has a day more, and that not in the last cycle of a century
unless the century is the last of its era. -/
theorem inMarchYear_iff (p : YearParts) (day : Int) :
    InMarchYear p.year day ↔ 0 ≤ day ∧
      (day ≤ 364 ∨ day = 365 ∧ p.rest = 3 ∧ (p.cycle < 24 ∨ p.century = 3)) := by
  obtain ⟨era, century, cycle, rest, _, _, _, _, _, _⟩ := p
  simp only [InMarchYear, marchStart, year]
  omega

/-- A day of a year lies in the era of the year. -/
theorem inEra (p : YearParts) {day : Int} (hday : InMarchYear p.year day) :
    0 ≤ p.startInEra + day ∧ p.startInEra + day < 146097 := by
  rw [inMarchYear_iff] at hday
  obtain ⟨era, century, cycle, rest, _, _, _, _, _, _⟩ := p
  simp only [startInEra] at hday ⊢
  omega

/-- The year of a day of an era. -/
theorem yearOfEra_add (p : YearParts) {day : Int} (hday : InMarchYear p.year day) :
    yearOfEra (p.startInEra + day) = 100 * p.century + 4 * p.cycle + p.rest := by
  rw [inMarchYear_iff] at hday
  obtain ⟨era, century, cycle, rest, _, _, _, _, _, _⟩ := p
  simp only at hday
  simp only [yearOfEra, startInEra]
  generalize hn : 36524 * century + 1461 * cycle + 365 * rest + day = n
  have hcenturies : n / 36524 - n / 146096 = century := by
    -- The last day of an era would begin a fifth century.
    by_cases hlast : n = 146096
    · subst hlast
      omega
    · have hin : 1461 * cycle + 365 * rest + day < 36524 := by omega
      have hcentury : n / 36524 = century := by omega
      omega
  by_cases hearly : 24 * century + cycle + 365 * rest + day < 1460
  · have hcycles : n / 1460 = 25 * century + cycle := by omega
    omega
  · have hcycles : n / 1460 = 25 * century + cycle + 1 := by omega
    omega

end YearParts

/-! ## Months -/

/-- The place of a month in a year that begins with March, counted from zero. -/
def marchMonth (month : Nat) : Int := if month ≤ 2 then (month : Int) + 9 else (month : Int) - 3

/-- The days of such a year before a month. -/
def monthStart (month : Int) : Int := (153 * month + 2) / 5

theorem marchMonth_cases (month : Nat) :
    month ≤ 2 ∧ marchMonth month = month + 9 ∨ 2 < month ∧ marchMonth month = month - 3 := by
  unfold marchMonth
  split <;> omega

/-- The months follow each other within a year that begins with March. -/
theorem marchMonth_succ {month : Nat} (hother : month ≠ 2) :
    marchMonth (month + 1) = marchMonth month + 1 := by
  unfold marchMonth
  split <;> split <;> omega

/-- The length of February. -/
theorem monthLength_february (year : Int) :
    monthLength year 2 = if isLeapYear year then 29 else 28 := rfl

/-- All months but the last one of a year that begins with March have the same length every year. -/
theorem monthLength_of_ne_february (year : Int) {month : Nat} (hfirst : 1 ≤ month)
    (hlast : month ≤ 12) (hother : month ≠ 2) :
    (monthLength year month : Int) =
      monthStart (marchMonth month + 1) - monthStart (marchMonth month) := by
  interval_cases month
  all_goals first
    | exact absurd rfl hother
    | rfl

/-! ## Dates by years that begin with March -/

namespace Date

/-- The year that begins with March in which a date lies. -/
def marchYear (d : Date) : Int := if d.month ≤ 2 then d.year - 1 else d.year

/-- The day of that year, counted from zero. -/
def dayOfYear (d : Date) : Int := monthStart (marchMonth d.month) + d.day - 1

theorem dayNumber_eq (d : Date) :
    d.dayNumber = marchStart d.marchYear + d.dayOfYear - epochOffset := rfl

theorem valid_iff {d : Date} :
    d.valid = true ↔ 1 ≤ d.month ∧ d.month ≤ 12 ∧ 1 ≤ d.day ∧ d.day ≤ monthLength d.year d.month := by
  simp [valid, and_assoc]

/-- A date lies within its year. -/
theorem inMarchYear {d : Date} (hvalid : d.valid = true) : InMarchYear d.marchYear d.dayOfYear := by
  obtain ⟨hfirst, hlast, hday, hlength⟩ := valid_iff.mp hvalid
  by_cases hfebruary : d.month = 2
  · rw [hfebruary, monthLength_february] at hlength
    have hyear : d.marchYear + 1 = d.year := by simp [marchYear, hfebruary]
    have hstart : d.dayOfYear = 336 + d.day := by
      simp only [dayOfYear, monthStart, marchMonth, hfebruary]
      omega
    rw [InMarchYear, marchStart_succ, hyear, hstart]
    cases hleap : isLeapYear d.year <;>
      simp only [hleap, Bool.false_eq_true, if_false, if_true] at hlength ⊢ <;> omega
  · have hregular := monthLength_of_ne_february d.year hfirst hlast hfebruary
    rw [InMarchYear, marchStart_succ]
    simp only [dayOfYear, monthStart, marchMonth] at hregular ⊢
    split <;> omega

end Date

/-- The date of a day in a year that begins with March. -/
def ofMarch (year dayOfYear : Int) : Date :=
  let month := (5 * dayOfYear + 2) / 153
  let day := dayOfYear - (153 * month + 2) / 5 + 1
  let civilMonth := if month < 10 then month + 3 else month - 9
  { year := year + (if civilMonth ≤ 2 then 1 else 0)
    month := civilMonth.toNat
    day := day.toNat }

/-- A date is the one of its year and the day in it. -/
theorem ofMarch_dayOfYear {d : Date} (hvalid : d.valid = true) :
    ofMarch d.marchYear d.dayOfYear = d := by
  obtain ⟨hfirst, hlast, hday, hlength⟩ := Date.valid_iff.mp hvalid
  have hmonth : (5 * d.dayOfYear + 2) / 153 = marchMonth d.month := by
    by_cases hfebruary : d.month = 2
    · rw [hfebruary, monthLength_february] at hlength
      simp only [Date.dayOfYear, monthStart, marchMonth, hfebruary]
      split at hlength <;> omega
    · have hregular := monthLength_of_ne_february d.year hfirst hlast hfebruary
      simp only [Date.dayOfYear, monthStart, marchMonth] at hregular ⊢
      omega
  obtain ⟨year, month, day⟩ := d
  simp only [ofMarch, hmonth, Date.mk.injEq]
  simp only [Date.marchYear, Date.dayOfYear, monthStart, marchMonth] at *
  omega

/-- A day of a year that begins with March lies in one of its months. -/
theorem exists_marchMonth {day : Int} (hnonneg : 0 ≤ day) (hlast : day ≤ 365) :
    ∃ month : Nat, 1 ≤ month ∧ month ≤ 12 ∧ (5 * day + 2) / 153 = marchMonth month := by
  unfold marchMonth
  by_cases hlate : (5 * day + 2) / 153 < 10
  · exact ⟨((5 * day + 2) / 153 + 3).toNat, by omega, by omega, by split <;> omega⟩
  · exact ⟨((5 * day + 2) / 153 - 9).toNat, by omega, by omega, by split <;> omega⟩

/-- The date of a day by the month in which it lies. -/
theorem ofMarch_eq (year : Int) {day : Int} {month : Nat} (hfirst : 1 ≤ month) (hlast : month ≤ 12)
    (hmonth : (5 * day + 2) / 153 = marchMonth month) :
    ofMarch year day =
      { year := if month ≤ 2 then year + 1 else year
        month
        day := (day - monthStart (marchMonth month) + 1).toNat } := by
  have hcivil : (if marchMonth month < 10 then marchMonth month + 3 else marchMonth month - 9) =
      (month : Int) := by
    rcases marchMonth_cases month with ⟨hearly, hplace⟩ | ⟨hlate, hplace⟩
    · rw [if_neg (by omega), hplace]
      omega
    · rw [if_pos (by omega), hplace]
      omega
  simp only [ofMarch, hmonth, hcivil, Int.toNat_natCast, Date.mk.injEq]
  refine ⟨?_, trivial, rfl⟩
  by_cases hearly : month ≤ 2
  · rw [if_pos hearly, if_pos (by omega)]
  · rw [if_neg hearly, if_neg (by omega), Int.add_zero]

/-- The days of a year that begins with March are dates in it. -/
theorem ofMarch_spec {year day : Int} (hday : InMarchYear year day) :
    (ofMarch year day).valid = true ∧ (ofMarch year day).marchYear = year ∧
      (ofMarch year day).dayOfYear = day := by
  obtain ⟨hnonneg, hlt⟩ := hday
  rw [marchStart_succ] at hlt
  have hrange : day ≤ 365 := by split at hlt <;> omega
  obtain ⟨month, hfirst, hlast, hmonth⟩ := exists_marchMonth hnonneg hrange
  have hstart : monthStart (marchMonth month) ≤ day := by
    unfold monthStart
    omega
  have hend : day < monthStart (marchMonth month + 1) := by
    unfold monthStart
    omega
  have hdayOfMonth : ((day - monthStart (marchMonth month) + 1).toNat : Int) =
      day - monthStart (marchMonth month) + 1 := Int.toNat_of_nonneg (by omega)
  rw [ofMarch_eq year hfirst hlast hmonth, Date.valid_iff]
  refine ⟨⟨hfirst, hlast, by simp only; omega, ?_⟩, ?_, ?_⟩
  · by_cases hfebruary : month = 2
    · subst hfebruary
      have hplace : monthStart (marchMonth 2) = 337 := rfl
      simp only [monthLength_february, Nat.le_refl, if_true, hplace]
      cases hleap : isLeapYear (year + 1) <;>
        simp only [hleap, Bool.false_eq_true, if_false, if_true] at hlt ⊢ <;> omega
    · have hregular := monthLength_of_ne_february (if month ≤ 2 then year + 1 else year) hfirst
        hlast hfebruary
      simp only
      omega
  · simp only [Date.marchYear]
    split <;> omega
  · simp only [Date.dayOfYear, hdayOfMonth]
    omega

/-! ## Dates and day numbers -/

/-- The date of a day number, by the year of its era and the day in that year. -/
theorem ofDayNumber_eq (n : Int) :
    Date.ofDayNumber n =
      let era := (n + epochOffset) / 146097
      let dayOfEra := (n + epochOffset) % 146097
      let year := yearOfEra dayOfEra
      ofMarch (400 * era + year) (dayOfEra - (365 * year + year / 4 - year / 100)) := rfl

/-- The arithmetic of eras gives the year of a day, and the day in it. -/
theorem ofDayNumber_of_march {year day : Int} (hday : InMarchYear year day) :
    Date.ofDayNumber (marchStart year + day - epochOffset) = ofMarch year day := by
  obtain ⟨p, rfl⟩ : ∃ p : YearParts, p.year = year := ⟨_, YearParts.year_ofYear year⟩
  have hyear := p.yearOfEra_add hday
  have hstart := p.marchStart_year
  have hin : 0 ≤ p.startInEra + day ∧ p.startInEra + day < 146097 := p.inEra hday
  have hera : (marchStart p.year + day - epochOffset + epochOffset) / 146097 = p.era := by omega
  have hrest : (marchStart p.year + day - epochOffset + epochOffset) % 146097 =
      p.startInEra + day := by omega
  simp only [ofDayNumber_eq, hera, hrest, hyear]
  congr 1
  · simp only [YearParts.year]
    omega
  · obtain ⟨era, century, cycle, rest, _, _, _, _, _, _⟩ := p
    simp only [YearParts.startInEra]
    omega

/-- Every day lies in a year that begins with March. -/
theorem exists_inMarchYear (n : Int) :
    ∃ year day, InMarchYear year day ∧ n = marchStart year + day - epochOffset := by
  -- Years begin arbitrarily early and late, so there is a last one that has begun.
  obtain ⟨year, hbegun, hlast⟩ := Int.exists_greatest_of_bdd
    (P := fun year => marchStart year ≤ n + epochOffset)
    ⟨(n + epochOffset).natAbs, fun year hyear => by
      unfold marchStart at hyear
      omega⟩
    ⟨-(n + epochOffset).natAbs, by
      unfold marchStart
      omega⟩
  refine ⟨year, n + epochOffset - marchStart year, ⟨by omega, ?_⟩, by omega⟩
  by_contra hnext
  have hle := hlast (year + 1) (by omega)
  omega

/-- A date of the calendar is the date of its day number. -/
theorem ofDayNumber_dayNumber {d : Date} (hvalid : d.valid = true) :
    Date.ofDayNumber d.dayNumber = d := by
  rw [d.dayNumber_eq, ofDayNumber_of_march (d.inMarchYear hvalid), ofMarch_dayOfYear hvalid]

/-- Every day has a date in the calendar. -/
theorem valid_ofDayNumber (n : Int) : (Date.ofDayNumber n).valid = true := by
  obtain ⟨year, day, hday, rfl⟩ := exists_inMarchYear n
  rw [ofDayNumber_of_march hday]
  exact (ofMarch_spec hday).1

/-- A day number is the number of its date. -/
theorem dayNumber_ofDayNumber (n : Int) : (Date.ofDayNumber n).dayNumber = n := by
  obtain ⟨year, day, hday, rfl⟩ := exists_inMarchYear n
  obtain ⟨-, hyear, hdayOfYear⟩ := ofMarch_spec hday
  rw [ofDayNumber_of_march hday, Date.dayNumber_eq, hyear, hdayOfYear]

namespace Date

/-! ## Civil years -/

/-- The first day of a year. -/
def newYear (year : Int) : Date := { year, month := 1, day := 1 }

theorem dayNumber_newYear (year : Int) :
    (newYear year).dayNumber = marchStart (year - 1) + 306 - epochOffset := by
  simp [newYear, dayNumber_eq, marchYear, dayOfYear, monthStart, marchMonth]

/-- A date lies between the first day of its year and that of the next. -/
theorem dayNumber_bounds {d : Date} (hvalid : d.valid = true) :
    (newYear d.year).dayNumber ≤ d.dayNumber ∧ d.dayNumber < (newYear (d.year + 1)).dayNumber := by
  have hday := inMarchYear hvalid
  obtain ⟨hfirst, hlast, hpos, hlength⟩ := valid_iff.mp hvalid
  rw [dayNumber_newYear, dayNumber_newYear, Int.add_sub_cancel, dayNumber_eq]
  unfold InMarchYear at hday
  rcases marchMonth_cases d.month with ⟨hearly, hplace⟩ | ⟨hlate, hplace⟩
  · have hyear : d.marchYear = d.year - 1 := if_pos hearly
    rw [hyear, Int.sub_add_cancel] at hday
    simp only [hyear, dayOfYear, hplace, monthStart] at hday ⊢
    omega
  · have hyear : d.marchYear = d.year := if_neg (Nat.not_le.mpr hlate)
    have hregular := monthLength_of_ne_february d.year hfirst hlast (Nat.ne_of_gt hlate)
    have hstep := marchStart_succ (d.year - 1)
    rw [Int.sub_add_cancel] at hstep
    simp only [hyear, dayOfYear, hplace, monthStart] at hday hregular ⊢
    split at hstep <;> omega

/-- The dates before a year are those of the days before its first one. -/
theorem year_lt_iff {d : Date} (hvalid : d.valid = true) (year : Int) :
    d.year < year ↔ d.dayNumber < (newYear year).dayNumber := by
  obtain ⟨hbegun, hnext⟩ := dayNumber_bounds hvalid
  simp only [dayNumber_newYear] at hbegun hnext ⊢
  constructor
  · intro hlt
    have hyears : d.year + 1 - 1 ≤ year - 1 := by omega
    have hstarts := marchStart_le hyears
    omega
  · intro hlt
    by_contra hle
    have hyears : year - 1 ≤ d.year - 1 := by omega
    have hstarts := marchStart_le hyears
    omega

/-! ## The day after -/

/-- The date after a date: the next day of the month, or else the first of the next month, or else
the first day of the next year. -/
def next (d : Date) : Date :=
  if d.day < monthLength d.year d.month then { d with day := d.day + 1 }
  else if d.month < 12 then { d with month := d.month + 1, day := 1 }
  else newYear (d.year + 1)

theorem one_le_monthLength (year : Int) (month : Nat) : 1 ≤ monthLength year month := by
  unfold monthLength
  split
  · split <;> decide
  · split <;> decide

theorem monthLength_le (year : Int) (month : Nat) : monthLength year month ≤ 31 := by
  unfold monthLength
  split
  · split <;> decide
  · split <;> decide

theorem valid_next {d : Date} (hvalid : d.valid = true) : d.next.valid = true := by
  obtain ⟨hfirst, hlast, hpos, hlength⟩ := valid_iff.mp hvalid
  unfold next
  split
  · next hwithin => exact valid_iff.mpr ⟨hfirst, hlast, by simp, hwithin⟩
  split
  · next hmonth => exact valid_iff.mpr ⟨by simp, hmonth, by simp, one_le_monthLength _ _⟩
  · exact valid_iff.mpr ⟨by simp [newYear], by simp [newYear], by simp [newYear],
      one_le_monthLength _ _⟩

/-- The first day of a month has the number after that of the last day of the month before. -/
theorem dayNumber_firstOfMonth {d : Date} (hvalid : d.valid = true)
    (hend : d.day = monthLength d.year d.month) (hmonth : d.month < 12) :
    dayNumber { d with month := d.month + 1, day := 1 } = d.dayNumber + 1 := by
  obtain ⟨hfirst, hlast, -, -⟩ := valid_iff.mp hvalid
  by_cases hfebruary : d.month = 2
  · rw [hfebruary, monthLength_february] at hend
    have hstep := marchStart_succ (d.year - 1)
    rw [Int.sub_add_cancel] at hstep
    simp only [dayNumber_eq, dayOfYear, marchYear, hfebruary, monthStart, marchMonth]
    cases hleap : isLeapYear d.year <;>
      simp only [hleap, Bool.false_eq_true, if_false, if_true] at hend hstep <;>
      simp <;> omega
  · have hregular := monthLength_of_ne_february d.year hfirst hlast hfebruary
    have hyear : marchYear { d with month := d.month + 1, day := 1 } = d.marchYear := by
      simp only [marchYear]
      split <;> split <;> omega
    rw [dayNumber_eq, dayNumber_eq, hyear]
    simp only [dayOfYear, marchMonth_succ hfebruary]
    omega

/-- The first day of a year has the number after that of the last day of the year before. -/
theorem dayNumber_newYear_succ {d : Date} (hmonth : d.month = 12) (hday : d.day = 31) :
    (newYear (d.year + 1)).dayNumber = d.dayNumber + 1 := by
  rw [dayNumber_newYear, dayNumber_eq, marchYear, dayOfYear, hmonth, hday]
  simp [monthStart, marchMonth]
  omega

/-- The day after has the next number. -/
theorem dayNumber_next {d : Date} (hvalid : d.valid = true) : d.next.dayNumber = d.dayNumber + 1 := by
  obtain ⟨-, hlast, -, hlength⟩ := valid_iff.mp hvalid
  unfold next
  split
  · simp only [dayNumber_eq, dayOfYear, marchYear]
    omega
  · next hover =>
    have hend : d.day = monthLength d.year d.month := by omega
    split
    · next hmonth => exact dayNumber_firstOfMonth hvalid hend hmonth
    · next hmonth =>
      have hdecember : d.month = 12 := by omega
      rw [hdecember] at hend
      exact dayNumber_newYear_succ hdecember hend

/-- The `n`th day after a date has the number that is larger by `n`. -/
theorem dayNumber_iterate_next {d : Date} (hvalid : d.valid = true) (days : Nat) :
    (next^[days] d).valid = true ∧ (next^[days] d).dayNumber = d.dayNumber + days := by
  induction days with
  | zero => simp [hvalid]
  | succ days ih =>
      obtain ⟨hthen, hnumber⟩ := ih
      rw [Function.iterate_succ_apply']
      refine ⟨valid_next hthen, ?_⟩
      rw [dayNumber_next hthen, hnumber]
      omega

end Date

end Calendar
end SupplierGateway
