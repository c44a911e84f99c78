import SupplierGateway.Proofs.Calendar.Texts

/-!
# Every instant has one text

An instant whose year can be written is read back from its text.  Two texts are therefore read as
the same instant iff they are printed as the same text.  The instant that is read depends neither on
blanks around a text nor on the offset in which a date and time of day are given.

* `Instant.written` — the parts of the text of an instant;
* `Instant.ofText_text` and `Instant.parse_text` — they are read back, and so is the instant;
* `Written.Later` and `Written.Later.instant_eq` — a later local time with an offset that is as much
  larger;
* `Instant.text_is_canonical` — the conjunction of these properties;
* `Instant.new_year_in_two_offsets` — the turn of a year with a leap second, in two offsets.
-/

namespace SupplierGateway
namespace Calendar

theorem isBlank_of_isDigit {c : Char} (hdigit : c.isDigit = true) : Text.isBlank c = false := by
  have hbounds : 48 ≤ c.val.toNat ∧ c.val.toNat ≤ 57 := by
    simp only [Char.isDigit, Bool.and_eq_true, decide_eq_true_eq] at hdigit
    exact ⟨UInt32.le_iff_toNat_le.mp hdigit.1, UInt32.le_iff_toNat_le.mp hdigit.2⟩
  have hval : c.toNat = c.val.toNat := rfl
  simp only [Text.isBlank, Bool.or_eq_false_iff, Bool.and_eq_false_iff, decide_eq_false_iff_not,
    beq_eq_false_iff_ne]
  omega

/-- Parts that fit their fixed widths are read back. -/
theorem Written.read_padded {year month day hour minute second nanos : Nat} (hyear : year < 10000)
    (hmonth : month < 100) (hday : day < 100) (hhour : hour < 100) (hminute : minute < 100)
    (hsecond : second < 100) (hnanos : nanos < 1000000000) :
    Written.read (padded 4 year ++ '-' :: (padded 2 month ++ '-' :: (padded 2 day ++
        'T' :: (padded 2 hour ++ ':' :: (padded 2 minute ++ ':' :: (padded 2 second ++
          (fractionChars nanos ++ ['Z']))))))) =
      some { date := { year, month, day }, hour, minute, second, nanos, offset := 0 } := by
  have htwo : ∀ {n : Nat}, n < 100 → ∀ rest, takeNumber 2 (padded 2 n ++ rest) = some (n, rest) :=
    fun hn => takeNumber_padded hn
  unfold Written.read
  refine Option.bind_eq_some_iff.mpr ⟨_, takeNumber_padded hyear _, ?_⟩
  refine Option.bind_eq_some_iff.mpr ⟨_, takeChar_self '-' _, ?_⟩
  refine Option.bind_eq_some_iff.mpr ⟨_, htwo hmonth _, ?_⟩
  refine Option.bind_eq_some_iff.mpr ⟨_, takeChar_self '-' _, ?_⟩
  refine Option.bind_eq_some_iff.mpr ⟨_, htwo hday _, ?_⟩
  refine Option.bind_eq_some_iff.mpr ⟨_, takeSeparator_of_lt (c := 'T') (by decide) _, ?_⟩
  refine Option.bind_eq_some_iff.mpr ⟨_, htwo hhour _, ?_⟩
  refine Option.bind_eq_some_iff.mpr ⟨_, takeChar_self ':' _, ?_⟩
  refine Option.bind_eq_some_iff.mpr ⟨_, htwo hminute _, ?_⟩
  refine Option.bind_eq_some_iff.mpr ⟨_, takeChar_self ':' _, ?_⟩
  refine Option.bind_eq_some_iff.mpr ⟨_, htwo hsecond _, ?_⟩
  refine Option.bind_eq_some_iff.mpr
    ⟨_, takeFraction_fractionChars hnanos (c := 'Z') rfl (by decide) [], ?_⟩
  rfl

namespace Instant

/-! ## The parts of the text of an instant -/

/-- The nanoseconds since midnight in universal time. -/
def nanoOfDay (i : Instant) : Nat := (i.nanos % nanosPerDay).toNat

/-- The parts of the text of an instant. -/
def written (i : Instant) : Written where
  date := i.date
  hour := i.nanoOfDay / 1000000000 / 3600
  minute := i.nanoOfDay / 1000000000 / 60 % 60
  second := i.nanoOfDay / 1000000000 % 60
  nanos := i.nanoOfDay % 1000000000
  offset := 0

theorem nanoOfDay_lt (i : Instant) : i.nanoOfDay < 86400 * 1000000000 := by
  unfold nanoOfDay nanosPerDay nanosPerSecond
  omega

theorem occurs_written (i : Instant) : i.written.occurs = true := by
  have hlt := i.nanoOfDay_lt
  refine Written.occurs_iff.mpr ⟨i.valid_date, ?_, ?_, ?_⟩
  · simp only [written]
    omega
  · simp only [written]
    omega
  · simp only [written]
    omega

/-- The parts of its text name the instant. -/
theorem instant_written (i : Instant) : i.written.instant = i := by
  have hday : i.nanos = nanosPerDay * i.date.dayNumber + i.nanoOfDay := by
    rw [dayNumber_date, nanoOfDay]
    unfold nanosPerDay nanosPerSecond
    omega
  have hnanos : i.written.instant.nanos = i.nanos := by
    rw [Written.nanos_instant]
    simp only [Written.secondOfDay, written]
    rw [hday]
    unfold nanosPerDay nanosPerSecond
    omega
  exact congrArg Instant.mk hnanos

/-- The year of an instant can be written. -/
def InCalendar (i : Instant) : Prop := 0 ≤ i.date.year ∧ i.date.year ≤ lastYear

theorem toList_text {i : Instant} (hcalendar : i.InCalendar) :
    i.text.toList =
      padded 4 i.date.year.toNat ++ '-' :: (padded 2 i.date.month ++ '-' :: (padded 2 i.date.day ++
        'T' :: (padded 2 i.written.hour ++ ':' :: (padded 2 i.written.minute ++
          ':' :: (padded 2 i.written.second ++ (fractionChars i.written.nanos ++ ['Z'])))))) := by
  have htext : i.text = String.ofList _ := if_pos hcalendar
  rw [htext, String.toList_ofList]
  simp only [List.append_assoc, List.cons_append]
  rfl

/-- Nothing is trimmed from a text that begins with a digit and ends with the letter of the offset. -/
theorem trimChars_text {i : Instant} (hcalendar : i.InCalendar) :
    Text.trimChars i.text.toList = i.text.toList := by
  have hlength := length_padded 4 i.date.year.toNat
  rw [toList_text hcalendar]
  cases hyear : padded 4 i.date.year.toNat with
  | nil => simp [hyear] at hlength
  | cons first digits =>
      have hfirst : Text.isBlank first = false :=
        isBlank_of_isDigit (isDigit_of_mem_padded (hyear ▸ List.mem_cons_self))
      have hlast : Text.isBlank 'Z' = false := by decide
      have hends := Text.trimChars_of_ends hfirst hlast
      simpa only [List.cons_append, List.append_assoc] using hends (digits ++ '-' ::
        (padded 2 i.date.month ++ '-' :: (padded 2 i.date.day ++ 'T' :: (padded 2 i.written.hour ++
          ':' :: (padded 2 i.written.minute ++ ':' :: (padded 2 i.written.second ++
            fractionChars i.written.nanos))))))

/-- The text of an instant is read as its parts. -/
theorem ofText_text {i : Instant} (hcalendar : i.InCalendar) :
    Written.ofText i.text = some i.written := by
  rw [Written.ofText, trimChars_text hcalendar, toList_text hcalendar]
  obtain ⟨-, hmonth, -, hday⟩ := Date.valid_iff.mp i.valid_date
  obtain ⟨-, hhour, hminute, hsecond⟩ := Written.occurs_iff.mp i.occurs_written
  obtain ⟨hnonneg, hle⟩ := hcalendar
  have hlong := Date.monthLength_le i.date.year i.date.month
  have hnanos : i.written.nanos < 1000000000 := Nat.mod_lt _ (Nat.zero_lt_succ _)
  rw [Written.read_padded (by unfold lastYear at hle; omega) (by omega) (by omega) (by omega)
    (by omega) (by omega) hnanos, Int.toNat_of_nonneg hnonneg]
  rfl

/-- An instant whose year can be written is read back from its text. -/
theorem parse_text {i : Instant} (hcalendar : i.InCalendar) : Instant.parse i.text = .ok i := by
  have hcounted := Written.counted_of_occurs i.occurs_written
  refine parse_eq_ok_iff.mpr ⟨i.written, ofText_text hcalendar, ?_, ?_, ?_, hcalendar.2⟩
  · rw [hcounted]
    exact i.occurs_written
  · intro hleap
    have hsecond := (Written.occurs_iff.mp i.occurs_written).2.2.2
    omega
  · rw [hcounted]
    exact i.instant_written

/-- Different instants that can be written have different texts. -/
theorem text_inj {i i' : Instant} (hcalendar : i.InCalendar) (hcalendar' : i'.InCalendar) :
    i.text = i'.text ↔ i = i' := by
  constructor
  · intro htext
    have hparse := parse_text hcalendar
    rw [htext, parse_text hcalendar'] at hparse
    exact (Except.ok.inj hparse).symm
  · rintro rfl
    rfl

end Instant

/-! ## One instant in several offsets -/

namespace Written

/-- The parts of a text with a date and time of day some minutes later, and with an offset that is
as much larger. -/
structure Later (minutes : Nat) (w w' : Written) : Prop where
  /-- The date is some days later, and the hours and minutes make up the rest. -/
  date : ∃ days, w'.date = Date.next^[days] w.date ∧
    w.hour * 60 + w.minute + minutes = 1440 * days + (w'.hour * 60 + w'.minute)
  second : w'.second = w.second
  nanos : w'.nanos = w.nanos
  offset : w'.offset = w.offset + 60 * minutes

namespace Later

variable {minutes : Nat} {w w' : Written}

/-- Both texts have the same second. -/
theorem counted (hlater : w.Later minutes w') : w.counted.Later minutes w'.counted := by
  unfold Written.counted
  rw [hlater.second]
  split
  · exact ⟨hlater.date, rfl, rfl, hlater.offset⟩
  · exact hlater

/-- Both name the same instant. -/
theorem instant_eq (hlater : w.Later minutes w') (hvalid : w.date.valid = true) :
    w'.instant = w.instant := by
  obtain ⟨⟨days, hdate, htime⟩, hsecond, hnanos, hoffset⟩ := hlater
  have hday : w'.date.dayNumber = w.date.dayNumber + days := by
    rw [hdate]
    exact (Date.dayNumber_iterate_next hvalid days).2
  have hseconds : 86400 * w'.date.dayNumber + w'.secondOfDay - w'.offset =
      86400 * w.date.dayNumber + w.secondOfDay - w.offset := by
    rw [hday, hoffset]
    unfold secondOfDay
    omega
  have hsame : w'.instant.nanos = w.instant.nanos := by
    rw [nanos_instant, nanos_instant, hseconds, hnanos]
  exact congrArg Instant.mk hsame

end Later
end Written

namespace Instant

/-- A text with blanks around it is read as the text without them. -/
theorem parse_append {before after : String} (hbefore : Text.blank before = true)
    (hafter : Text.blank after = true) (s : String) :
    Instant.parse (before ++ s ++ after) = Instant.parse s := by
  have htrim : Text.trimChars (before ++ s ++ after).toList = Text.trimChars s.toList := by
    rw [String.toList_append, String.toList_append]
    exact Text.trimChars_append (List.all_eq_true.mp hbefore) (List.all_eq_true.mp hafter) _
  unfold Instant.parse
  rw [htrim]

/-- The text of an instant is canonical.  Every instant of the years that can be written is read
back from its text, so that two texts are read as the same instant iff they are printed as the same
text.  Two texts of which one has a later date and time of day with an offset that is as much larger
are read as the same instant, and so are two texts that differ in blanks around them. -/
theorem text_is_canonical :
    (∀ i : Instant, i.InCalendar → Instant.parse i.text = .ok i) ∧
    (∀ (s s' : String) (i i' : Instant), Instant.parse s = .ok i → Instant.parse s' = .ok i' →
      i.InCalendar → i'.InCalendar → (i = i' ↔ i.text = i'.text)) ∧
    (∀ (s s' : String) (w w' : Written) (minutes : Nat) (i i' : Instant),
      Written.ofText s = some w → Written.ofText s' = some w' → w.Later minutes w' →
      Instant.parse s = .ok i → Instant.parse s' = .ok i' → i = i') ∧
    ∀ before after : String, Text.blank before = true → Text.blank after = true →
      ∀ s, Instant.parse (before ++ s ++ after) = Instant.parse s := by
  refine ⟨fun i => parse_text, ?_, ?_, fun before after => parse_append⟩
  · intro s s' i i' _ _ hcalendar hcalendar'
    exact (text_inj hcalendar hcalendar').symm
  · intro s s' w w' minutes i i' hread hread' hlater hparse hparse'
    obtain ⟨v, hv, hoccurs, -, rfl, -⟩ := parse_eq_ok_iff.mp hparse
    obtain ⟨v', hv', -, -, rfl, -⟩ := parse_eq_ok_iff.mp hparse'
    obtain rfl := Option.some.inj (hread.symm.trans hv)
    obtain rfl := Option.some.inj (hread'.symm.trans hv')
    exact (hlater.counted.instant_eq (Written.occurs_iff.mp hoccurs).1).symm

/-- The second that was inserted at the end of 2016, in universal time. -/
def insertedSecond : Written where
  date := { year := 2016, month := 12, day := 31 }
  hour := 23
  minute := 59
  second := 60
  nanos := 250000000
  offset := 0

/-- The same second two hours east, in the year 2017. -/
def insertedSecondEast : Written where
  date := { year := 2017, month := 1, day := 1 }
  hour := 1
  minute := 59
  second := 60
  nanos := 250000000
  offset := 7200

/-- The second is read in both offsets and with blanks around it, and printed the same. -/
theorem new_year_in_two_offsets :
    ∃ i i' : Instant, Written.ofText "2016-12-31 23:59:60.25z" = some insertedSecond ∧
      Written.ofText "2017-01-01T01:59:60.25+02:00" = some insertedSecondEast ∧
      insertedSecond.Later 120 insertedSecondEast ∧
      Instant.parse "2016-12-31 23:59:60.25z" = .ok i ∧
      Instant.parse ("\t" ++ "2017-01-01T01:59:60.25+02:00" ++ " \n") = .ok i' ∧
      i.InCalendar ∧ i'.InCalendar ∧ i = i' ∧ i.text = i'.text ∧ Instant.parse i.text = .ok i := by
  obtain ⟨hround, halike, hmoved, hblanks⟩ := text_is_canonical
  have hread : Instant.parse "2016-12-31 23:59:60.25z" =
      .ok { nanos := 1483228799999999999 } := by decide +kernel
  have hread' : Instant.parse "2017-01-01T01:59:60.25+02:00" =
      .ok { nanos := 1483228799999999999 } := by decide +kernel
  have hparts : Written.ofText "2016-12-31 23:59:60.25z" = some insertedSecond := by
    decide +kernel
  have hparts' : Written.ofText "2017-01-01T01:59:60.25+02:00" = some insertedSecondEast := by
    decide +kernel
  have hlater : insertedSecond.Later 120 insertedSecondEast := ⟨⟨1, rfl, rfl⟩, rfl, rfl, rfl⟩
  have hcalendar : InCalendar { nanos := 1483228799999999999 } := by
    unfold InCalendar
    decide +kernel
  have hsame := hmoved _ _ _ _ 120 _ _ hparts hparts' hlater hread hread'
  exact ⟨_, _, hparts, hparts', hlater, hread,
    (hblanks "\t" " \n" (by decide +kernel) (by decide +kernel) _).trans hread', hcalendar,
    hcalendar, hsame, (halike _ _ _ _ hread hread' hcalendar hcalendar).mp hsame,
    hround _ hcalendar⟩

end Instant

end Calendar
end SupplierGateway
