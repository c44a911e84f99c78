import SupplierGateway.Audit.Record
import SupplierGateway.Proofs.Calendar.RoundTrip
import SupplierGateway.Proofs.Json.RoundTrip

/-!
# The first and the last day that can be written

The year of a text has four digits, but its offset may carry the instant over either end of the
years that can be written.  That happens to texts of two days only.  Reading crashes on a text of
the last day whose offset carries it past the end of that day in universal time.  A text of the
first day whose offset carries it before the beginning of that day in universal time is read as an
instant that has no text.  All other texts that are read give instants that have a text.

* `Written.Overruns` and `Written.Underruns` — the texts of the two days;
* `Written.year_gt_iff` and `Written.year_neg_iff` — their years in universal time;
* `Rental.RateRequest.ofText_compact` and `Audit.CallRecord.startedAt_json` — searches and call records;
* `Instant.reading_stays_in_calendar` — the results of reading, and what is read back;
* `Instant.first_and_last_moment` — the texts that come closest to the ends;
* `Instant.ends_of_the_calendar` — two texts that are carried over them.
-/

namespace SupplierGateway
namespace Calendar

namespace Written

/-- A text of the last day, which is over in universal time. -/
def Overruns (w : Written) : Prop :=
  w.date = { year := lastYear, month := 12, day := 31 } ∧ 86400 + w.offset ≤ w.secondOfDay

/-- A text of the first day, which has not begun in universal time. -/
def Underruns (w : Written) : Prop :=
  w.date = Date.newYear 0 ∧ w.secondOfDay < w.offset

instance (w : Written) : Decidable w.Overruns := inferInstanceAs (Decidable (_ ∧ _))

instance (w : Written) : Decidable w.Underruns := inferInstanceAs (Decidable (_ ∧ _))

variable {w : Written}

/-- A date that exists is determined by its day number. -/
theorem date_eq_iff (hoccurs : w.occurs = true) {d : Date} (hvalid : d.valid = true) :
    w.date = d ↔ w.date.dayNumber = d.dayNumber := by
  constructor
  · exact congrArg Date.dayNumber
  · intro hnumber
    have hdate := congrArg Date.ofDayNumber hnumber
    rwa [ofDayNumber_dayNumber (occurs_iff.mp hoccurs).1, ofDayNumber_dayNumber hvalid] at hdate

/-- No text is of a day before the first one. -/
theorem firstDay_le (hoccurs : w.occurs = true) (hrange : w.InRange) :
    -719528 ≤ w.date.dayNumber := by
  by_contra hlt
  have hyear := (Date.year_lt_iff (occurs_iff.mp hoccurs).1 0).mpr (Int.not_le.mp hlt)
  exact Int.not_lt.mpr hrange.year_nonneg hyear

/-- In universal time a text is past the last year exactly when it overruns the last day. -/
theorem year_gt_iff (hoccurs : w.occurs = true) (hrange : w.InRange) :
    lastYear < w.instant.date.year ↔ w.Overruns := by
  have hday : w.date.dayNumber < 2932897 :=
    (Date.year_lt_iff (occurs_iff.mp hoccurs).1 10000).mp (Int.lt_add_one_of_le hrange.year_le)
  have hyear := w.instant.year_lt_iff 10000
  have hnext : (Date.newYear 10000).dayNumber = 2932897 := rfl
  have hlast : ({ year := lastYear, month := 12, day := 31 } : Date).dayNumber = 2932896 := rfl
  have hseconds := secondOfDay_lt hoccurs
  have hnanos := hrange.nanos_lt
  have hoffset := hrange.offset_gt
  rw [Overruns, date_eq_iff hoccurs rfl, hlast]
  rw [hnext, nanos_instant] at hyear
  unfold nanosPerDay nanosPerSecond at hyear
  unfold lastYear
  omega

/-- In universal time a text is before the first year exactly when it underruns the first day. -/
theorem year_neg_iff (hoccurs : w.occurs = true) (hrange : w.InRange) :
    w.instant.date.year < 0 ↔ w.Underruns := by
  have hday := firstDay_le hoccurs hrange
  have hyear := w.instant.year_lt_iff 0
  have hfirst : (Date.newYear 0).dayNumber = -719528 := rfl
  have hnanos := hrange.nanos_lt
  have hoffset := hrange.offset_lt
  rw [Underruns, date_eq_iff hoccurs rfl, hfirst]
  rw [hfirst, nanos_instant] at hyear
  unfold nanosPerDay nanosPerSecond at hyear
  omega

end Written

namespace Instant

/-- An instant has a text exactly when its year can be written. -/
theorem text_eq_empty_iff (i : Instant) : i.text = "" ↔ ¬ i.InCalendar := by
  constructor
  · intro hempty hcalendar
    have hchars := toList_text hcalendar
    rw [hempty] at hchars
    have hlength := congrArg List.length hchars
    simp at hlength
  · intro hbeyond
    exact if_neg hbeyond

theorem ofInput_eq_ok_iff {s : String} {i : Instant} :
    Instant.ofInput s = .ok i ↔ Instant.parse s = .ok i := by
  unfold Instant.ofInput
  cases hparse : Instant.parse s with
  | ok i' => simp
  | error fault => cases fault <;> simp

theorem ofInput_eq_beyond_iff {s : String} :
    Instant.ofInput s = .error .beyondCalendar ↔ Instant.parse s = .error .beyondCalendar := by
  unfold Instant.ofInput
  cases hparse : Instant.parse s with
  | ok i => simp
  | error fault => cases fault <;> simp

/-- The refusal of a text that cannot be read quotes it as it was given. -/
theorem ofInput_error {s : String} {e : InputError} (herror : Instant.ofInput s = .error e) :
    e = .timestamp s ∨ e = .beyondCalendar := by
  unfold Instant.ofInput at herror
  split at herror
  · cases herror
  · exact .inl (Except.error.inj herror).symm
  · exact .inr (Except.error.inj herror).symm

end Instant
end Calendar

/-! ## Searches -/

namespace Calendar.Instant

/-- An instant that can be written is read back from its document. -/
theorem decoder_doc {i : Instant} (hcalendar : i.InCalendar) (r : Json.Reading) :
    Instant.decoder r i.json.doc = .ok i := by
  have hread : Instant.ofInput i.text = .ok i := ofInput_eq_ok_iff.mpr (parse_text hcalendar)
  simp [Instant.decoder, Json.Decoder.refine, Instant.json, hread, Except.bind]

end Calendar.Instant

namespace Rental.RateRequest

open Calendar (Instant)

theorem exact_json (r : RateRequest) : r.json.Exact := by
  refine .object _ fun m hm => ?_
  rcases List.mem_append.mp hm with hm | hm
  · simp only [List.mem_cons, List.not_mem_nil, or_false] at hm
    rcases hm with rfl | rfl | rfl | rfl <;> exact .string _
  · cases hage : r.driverAge with
    | none => simp [hage, Json.member?] at hm
    | some age =>
        simp only [hage, Option.map_some, Json.member?, List.mem_singleton] at hm
        subst hm
        exact Json.Value.exact_word _

/-- A search is read back from its document when both instants can be written. -/
theorem decoder_doc {r : RateRequest} (hpickup : r.pickupAt.InCalendar)
    (hdropoff : r.dropoffAt.InCalendar) (form : Json.Form) (room : Nat) :
    decoder { form, room := room + 1 } r.json.doc = .ok r := by
  have hpickupAt := Instant.decoder_doc hpickup { form, room }
  have hdropoffAt := Instant.decoder_doc hdropoff { form, room }
  have hdriverAge := fun age : UInt8 =>
    Json.Decoder.nullable_doc (Json.Decoder.word8_doc { form, room } age)
  obtain ⟨pickupLocation, dropoffLocation, pickupAt, dropoffAt, driverAge⟩ := r
  cases driverAge <;>
    simp [decoder, Json.Fields.record, Json.Fields.decoder, json, Json.Value.doc,
      Json.member?, Json.Value.memberDocs, Json.Reading.enter, Json.checkMembers,
      Json.Fields.required, Json.Fields.optional, Json.Fields.field, Seq.seq, Functor.map, bind,
      Except.bind, Except.map, Json.Decoder.string, hpickupAt, hdropoffAt, hdriverAge]

/-- A search is read back from its text when both instants can be written. -/
theorem ofText_compact {r : RateRequest} (hpickup : r.pickupAt.InCalendar)
    (hdropoff : r.dropoffAt.InCalendar) : decoder.ofText r.json.compact = .ok r := by
  have hdoc := decoder_doc hpickup hdropoff .text 126
  simp only [Json.Decoder.ofText, Json.Document.read_compact r.exact_json, bind, Except.bind,
    Json.nestingLimit]
  rw [hdoc]
  rfl

end Rental.RateRequest

/-! ## Call records -/

namespace Audit.CallRecord

/-- The time at which its request was sent is a member of a call record in JSON. -/
theorem startedAt_json (c : CallRecord) :
    (c.json.get? "request").bind (Json.Value.get? "startedAt") =
      some (.string c.request.startedAt.text) := by
  have hrequest : c.json.get? "request" = some c.request.json := by
    cases hresponse : c.response <;> cases herror : c.error <;>
      simp [json, Json.Value.get?, Json.member?, hresponse, herror]
  have hstarted : c.request.json.get? "startedAt" = some (.string c.request.startedAt.text) := by
    cases hbody : c.request.body <;>
      simp [RecordedRequest.json, Json.Value.get?, Json.member?, Calendar.Instant.json, hbody]
  rw [hrequest]
  exact hstarted

end Audit.CallRecord

/-! ## The calendar as a whole -/

namespace Calendar.Instant

open Audit (CallRecord)
open Rental (RateRequest)

/-- Reading stays within the years that can be written, except for texts of two days.  A text is
read, or refused with the text as it was given, or it is of the last day and carried over the end of
it, in which case reading crashes.  An instant that is read can be written unless its text is of the
first day and carried over the beginning of it, in which case the instant has no text.  Every
instant that can be written is read back from its text, and so is every search between two such
instants, and the time of every call record that was made at such an instant. -/
theorem reading_stays_in_calendar (s : String) (i : Instant) (r : RateRequest) (c : CallRecord) :
    (Instant.ofInput s = .error .beyondCalendar ↔
      ∃ w, Written.ofText s = some w ∧ w.occurs = true ∧ w.Overruns) ∧
    (∀ e, Instant.ofInput s = .error e → e = .timestamp s ∨ e = .beyondCalendar) ∧
    (Instant.ofInput s = .ok i → ∃ w, Written.ofText s = some w ∧
      (i.InCalendar ↔ ¬ w.counted.Underruns) ∧ (i.text = "" ↔ w.counted.Underruns)) ∧
    (i.InCalendar → Instant.ofInput i.text = .ok i) ∧
    (r.pickupAt.InCalendar → r.dropoffAt.InCalendar →
      RateRequest.decoder.ofText r.json.compact = .ok r) ∧
    (c.request.startedAt.InCalendar →
      ∃ text, (c.json.get? "request").bind (Json.Value.get? "startedAt") = some (.string text) ∧
        Instant.ofInput text = .ok c.request.startedAt) := by
  refine ⟨?_, fun e => ofInput_error, fun hread => ?_,
    fun hcalendar => ofInput_eq_ok_iff.mpr (parse_text hcalendar), RateRequest.ofText_compact,
    fun hcalendar => ⟨_, c.startedAt_json, ofInput_eq_ok_iff.mpr (parse_text hcalendar)⟩⟩
  · rw [ofInput_eq_beyond_iff, parse_eq_beyond_iff]
    refine exists_congr fun w => and_congr_right fun hparts => and_congr_right fun hoccurs => ?_
    exact Written.year_gt_iff hoccurs (Written.inRange_of_ofText hparts)
  · obtain ⟨w, hparts, hoccurs, -, rfl, hyear⟩ := parse_eq_ok_iff.mp (ofInput_eq_ok_iff.mp hread)
    have hbefore := Written.year_neg_iff hoccurs (Written.inRange_of_ofText hparts).counted
    have hcalendar : w.counted.instant.InCalendar ↔ ¬ w.counted.Underruns := by
      rw [← hbefore, InCalendar]
      omega
    refine ⟨w, hparts, hcalendar, ?_⟩
    rw [text_eq_empty_iff, hcalendar, not_not]

/-- A search from the first to the last moment that can be written. -/
def allTime : RateRequest where
  pickupLocation := "LHR"
  dropoffLocation := "LHR"
  pickupAt := { nanos := -62167219200000000000 }
  dropoffAt := { nanos := 253402300799999999999 }
  driverAge := some 30

/-- The record of a call that was made in the last moment that can be written. -/
def lastCall : CallRecord where
  phase := .rates
  request := .of .rates { method := .post, url := "https://supplier.test/availability" }
    allTime.dropoffAt
  response := none
  durationMs := 0
  error := none

/-- The first and the last moment are read in the offsets of largest magnitude for their local
times, and with an offset larger by a minute the last one is not. -/
theorem first_and_last_moment :
    Instant.ofInput "0000-01-01T01:00:00+01:00" = .ok allTime.pickupAt ∧
      Instant.ofInput "9999-12-31T22:59:59.999999999-01:00" = .ok allTime.dropoffAt ∧
      allTime.pickupAt.InCalendar ∧ allTime.dropoffAt.InCalendar ∧
      Instant.ofInput allTime.pickupAt.text = .ok allTime.pickupAt ∧
      RateRequest.decoder.ofText allTime.json.compact = .ok allTime ∧
      (∃ text, (lastCall.json.get? "request").bind (Json.Value.get? "startedAt") =
        some (.string text) ∧ Instant.ofInput text = .ok allTime.dropoffAt) ∧
      ∃ w, Written.ofText "9999-12-31T22:59:59.999999999-01:01" = some w ∧ w.occurs = true ∧
        w.Overruns := by
  have hfirst : Instant.ofInput "0000-01-01T01:00:00+01:00" = .ok allTime.pickupAt := by
    decide +kernel
  have hlast : Instant.ofInput "9999-12-31T22:59:59.999999999-01:00" = .ok allTime.dropoffAt := by
    decide +kernel
  obtain ⟨-, -, hread, htext, hsearch, -⟩ :=
    reading_stays_in_calendar "0000-01-01T01:00:00+01:00" allTime.pickupAt allTime lastCall
  obtain ⟨hbeyond, -, -, -, -, hrecord⟩ :=
    reading_stays_in_calendar "9999-12-31T22:59:59.999999999-01:01" allTime.dropoffAt allTime
      lastCall
  have hpickup : allTime.pickupAt.InCalendar := by
    obtain ⟨w, hparts, hwithin, -⟩ := hread hfirst
    obtain rfl := Option.some.inj
      ((by decide +kernel : Written.ofText "0000-01-01T01:00:00+01:00" = some
        { date := Date.newYear 0, hour := 1, minute := 0, second := 0, nanos := 0
          offset := 3600 }).symm.trans hparts)
    exact hwithin.mpr (by decide)
  have hdropoff : allTime.dropoffAt.InCalendar := by
    unfold InCalendar
    decide +kernel
  exact ⟨hfirst, hlast, hpickup, hdropoff, htext hpickup, hsearch hpickup hdropoff,
    hrecord hdropoff, hbeyond.mp (by decide +kernel)⟩

/-- Reading crashes on the last second of the last day one minute west of universal time, and the
first second of the first day one minute east of it is read as an instant that has no text. -/
theorem ends_of_the_calendar :
    Instant.ofInput "9999-12-31T23:59:59-00:01" = .error .beyondCalendar ∧
      ∃ i, Instant.ofInput "0000-01-01T00:00:00+00:01" = .ok i ∧ i.date.year = -1 ∧ i.text = "" :=
  ⟨by decide +kernel, { nanos := -62167219260000000000 }, by decide +kernel⟩

end Calendar.Instant

end SupplierGateway
