import Mathlib.Order.Bounds.Basic
import SupplierGateway.Proofs.Calendar.Limits
import SupplierGateway.Proofs.Json.Members
import SupplierGateway.Supplier.Requests

/-!
# The days that are billed

A rental is billed by whole days of twenty-four hours, and a day that has begun counts.  The number
of days is the least one that reaches from the beginning of the rental to its end.  It follows that
a longer rental is not billed for fewer days, and neither is a rental that is split in two.

The number has 32 bits and is cut off at the largest of them.  Two instants that are named by texts
are less than four million days apart, so that their number of days is never cut off.

* `Instant.rentalDays_le_iff_of_lt` and `Instant.Named.rentalDays_le_iff` — the number of days as an
  adjoint to adding days, in general and between named instants;
* `Supplier.exists_read_searchBody` — the number as it is read from the body of a request;
* `Instant.billed_days_are_begun_days` — the conjunction of these properties;
* `Instant.billed_to_the_nanosecond` — a rental of whole days and one that is a nanosecond longer.
-/

namespace SupplierGateway
namespace Calendar
namespace Instant

/-- The instant so many days of twenty-four hours later. -/
def after (i : Instant) (days : Nat) : Instant := { nanos := i.nanos + days * nanosPerDay }

/-- An instant that some text names. -/
def Named (i : Instant) : Prop := ∃ text, Instant.parse text = .ok i

/-! ## The least number of days -/

theorem le_after_iff {a b : Instant} {days : Nat} :
    b ≤ a.after days ↔ b.nanos - a.nanos ≤ days * nanosPerDay := by
  change b.nanos ≤ a.nanos + days * nanosPerDay ↔ _
  omega

/-- Below the largest number of 32 bits, at most `n` days are billed iff `n` days after the
beginning is not before the end. -/
theorem rentalDays_le_iff_of_lt (a b : Instant) {days : Nat} (hdays : days < UInt32.size - 1) :
    (a.rentalDaysUntil b).toNat ≤ days ↔ b ≤ a.after days := by
  rw [le_after_iff]
  unfold rentalDaysUntil
  unfold UInt32.size at *
  unfold nanosPerDay nanosPerSecond
  by_cases hspan : b.nanos - a.nanos ≤ 0
  · rw [if_pos hspan]
    exact iff_of_true (Nat.zero_le _) (by omega)
  · simp only [if_neg hspan, UInt32.toNat_ofNat']
    split <;> omega

/-- A rental that ends after its beginning is billed for at least one day. -/
theorem one_le_rentalDays {a b : Instant} (hlt : a < b) : 1 ≤ a.rentalDaysUntil b := by
  have hreach : ¬ b ≤ a.after 0 := by
    rw [le_after_iff]
    change a.nanos < b.nanos at hlt
    omega
  have hpos : ¬ (a.rentalDaysUntil b).toNat ≤ 0 :=
    (rentalDays_le_iff_of_lt a b (by decide)).not.mpr hreach
  rw [UInt32.le_iff_toNat_le]
  exact Nat.lt_of_not_le hpos

namespace Named

variable {a b c : Instant}

/-- An instant that a text names lies between the last day of the year before year zero and the end
of the year 9999. -/
theorem bounds {i : Instant} (hnamed : i.Named) :
    -719529 * nanosPerDay ≤ i.nanos ∧ i.nanos < 2932897 * nanosPerDay := by
  obtain ⟨s, hparse⟩ := hnamed
  obtain ⟨w, hparts, hoccurs, -, rfl, hyear⟩ := parse_eq_ok_iff.mp hparse
  have hrange := (Written.inRange_of_ofText hparts).counted
  constructor
  · -- The offset carries a text of the first day to the day before at most.
    have hday := Written.firstDay_le hoccurs hrange
    have hoffset := hrange.offset_lt
    rw [Written.nanos_instant]
    unfold nanosPerDay nanosPerSecond
    omega
  · have hnext : (Date.newYear 10000).dayNumber = 2932897 := rfl
    have hlt := (year_lt_iff _ 10000).mp (Int.lt_add_one_of_le hyear)
    rwa [hnext, Int.mul_comm] at hlt

/-- The number of days between named instants is below the largest number of 32 bits. -/
theorem rentalDays_lt (ha : a.Named) (hb : b.Named) :
    (a.rentalDaysUntil b).toNat < UInt32.size - 1 := by
  have hreach : b ≤ a.after 3652426 := by
    have hpickup := ha.bounds.1
    have hdropoff := hb.bounds.2
    rw [le_after_iff]
    unfold nanosPerDay nanosPerSecond at *
    omega
  have hle := (rentalDays_le_iff_of_lt a b (by decide)).mpr hreach
  exact Nat.lt_of_le_of_lt hle (by decide)

/-- Between named instants, at most `n` days are billed iff `n` days after the first is not before
the second. -/
theorem rentalDays_le_iff (ha : a.Named) (hb : b.Named) {days : Nat} :
    (a.rentalDaysUntil b).toNat ≤ days ↔ b ≤ a.after days := by
  by_cases hdays : days < UInt32.size - 1
  · exact rentalDays_le_iff_of_lt a b hdays
  · -- Then both sides hold, since the days that are billed are fewer and reach the end already.
    have hlt := rentalDays_lt ha hb
    have hreach := (rentalDays_le_iff_of_lt a b hlt).mp le_rfl
    refine iff_of_true (by omega) ?_
    rw [le_after_iff] at hreach ⊢
    unfold nanosPerDay nanosPerSecond at *
    omega

/-- The days that are billed reach the end. -/
theorem le_after_rentalDays (ha : a.Named) (hb : b.Named) :
    b ≤ a.after (a.rentalDaysUntil b).toNat :=
  (ha.rentalDays_le_iff hb).mp le_rfl

/-- Nothing is billed when the end is not later. -/
theorem rentalDays_of_le (ha : a.Named) (hb : b.Named) (hle : b ≤ a) : a.rentalDaysUntil b = 0 := by
  have hreach : b ≤ a.after 0 := by
    change b.nanos ≤ a.nanos at hle
    rw [le_after_iff]
    omega
  exact UInt32.toNat.inj (Nat.le_zero.mp ((ha.rentalDays_le_iff hb).mpr hreach))

theorem isLeast_rentalDays (ha : a.Named) (hb : b.Named) :
    IsLeast {days : Nat | b ≤ a.after days} (a.rentalDaysUntil b).toNat :=
  ⟨ha.le_after_rentalDays hb, fun _ hreach => (ha.rentalDays_le_iff hb).mpr hreach⟩

/-- A rental that ends later is billed for at least as many days. -/
theorem rentalDays_mono (ha : a.Named) (hb : b.Named) (hc : c.Named) (hbc : b ≤ c) :
    a.rentalDaysUntil b ≤ a.rentalDaysUntil c := by
  rw [UInt32.le_iff_toNat_le, ha.rentalDays_le_iff hb]
  exact Int.le_trans hbc (ha.le_after_rentalDays hc)

/-- A rental that begins earlier is billed for at least as many days. -/
theorem rentalDays_anti (ha : a.Named) (hb : b.Named) (hc : c.Named) (hab : a ≤ b) :
    b.rentalDaysUntil c ≤ a.rentalDaysUntil c := by
  rw [UInt32.le_iff_toNat_le, hb.rentalDays_le_iff hc]
  have hreach := ha.le_after_rentalDays hc
  change a.nanos ≤ b.nanos at hab
  rw [le_after_iff] at hreach ⊢
  omega

/-- A rental that is split in two is billed for at least as many days. -/
theorem rentalDays_triangle (ha : a.Named) (hb : b.Named) (hc : c.Named) :
    (a.rentalDaysUntil c).toNat ≤ (a.rentalDaysUntil b).toNat + (b.rentalDaysUntil c).toNat := by
  have hfirst := le_after_iff.mp (ha.le_after_rentalDays hb)
  have hsecond := le_after_iff.mp (hb.le_after_rentalDays hc)
  rw [ha.rentalDays_le_iff hc, le_after_iff]
  unfold nanosPerDay nanosPerSecond at *
  omega

end Named
end Instant
end Calendar

/-! ## The number in the body of a request -/

namespace Supplier

open Json (Value)
open Rental

/-- The members of a search are texts and numbers. -/
theorem searchBody_members (r : RateRequest) (vehicleClass : Option String)
    {P : Value → Prop} (hstring : ∀ s, P (.string s)) (hword : ∀ n, P (.word n)) :
    ∃ members, searchBody r vehicleClass = .object members ∧ ∀ m ∈ members, P m.2 := by
  refine ⟨_, rfl, fun m hm => ?_⟩
  cases hage : r.driverAge <;> cases hclass : vehicleClass <;>
    simp only [hage, hclass, Json.member?, Option.map_none, Option.map_some, List.append_nil,
      List.cons_append, List.nil_append, List.mem_cons, List.not_mem_nil, or_false,
      Calendar.Instant.json] at hm <;>
    rcases hm with rfl | rfl | rfl | rfl | rfl | rfl | rfl <;>
    first | exact hstring _ | exact hword _

/-- The number of days is a member of the body of a search. -/
theorem exists_read_searchBody (r : RateRequest) (vehicleClass : Option String) :
    ∃ v, Value.parse? (searchBody r vehicleClass).compact = some v ∧
      v.get? "rental_days" = some (.word r.rentalDays.toUInt64) := by
  have hexact : (searchBody r vehicleClass).Exact := by
    obtain ⟨members, hbody, hmembers⟩ :=
      searchBody_members r vehicleClass Value.Exact.string Value.exact_word
    exact hbody ▸ .object members hmembers
  have hwithin : (searchBody r vehicleClass).Within Json.nestingLimit := by
    obtain ⟨members, hbody, hmembers⟩ :=
      searchBody_members r vehicleClass (Value.Within.string 126) fun n =>
        Value.Within.number 126 (.natural n)
    exact hbody ▸ .object 126 members hmembers
  have hdays : (searchBody r vehicleClass).get? "rental_days" =
      some (.word r.rentalDays.toUInt64) := by
    cases hage : r.driverAge <;> cases vehicleClass <;>
      simp [searchBody, hage, Json.member?, Value.get?]
  refine ⟨_, Value.parse?_compact hexact hwithin, ?_⟩
  rw [Json.get?_sorted, hdays]
  simp [Value.word, Value.sorted]

end Supplier

namespace Calendar.Instant

open Json (Value)
open Rental (RateRequest VehicleCandidate)

/-! ## Billing as a whole -/

/-- Rentals are billed by begun days.  Between two instants that texts name nothing is billed when the
second one is not later, and otherwise the least number of days that reach it from the first one, which
is never the largest number of 32 bits; so the days do not get fewer when a rental ends later, begins
earlier or is split in two.  A search that is made from outside input is billed for one day at least,
and requests for availability and for quotes tell the supplier the number of days of their search. -/
theorem billed_days_are_begun_days :
    (∀ a b : Instant, a.Named → b.Named →
      (b ≤ a → a.rentalDaysUntil b = 0) ∧
      (a < b → IsLeast {days : Nat | b ≤ a.after days} (a.rentalDaysUntil b).toNat) ∧
      (a.rentalDaysUntil b).toNat < UInt32.size - 1) ∧
    (∀ a b c : Instant, a.Named → b.Named → c.Named →
      (b ≤ c → a.rentalDaysUntil b ≤ a.rentalDaysUntil c) ∧
      (a ≤ b → b.rentalDaysUntil c ≤ a.rentalDaysUntil c) ∧
      (a.rentalDaysUntil c).toNat ≤ (a.rentalDaysUntil b).toNat + (b.rentalDaysUntil c).toNat) ∧
    (∀ pickupLocation dropoffLocation a b r,
      RateRequest.make pickupLocation dropoffLocation a b = .ok r → 1 ≤ r.rentalDays) ∧
    ∀ (e : Endpoint) (r : RateRequest) (candidate : VehicleCandidate),
      ∀ q ∈ [Supplier.availability e r, Supplier.quote e r candidate],
        ∃ body v, q.body = some body ∧ Value.parse? body = some v ∧
          v.get? "rental_days" = some (.word r.rentalDays.toUInt64) := by
  refine ⟨fun a b ha hb => ⟨ha.rentalDays_of_le hb, fun _ => ha.isLeast_rentalDays hb,
    ha.rentalDays_lt hb⟩, fun a b c ha hb hc => ⟨ha.rentalDays_mono hb hc,
    ha.rentalDays_anti hb hc, ha.rentalDays_triangle hb hc⟩, fun _ _ a b r hmake => ?_,
    fun e r candidate q hq => ?_⟩
  · unfold RateRequest.make at hmake
    split at hmake
    · cases hmake
    split at hmake
    · cases hmake
    split at hmake
    · cases hmake
    · next horder =>
      cases hmake
      exact one_le_rentalDays (Int.not_le.mp horder)
  · obtain ⟨vehicleClass, hbody⟩ : ∃ vehicleClass,
        q.body = some (Supplier.searchBody r vehicleClass).compact := by
      simp only [List.mem_cons, List.not_mem_nil, or_false] at hq
      rcases hq with rfl | rfl
      · exact ⟨none, rfl⟩
      · exact ⟨some candidate.vehicleClass, rfl⟩
    obtain ⟨v, hparse, hdays⟩ := Supplier.exists_read_searchBody r vehicleClass
    exact ⟨_, v, hbody, hparse, hdays⟩

/-- The morning on which a rental begins. -/
def pickup : Instant := { nanos := 1743321600000000000 }

/-- Two days later, to the nanosecond. -/
def dropoff : Instant := { nanos := 1743494400000000000 }

/-- A nanosecond after that. -/
def lateDropoff : Instant := { nanos := 1743494400000000001 }

/-- A rental of two days is billed for two days, and one that is a nanosecond longer for three; the
nanosecond alone is billed for one, and no time or less than that is not billed. -/
theorem billed_to_the_nanosecond :
    pickup.Named ∧ dropoff.Named ∧ lateDropoff.Named ∧
      pickup.rentalDaysUntil dropoff = 2 ∧ pickup.rentalDaysUntil lateDropoff = 3 ∧
      dropoff.rentalDaysUntil lateDropoff = 1 ∧
      IsLeast {days : Nat | lateDropoff ≤ pickup.after days} 3 ∧
      dropoff.rentalDaysUntil pickup = 0 ∧ pickup.rentalDaysUntil pickup = 0 ∧
      pickup.rentalDaysUntil dropoff ≤ pickup.rentalDaysUntil lateDropoff ∧
      dropoff.rentalDaysUntil lateDropoff ≤ pickup.rentalDaysUntil lateDropoff ∧
      ∃ r, RateRequest.make "LHR" "LGW" pickup lateDropoff = .ok r ∧ 1 ≤ r.rentalDays ∧
        ∃ body v, (Supplier.availability { base := "https://supplier.test" } r).body = some body ∧
          Value.parse? body = some v ∧ v.get? "rental_days" = some (.word 3) := by
  obtain ⟨hdays, hcompared, hmake, hsent⟩ := billed_days_are_begun_days
  have hpickup : pickup.Named := ⟨"2025-03-30T10:00:00+02:00", by decide +kernel⟩
  have hdropoff : dropoff.Named := ⟨"2025-04-01T08:00:00Z", by decide +kernel⟩
  have hlate : lateDropoff.Named := ⟨"2025-04-01T09:00:00.000000001+01:00", by decide +kernel⟩
  obtain ⟨hmono, hanti, -⟩ := hcompared _ _ _ hpickup hdropoff hlate
  refine ⟨hpickup, hdropoff, hlate, by decide, by decide, by decide,
    (hdays _ _ hpickup hlate).2.1 (by decide), (hdays _ _ hdropoff hpickup).1 (by decide),
    (hdays _ _ hpickup hpickup).1 (by decide), hmono (by decide), hanti (by decide), ?_⟩
  have hsearch := (rfl : RateRequest.make "LHR" "LGW" pickup lateDropoff = .ok _)
  exact ⟨_, hsearch, hmake _ _ _ _ _ hsearch,
    hsent _ _ { vehicleClass := "compact", description := none } _ List.mem_cons_self⟩

end Calendar.Instant
end SupplierGateway
