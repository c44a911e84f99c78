import SupplierGateway.Proofs.Calendar.Limits
import SupplierGateway.Proofs.Json.Records
import SupplierGateway.Supplier.Requests

/-!
# Bodies of requests

The body of a request is an object with the names that the supplier expects and no others, and under
each of them stands the value from which the request was built, character for character.  The two
instants of a search are written as texts that name them, if their years can be written.  The age of
the driver is a member when it is known, and the body of a quote request is that of the search with
the class of the candidate added.

* `searchMembers` — the members of a search of any kind, given the texts of its two instants;
* `spells_searchBody`, `spells_bookingBody` and `spells_tokenBody` — one body each;
* `request_bodies_faithful` — the bodies of all requests that have one;
* `awkward_texts_sent` — texts with quotes, backslashes and control characters.
-/

namespace SupplierGateway
namespace Supplier

open Calendar (Instant)
open Json (Spells Value)
open Rental

/-- The members of a search whose instants have these texts. -/
def searchMembers (r : RateRequest) (pickup dropoff : String) : List (String × Value) :=
  [("pickup_location", .string r.pickupLocation), ("dropoff_location", .string r.dropoffLocation),
    ("pickup_at", .string pickup), ("dropoff_at", .string dropoff),
    ("rental_days", .word r.rentalDays.toUInt64)] ++
  (r.driverAge.map fun age => ("driver_age", Value.word age.toUInt64)).toList

/-- The body of a search is made of its members, and of the class when only one is asked for. -/
theorem searchBody_eq (r : RateRequest) (vehicleClass : Option String) :
    searchBody r vehicleClass =
      .object (searchMembers r r.pickupAt.text r.dropoffAt.text ++
        (vehicleClass.map fun name => ("vehicle_class", Value.string name)).toList) := by
  cases hage : r.driverAge <;> cases vehicleClass <;>
    simp [searchBody, searchMembers, Json.member?, Instant.json, hage]

theorem spells_searchBody (r : RateRequest) (vehicleClass : Option String) :
    Spells (searchBody r vehicleClass).compact
      (searchMembers r r.pickupAt.text r.dropoffAt.text ++
        (vehicleClass.map fun name => ("vehicle_class", Value.string name)).toList) := by
  rw [searchBody_eq]
  refine Json.spells_plain ?_ ?_
  · cases hage : r.driverAge <;> cases vehicleClass <;>
      simp [searchMembers, hage, Value.Plain.word, Value.Plain.string]
  · cases hage : r.driverAge <;> cases vehicleClass <;> simp [searchMembers, hage]

theorem spells_bookingBody (r : BookingRequest) :
    Spells r.json.compact
      [("rate_reference", .string r.rateReference), ("first_name", .string r.firstName),
        ("last_name", .string r.lastName), ("email", .string r.email)] :=
  Json.spells_plain (by simp [BookingRequest.fields, Value.Plain.string])
    (by simp [BookingRequest.fields])

theorem spells_tokenBody (id secret : String) :
    Spells (tokenBody id secret).compact
      [("grant_type", .string "client_credentials"), ("client_id", .string id),
        ("client_secret", .string secret)] :=
  Json.spells_plain (by simp [Value.Plain.string]) (by simp)

/-- A search that is made has the fields from which it was made. -/
theorem make_eq_ok {pickupLocation dropoffLocation : String} {pickupAt dropoffAt : Instant}
    {r : RateRequest}
    (hmake : RateRequest.make pickupLocation dropoffLocation pickupAt dropoffAt = .ok r) :
    r = { pickupLocation, dropoffLocation, pickupAt, dropoffAt, driverAge := none } := by
  simp only [RateRequest.make] at hmake
  split at hmake
  · cases hmake
  split at hmake
  · cases hmake
  split at hmake
  · cases hmake
  · exact (Except.ok.inj hmake).symm

/-- The bodies of requests have exactly the values from which the requests were built.  A token
request has the client's name and secret, a booking the four texts of its request, and requests for
vehicles and quotes have the search as it was made: locations, days and the age of the driver if it
is known, and two texts that name the instants if their years can be written.  The body of a quote
request is that of the search with the class of the candidate added. -/
theorem request_bodies_faithful (e : Endpoint) :
    (∀ id secret, ∃ q body, token e (.client id secret) = .ok q ∧ q.body = some body ∧
      Spells body
        [("grant_type", .string "client_credentials"), ("client_id", .string id),
          ("client_secret", .string secret)]) ∧
    (∀ b : BookingRequest, ∃ body, (booking e b).body = some body ∧
      Spells body
        [("rate_reference", .string b.rateReference), ("first_name", .string b.firstName),
          ("last_name", .string b.lastName), ("email", .string b.email)]) ∧
    (∀ (r : RateRequest) (c : VehicleCandidate), ∃ search priced pickup dropoff,
      (availability e r).body = some search ∧ (quote e r c).body = some priced ∧
      Spells search (searchMembers r pickup dropoff) ∧
      Spells priced
        (searchMembers r pickup dropoff ++ [("vehicle_class", .string c.vehicleClass)]) ∧
      (r.pickupAt.InCalendar → Instant.ofInput pickup = .ok r.pickupAt) ∧
      (r.dropoffAt.InCalendar → Instant.ofInput dropoff = .ok r.dropoffAt)) ∧
    ∀ pickupLocation dropoffLocation pickupAt dropoffAt r,
      RateRequest.make pickupLocation dropoffLocation pickupAt dropoffAt = .ok r →
        r = { pickupLocation, dropoffLocation, pickupAt, dropoffAt, driverAge := none } := by
  refine ⟨fun id secret => ⟨_, _, rfl, rfl, spells_tokenBody id secret⟩,
    fun b => ⟨_, rfl, spells_bookingBody b⟩, fun r c => ?_, fun _ _ _ _ _ => make_eq_ok⟩
  have hsearch := spells_searchBody r none
  have hpriced := spells_searchBody r (some c.vehicleClass)
  simp only [Option.map_none, Option.toList_none, List.append_nil] at hsearch
  exact ⟨_, _, r.pickupAt.text, r.dropoffAt.text, rfl, rfl, hsearch, hpriced,
    fun hcalendar => Instant.ofInput_eq_ok_iff.mpr (Instant.parse_text hcalendar),
    fun hcalendar => Instant.ofInput_eq_ok_iff.mpr (Instant.parse_text hcalendar)⟩

/-- A search of a young driver, whose locations have to be escaped, for the two days after the turn
of a century. -/
def awkwardSearch : RateRequest :=
  RateRequest.withDriverAge
    { pickupLocation := "\"Gate\\7\"", dropoffLocation := "\t\x01é"
      pickupAt := { nanos := 946684800000000000 }, dropoffAt := { nanos := 946857600000000000 }
      driverAge := none } 19

/-- A client whose secret has a quote and a line break in it, and a search whose locations have quotes,
a backslash and control characters. -/
theorem awkward_texts_sent :
    (∃ body, (∃ q, token { base := "https://supplier.test" } (.client "id" "a\"\n") = .ok q ∧
        q.body = some body) ∧
      Spells body
        [("grant_type", .string "client_credentials"), ("client_id", .string "id"),
          ("client_secret", .string "a\"\n")]) ∧
    (∃ made, RateRequest.make awkwardSearch.pickupLocation awkwardSearch.dropoffLocation
        awkwardSearch.pickupAt awkwardSearch.dropoffAt = .ok made ∧
      made.withDriverAge 19 = awkwardSearch) ∧
    ∃ priced pickup dropoff,
      (quote { base := "https://supplier.test" } awkwardSearch
        { vehicleClass := "\\", description := none }).body = some priced ∧
      Spells priced
        [("pickup_location", .string "\"Gate\\7\""), ("dropoff_location", .string "\t\x01é"),
          ("pickup_at", .string pickup), ("dropoff_at", .string dropoff), ("rental_days", .word 2),
          ("driver_age", .word 19), ("vehicle_class", .string "\\")] ∧
      Instant.ofInput pickup = .ok awkwardSearch.pickupAt ∧
      Instant.ofInput dropoff = .ok awkwardSearch.dropoffAt := by
  obtain ⟨htoken, -, hsearch, hmade⟩ := request_bodies_faithful { base := "https://supplier.test" }
  obtain ⟨q, body, hq, hbody, hspells⟩ := htoken "id" "a\"\n"
  obtain ⟨made, hmake⟩ : ∃ made, RateRequest.make awkwardSearch.pickupLocation
      awkwardSearch.dropoffLocation awkwardSearch.pickupAt awkwardSearch.dropoffAt = .ok made :=
    ⟨_, rfl⟩
  have hkept : made.withDriverAge 19 = awkwardSearch := by
    rw [hmade _ _ _ _ _ hmake]
    rfl
  obtain ⟨-, priced, pickup, dropoff, -, hpriced, -, hmembers, hpickup, hdropoff⟩ :=
    hsearch awkwardSearch { vehicleClass := "\\", description := none }
  have hcalendar : awkwardSearch.pickupAt.InCalendar ∧ awkwardSearch.dropoffAt.InCalendar := by
    unfold Instant.InCalendar
    decide +kernel
  exact ⟨⟨body, ⟨q, hq, hbody⟩, hspells⟩, ⟨made, hmake, hkept⟩, priced, pickup, dropoff, hpriced,
    hmembers, hpickup hcalendar.1, hdropoff hcalendar.2⟩

end Supplier
end SupplierGateway
