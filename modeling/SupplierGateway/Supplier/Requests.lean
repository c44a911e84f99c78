import SupplierGateway.Credential
import SupplierGateway.Endpoint
import SupplierGateway.Failure
import SupplierGateway.Http.Message
import SupplierGateway.Rental.Booking
import SupplierGateway.Rental.Search
import SupplierGateway.Rental.Vehicle
import SupplierGateway.Text.Percent

/-!
# Requests to a supplier

Suppliers have a JSON interface: a path below the endpoint for each purpose, and a JSON body where
the request has parameters.  A booking is addressed by its reference as one encoded path segment;
there is no request for a blank reference.
-/

namespace SupplierGateway
namespace Supplier

open Http (Request Method)
open Rental

/-- A request, or the reason for which there is none. -/
abbrev Build := Except Failure Request

/-- The name of the interface. -/
def interfaceName : String := "json-rest"

/-- A request below an endpoint that asks for a JSON answer. -/
def request (method : Method) (e : Endpoint) (path : String) : Request :=
  { method, url := e.url path : Request }.withHeader "accept" "application/json"

/-- The body of a token request. -/
def tokenBody (id secret : String) : Json.Value :=
  .object
    [("grant_type", .string "client_credentials"), ("client_id", .string id),
      ("client_secret", .string secret)]

/-- Asks for a token. -/
def token (e : Endpoint) : Credential → Build
  | .client id secret => .ok ((request .post e "/auth/token").withJson (tokenBody id secret))
  | .none | .apiKey .. => .error (.supplier "token request requires client credentials")

/-- Asks for a page of locations. -/
def locations (e : Endpoint) (page : UInt32) : Request :=
  request .get e ("/locations?page=" ++ toString page.toNat)

/-- The body of a search, for one class of vehicles or for all. -/
def searchBody (r : RateRequest) (vehicleClass : Option String) : Json.Value :=
  .object
    ([("pickup_location", .string r.pickupLocation),
      ("dropoff_location", .string r.dropoffLocation),
      ("pickup_at", r.pickupAt.json), ("dropoff_at", r.dropoffAt.json),
      ("rental_days", .word r.rentalDays.toUInt64)] ++
      Json.member? "driver_age" (r.driverAge.map fun age => .word age.toUInt64) ++
      Json.member? "vehicle_class" (vehicleClass.map .string))

/-- Asks which vehicles are available. -/
def availability (e : Endpoint) (r : RateRequest) : Request :=
  (request .post e "/availability").withJson (searchBody r none)

/-- Asks for the price of a candidate. -/
def quote (e : Endpoint) (r : RateRequest) (c : VehicleCandidate) : Request :=
  (request .post e "/quotes").withJson (searchBody r (some c.vehicleClass))

/-- Asks to book a rate. -/
def booking (e : Endpoint) (r : BookingRequest) : Request :=
  (request .post e "/bookings").withJson r.json

/-- The address of a booking. -/
def bookingUrl (e : Endpoint) (reference : String) : Except Failure String :=
  if Text.blank reference then .error (.supplier "booking reference cannot be empty")
  else .ok (e.url ("/bookings/" ++ Text.Percent.encode (Text.trim reference)))

/-- A request about an existing booking. -/
def aboutBooking (method : Method) (e : Endpoint) (reference : String) : Build :=
  match bookingUrl e reference with
  | .ok url => .ok ({ method, url : Request }.withHeader "accept" "application/json")
  | .error f => .error f

/-- A request about a booking is sent to the address that is made of its reference.  There is none
for a blank reference. -/
theorem aboutBooking_cases (method : Method) (e : Endpoint) (reference : String) :
    ((∀ c ∈ reference.toList, Text.isBlank c = true) ∧
      aboutBooking method e reference =
        .error (.supplier "booking reference cannot be empty")) ∨
    (Text.trim reference ≠ "" ∧ ∃ q, aboutBooking method e reference = .ok q ∧
      q.method = method ∧
      q.url = e.url ("/bookings/" ++ Text.Percent.encode (Text.trim reference))) := by
  unfold aboutBooking bookingUrl
  cases hblank : Text.blank reference with
  | true => exact .inl ⟨List.all_eq_true.mp hblank, rfl⟩
  | false =>
      refine .inr ⟨fun hnone => ?_, _, rfl, rfl, rfl⟩
      have htrimmed : Text.trimChars reference.toList = [] := String.ofList_eq_empty_iff.mp hnone
      exact absurd ((Text.blank_iff_trimChars reference).mpr htrimmed) (by simp [hblank])

/-- A request about a booking that was made. -/
theorem aboutBooking_ok {method : Method} {e : Endpoint} {reference : String} {q : Request}
    (hbuilt : aboutBooking method e reference = .ok q) :
    Text.trim reference ≠ "" ∧ q.method = method ∧
      q.url = e.url ("/bookings/" ++ Text.Percent.encode (Text.trim reference)) := by
  rcases aboutBooking_cases method e reference with
    ⟨-, hrefused⟩ | ⟨hreference, q', hok, hmethod, hurl⟩
  · rw [hrefused] at hbuilt
    cases hbuilt
  · obtain rfl := Except.ok.inj (hok.symm.trans hbuilt)
    exact ⟨hreference, hmethod, hurl⟩

/-- Asks for the state of a booking. -/
def bookingStatus (e : Endpoint) (reference : String) : Build :=
  aboutBooking .get e reference

/-- Asks to cancel a booking. -/
def cancel (e : Endpoint) (reference : String) : Build :=
  aboutBooking .delete e reference

end Supplier
end SupplierGateway
