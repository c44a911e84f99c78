import SupplierGateway.Calendar.Instant
import SupplierGateway.InputError
import SupplierGateway.Json.Decoder

/-!
# Rate searches

A search names the two locations and the two instants of a rental.  A search made from outside
input has locations that are not blank and ends after it begins; a search read back from JSON is
taken as it is.
-/

namespace SupplierGateway
namespace Calendar

/-- Reads an instant from a text that was given from outside. -/
def Instant.ofInput (text : String) : Except InputError Instant :=
  match Instant.parse text with
  | .ok i => .ok i
  | .error .unreadable => .error (.timestamp text)
  | .error .beyondCalendar => .error .beyondCalendar

/-- An instant in JSON. -/
def Instant.json (i : Instant) : Json.Value := .string i.text

/-- Reads an instant from JSON. -/
def Instant.decoder : Json.Decoder Instant :=
  Json.Decoder.refine Json.Decoder.string fun text =>
    match Instant.ofInput text with
    | .ok i => .ok i
    | .error .beyondCalendar => .error (.abandoned (InputError.message .beyondCalendar))
    | .error e => .error (.rejected e.message)

end Calendar

namespace Rental

open Calendar (Instant)

/-- A search for vehicles at two locations between two instants. -/
structure RateRequest where
  pickupLocation : String
  dropoffLocation : String
  pickupAt : Instant
  dropoffAt : Instant
  driverAge : Option UInt8
deriving DecidableEq, Repr

namespace RateRequest

/-- Makes a search from input.  The pick-up location is checked first, then the drop-off location,
then the order of the instants. -/
def make (pickupLocation dropoffLocation : String) (pickupAt dropoffAt : Instant) :
    Except InputError RateRequest :=
  if Text.blank pickupLocation then .error (.emptyField "pickup_location")
  else if Text.blank dropoffLocation then .error (.emptyField "dropoff_location")
  else if dropoffAt ≤ pickupAt then .error .rentalPeriod
  else .ok { pickupLocation, dropoffLocation, pickupAt, dropoffAt, driverAge := none }

/-- Adds the age of the driver. -/
def withDriverAge (r : RateRequest) (age : UInt8) : RateRequest :=
  { r with driverAge := some age }

/-- The number of days that are billed. -/
def rentalDays (r : RateRequest) : UInt32 :=
  r.pickupAt.rentalDaysUntil r.dropoffAt

/-- A search in JSON. -/
def json (r : RateRequest) : Json.Value :=
  .object
    ([("pickup_location", .string r.pickupLocation),
      ("dropoff_location", .string r.dropoffLocation),
      ("pickup_at", r.pickupAt.json), ("dropoff_at", r.dropoffAt.json)] ++
      Json.member? "driver_age" (r.driverAge.map fun age => .word age.toUInt64))

/-- Reads a search from JSON. -/
def decoder : Json.Decoder RateRequest :=
  Json.Fields.record
    (RateRequest.mk <$> .required "pickup_location" Json.Decoder.string
      <*> .required "dropoff_location" Json.Decoder.string
      <*> .required "pickup_at" Instant.decoder
      <*> .required "dropoff_at" Instant.decoder
      <*> .optional "driver_age" Json.Decoder.word8)
    "RateRequest"

end RateRequest
end Rental
end SupplierGateway
