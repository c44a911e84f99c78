import SupplierGateway.Http.Classify
import SupplierGateway.Rental.Booking
import SupplierGateway.Rental.Location
import SupplierGateway.Rental.Vehicle

/-!
# Replies of a supplier

A reply is a JSON body.  A supplier reports an error of its own by a text under `error`, which
counts before anything else in the body.  Otherwise the declared fields are read and all others are
ignored.
-/

namespace SupplierGateway
namespace Supplier

open Json (Decoder Fields Value)
open Rental

/-- A token and the seconds for which it is valid. -/
structure IssuedToken where
  token : String
  lifetimeSecs : UInt64
deriving DecidableEq, Repr

/-- A body that is not as declared. -/
def malformed (fault : Json.Fault) : Failure := .malformedBody fault.message

/-- The error that a supplier reports in a body. -/
def reportedError (v : Value) : Option Failure :=
  Failure.ofDomain ((v.get? "error").bind Value.string?)

/-- Reads a body, looking for a reported error first. -/
def readBody {α : Type} (d : Decoder α) (body : String) : Except Failure α :=
  match Value.parse? body with
  | none => .error (malformed .malformed)
  | some v =>
      match reportedError v with
      | some f => .error f
      | none =>
          match d.ofValue v with
          | .ok a => .ok a
          | .error fault => .error (malformed fault)

/-! ## Tokens -/

/-- The declared fields of an issued token. -/
def tokenPayload : Decoder IssuedToken :=
  Fields.record
    (IssuedToken.mk <$> .required "access_token" Decoder.string
      <*> .defaulting "expires_in" Decoder.word64 0)
    "TokenPayload"

/-- Reads an issued token, which must not be blank. -/
def readToken (body : String) : Except Failure IssuedToken := do
  let issued ← readBody tokenPayload body
  if Text.blank issued.token then .error (.malformedBody "empty access_token") else .ok issued

/-! ## Locations -/

/-- The declared fields of a page of locations. -/
def locationsPayload : Decoder LocationPage :=
  Fields.record
    ((fun pages locations => { locations, totalPages := pages : LocationPage })
      <$> .defaulting "total_pages" Decoder.word32 1
      <*> .defaulting "locations" (Decoder.list Location.decoder) [])
    "LocationsPagePayload"

/-- Reads a page of locations.  There is always at least one page. -/
def readLocations (body : String) : Except Failure LocationPage := do
  let page ← readBody locationsPayload body
  .ok { page with totalPages := max page.totalPages 1 }

/-! ## Vehicles -/

/-- The declared fields of an availability. -/
def availabilityPayload : Decoder (List VehicleCandidate) :=
  Fields.record (.defaulting "vehicles" (Decoder.list VehicleCandidate.decoder) [])
    "AvailabilityPayload"

/-- Reads the candidates of a search. -/
def readAvailability (body : String) : Except Failure (List VehicleCandidate) :=
  readBody availabilityPayload body

/-- The declared fields of an amount of money. -/
def moneyPayload : Decoder (Float × String) :=
  Fields.record
    (Prod.mk <$> .required "amount" Decoder.double <*> .required "currency" Decoder.string)
    "MoneyPayload"

/-- The declared fields of a quote. -/
def quotePayload : Decoder VehicleRate :=
  Fields.record
    ((fun vehicleClass (totalAmount, currency) rateReference =>
        { vehicleClass, totalAmount, currency, rateReference : VehicleRate })
      <$> .required "vehicle_class" Decoder.string
      <*> .required "total" moneyPayload
      <*> .required "rate_reference" Decoder.string)
    "QuotePayload"

/-- Reads a quote, whose amount must be finite and not negative. -/
def readQuote (body : String) : Except Failure VehicleRate := do
  let rate ← readBody quotePayload body
  if !rate.totalAmount.isFinite || rate.totalAmount < 0.0 then
    .error
      (.malformedBody ("invalid total amount " ++ Decimal.Layout.plain.text rate.totalAmount))
  else .ok rate

/-! ## Bookings -/

/-- The declared fields of a booking. -/
def bookingPayload : Decoder BookingConfirmation :=
  Fields.record
    (BookingConfirmation.mk <$> .required "reference" Decoder.string
      <*> .required "status" BookingState.decoder)
    "BookingPayload"

/-- Reads the state of a booking. -/
def readBooking (body : String) : Except Failure BookingConfirmation :=
  readBody bookingPayload body

/-- The declared fields of a cancellation. -/
def cancellationPayload : Decoder Cancellation :=
  Fields.record
    (Cancellation.mk <$> .required "reference" Decoder.string
      <*> .defaulting "cancelled" Decoder.bool false)
    "CancellationPayload"

/-- Reads a cancellation. -/
def readCancellation (body : String) : Except Failure Cancellation :=
  readBody cancellationPayload body

end Supplier
end SupplierGateway
