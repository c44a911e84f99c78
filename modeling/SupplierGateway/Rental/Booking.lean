import SupplierGateway.InputError
import SupplierGateway.Json.Decoder
import SupplierGateway.Text.Blank

/-!
# Bookings

A booking is asked for with a rate's reference and the driver's name and address, none of which may
be blank.  A supplier's word for the state of a booking that is not known here is read as unknown.
-/

namespace SupplierGateway
namespace Rental

/-- A request to book a rate: its reference, and the driver's name and address. -/
structure BookingRequest where
  rateReference : String
  firstName : String
  lastName : String
  email : String
deriving DecidableEq, Repr

/-- The states of a booking. -/
inductive BookingState where
  | confirmed | pending | cancelled | unknown
deriving DecidableEq, Repr

/-- A supplier's answer about a booking. -/
structure BookingConfirmation where
  reference : String
  state : BookingState
deriving DecidableEq, Repr

/-- A supplier's answer to a cancellation. -/
structure Cancellation where
  reference : String
  cancelled : Bool
deriving DecidableEq, Repr

namespace BookingRequest

/-- The fields by name, in order. -/
def fields (r : BookingRequest) : List (String × String) :=
  [("rate_reference", r.rateReference), ("first_name", r.firstName),
    ("last_name", r.lastName), ("email", r.email)]

/-- Makes a request from input.  The first blank field is reported. -/
def make (rateReference firstName lastName email : String) :
    Except InputError BookingRequest :=
  let request : BookingRequest := { rateReference, firstName, lastName, email }
  match request.fields.find? fun field => Text.blank field.2 with
  | some field => .error (.emptyField field.1)
  | none => .ok request

/-- A request in JSON. -/
def json (r : BookingRequest) : Json.Value :=
  .object (r.fields.map fun field => (field.1, .string field.2))

/-- Reads a request from JSON. -/
def decoder : Json.Decoder BookingRequest :=
  Json.Fields.record
    (BookingRequest.mk <$> .required "rate_reference" Json.Decoder.string
      <*> .required "first_name" Json.Decoder.string
      <*> .required "last_name" Json.Decoder.string
      <*> .required "email" Json.Decoder.string)
    "BookingRequest"

end BookingRequest

namespace BookingState

/-- The word for a state. -/
def word : BookingState → String
  | confirmed => "confirmed"
  | pending => "pending"
  | cancelled => "cancelled"
  | unknown => "unknown"

/-- The states by their words. -/
def worded : List (String × BookingState) :=
  [confirmed, pending, cancelled, unknown].map fun state => (state.word, state)

/-- A state in JSON. -/
def json (s : BookingState) : Json.Value := .string s.word

/-- Reads a state from JSON. -/
def decoder : Json.Decoder BookingState :=
  Json.Decoder.variant worded (some unknown)

end BookingState

/-- A confirmation in JSON. -/
def BookingConfirmation.json (c : BookingConfirmation) : Json.Value :=
  .object [("reference", .string c.reference), ("state", c.state.json)]

/-- Reads a confirmation from JSON. -/
def BookingConfirmation.decoder : Json.Decoder BookingConfirmation :=
  Json.Fields.record
    (BookingConfirmation.mk <$> .required "reference" Json.Decoder.string
      <*> .required "state" BookingState.decoder)
    "BookingConfirmation"

/-- A cancellation in JSON. -/
def Cancellation.json (c : Cancellation) : Json.Value :=
  .object [("reference", .string c.reference), ("cancelled", .bool c.cancelled)]

/-- Reads a cancellation from JSON. -/
def Cancellation.decoder : Json.Decoder Cancellation :=
  Json.Fields.record
    (Cancellation.mk <$> .required "reference" Json.Decoder.string
      <*> .required "cancelled" Json.Decoder.bool)
    "Cancellation"

end Rental
end SupplierGateway
