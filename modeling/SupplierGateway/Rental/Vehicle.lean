import SupplierGateway.Json.Decoder

/-!
# Vehicles on offer

A search for availability names candidate vehicles.  A quote turns a candidate into a rate that
can be booked.
-/

namespace SupplierGateway
namespace Rental

/-- A class of vehicles that is available. -/
structure VehicleCandidate where
  vehicleClass : String
  description : Option String
deriving DecidableEq, Repr

/-- A bookable price for a class of vehicles. -/
structure VehicleRate where
  vehicleClass : String
  totalAmount : Float
  currency : String
  rateReference : String
deriving DecidableEq, Repr

/-- A candidate in JSON. -/
def VehicleCandidate.json (c : VehicleCandidate) : Json.Value :=
  .object
    (("vehicle_class", .string c.vehicleClass) ::
      Json.member? "description" (c.description.map .string))

/-- Reads a candidate from JSON. -/
def VehicleCandidate.decoder : Json.Decoder VehicleCandidate :=
  Json.Fields.record
    (VehicleCandidate.mk <$> .required "vehicle_class" Json.Decoder.string
      <*> .optional "description" Json.Decoder.string)
    "VehicleCandidate"

/-- A rate in JSON. -/
def VehicleRate.json (r : VehicleRate) : Json.Value :=
  .object
    [("vehicle_class", .string r.vehicleClass), ("total_amount", .number (.fraction r.totalAmount)),
      ("currency", .string r.currency), ("rate_reference", .string r.rateReference)]

/-- Reads a rate from JSON. -/
def VehicleRate.decoder : Json.Decoder VehicleRate :=
  Json.Fields.record
    (VehicleRate.mk <$> .required "vehicle_class" Json.Decoder.string
      <*> .required "total_amount" Json.Decoder.double
      <*> .required "currency" Json.Decoder.string
      <*> .required "rate_reference" Json.Decoder.string)
    "VehicleRate"

end Rental
end SupplierGateway
