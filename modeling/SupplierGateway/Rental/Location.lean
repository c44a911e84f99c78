import SupplierGateway.Json.Decoder

/-!
# Rental locations

Suppliers list their locations page by page.  Every page says how many pages there are.
-/

namespace SupplierGateway
namespace Rental

/-- A place where cars are picked up and dropped off. -/
structure Location where
  code : String
  name : String
  countryCode : Option String
  city : Option String
deriving DecidableEq, Repr

/-- One page of a supplier's locations. -/
structure LocationPage where
  locations : List Location
  totalPages : UInt32
deriving DecidableEq, Repr

/-- A location in JSON. -/
def Location.json (l : Location) : Json.Value :=
  .object
    ([("code", .string l.code), ("name", .string l.name)] ++
      Json.member? "country_code" (l.countryCode.map .string) ++
      Json.member? "city" (l.city.map .string))

/-- Reads a location from JSON. -/
def Location.decoder : Json.Decoder Location :=
  Json.Fields.record
    (Location.mk <$> .required "code" Json.Decoder.string
      <*> .required "name" Json.Decoder.string
      <*> .optional "country_code" Json.Decoder.string
      <*> .optional "city" Json.Decoder.string)
    "Location"

end Rental
end SupplierGateway
