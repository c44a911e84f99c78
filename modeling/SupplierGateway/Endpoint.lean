import SupplierGateway.InputError
import SupplierGateway.Text.Ascii
import SupplierGateway.Text.Blank

/-!
# Supplier endpoints

An endpoint is the base of a supplier's addresses.  Surrounding blanks are removed from the given
text first, and slashes at its end after that; what remains must begin with `http://` or `https://`.
-/

namespace SupplierGateway

/-- The base of a supplier's addresses. -/
structure Endpoint where
  base : String
deriving DecidableEq, Repr

namespace Endpoint

/-- Reads an endpoint.  A refused text is quoted as it was given. -/
def parse (text : String) : Except InputError Endpoint :=
  let base := String.ofList (Text.dropTrailing (· == '/') (Text.trimChars text.toList))
  if base.isEmpty then .error .emptyBaseUrl
  else if Text.startsWith "http://" base || Text.startsWith "https://" base then .ok { base }
  else .error (.baseUrl text)

/-- The address of a path below the endpoint. -/
def url (e : Endpoint) (path : String) : String := e.base ++ path

end Endpoint
end SupplierGateway
