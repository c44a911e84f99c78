import SupplierGateway.Failure
import SupplierGateway.Http.Message
import SupplierGateway.Text.Blank

/-!
# From outcomes to failures

A response counts only when it is a success.  A transport error is a timeout when its kind or its
message says so, and a connection failure otherwise.
-/

namespace SupplierGateway
namespace Http

/-- The error says that time ran out. -/
def TransportError.isDeadline (e : TransportError) : Bool :=
  e.kind == .timeout ||
    Text.occursIn "deadline exceeded" (Text.lower e.message) ||
    Text.occursIn "timed out" (Text.lower e.message)

/-- The response of a success, or the failure that an outcome amounts to. -/
def classify : Outcome → Except Failure Response
  | .error e =>
      if e.isDeadline then .error (.timeout e.message) else .error (.connection e.message)
  | .ok response =>
      if response.isSuccess then .ok response else .error (.ofStatus response.status)

end Http

/-- The failure that a supplier's own error text amounts to, when it is not blank. -/
def Failure.ofDomain (message : Option String) : Option Failure :=
  (message.map Text.trim).bind fun text =>
    if text.isEmpty then none else some (.supplier text)

end SupplierGateway
