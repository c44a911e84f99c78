import SupplierGateway.Call.Pipeline

/-!
# Pending calls

A call that an operation undertakes may have its result before anything is sent: there may be no
request, or an interceptor may answer it.  Either way the call is pending from its beginning until
it is settled or abandoned, and its result is the decoded body of a response.
-/

namespace SupplierGateway
namespace Call

open Http (Request Outcome Delivery Transport)

/-- A call that has begun. -/
inductive Pending where
  /-- There is no request to send. -/
  | unsent (f : Failure)
  /-- Making the request crashed. -/
  | crashed (text : String)
  /-- An interceptor answered. -/
  | answered (o : Outcome)
  | inFlight (c : InFlight)

namespace Pending

/-- Begins a call, given its request or the failure or crash in making it. -/
def begin (p : Pipeline) (clockMs : Nat) (t : Transport) :
    Attempt Request → Transport × List Emission × Pending
  | .failure f => (t, [], .unsent f)
  | .crash text => (t, [], .crashed text)
  | .success r =>
      match p.send clockMs t r with
      | (next, emissions, .settled o) => (next, emissions, .answered o)
      | (next, emissions, .inFlight c) => (next, emissions, .inFlight c)

/-- The time for which the call is pending unless it is abandoned, in milliseconds. -/
def latency : Pending → Nat
  | inFlight c => c.latency
  | unsent _ | crashed _ | answered _ => 0

/-- Settles a call: its emissions and its result. -/
def settle {α : Type} (decode : String → Attempt α) (clockMs : Nat) :
    Pending → List Emission × Attempt α
  | unsent f => ([], .failure f)
  | crashed text => ([], .crash text)
  | answered o => ([], decoded decode (.outcome o))
  | inFlight c =>
      let (emissions, delivery) := c.settle clockMs
      (emissions, decoded decode delivery)

/-- Abandons a call. -/
def abandon (clockMs : Nat) : Pending → List Emission
  | inFlight c => c.abandon clockMs
  | unsent _ | crashed _ | answered _ => []

end Pending
end Call
end SupplierGateway
