import SupplierGateway.Call.Interceptor
import SupplierGateway.Operation.Context
import SupplierGateway.Operation.Envelope

/-!
# Runs of an operation

A run is one execution of an operation.  It knows how its requests are authorized and keeps the
ledgers, from which the envelope is made at the end.  A key authorizes all requests from the
beginning; a token has to be obtained first.
-/

namespace SupplierGateway
namespace Operation

open Audit (Ledgers)
open Call (Emission)
open Http (Authorization)

/-- The policies on a payload when there were failures. -/
inductive Policy where
  /-- The payload is kept, with what succeeded. -/
  | keepPartial
  /-- The payload is replaced by the empty one. -/
  | discardOnError
deriving DecidableEq, Repr

/-- The authorization that needs no token. -/
def initialAuthorization : Credential → Authorization
  | .apiKey header value => .header header value
  | .none | .client .. => .none

/-- An execution of an operation. -/
structure Run where
  context : Context
  authorization : Authorization
  ledgers : Ledgers := {}
deriving DecidableEq

namespace Run

/-- Begins a run. -/
def begin (context : Context) : Run :=
  { context, authorization := initialAuthorization context.credential }

/-- The log entry about the beginning. -/
def startEntry (r : Run) : LogEntry :=
  { level := .debug
    message := "operation started"
    fields := [("endpoint", r.context.endpoint.base)] }

/-- Records a failure. -/
def recordError (r : Run) (f : Failure) : Run := { r with ledgers := r.ledgers.recordError f }

/-- Records failures as one batch. -/
def recordErrors (r : Run) (fs : List Failure) : Run :=
  { r with ledgers := { r.ledgers with errors := r.ledgers.errors.addAll fs } }

/-- Appends the call records among emissions. -/
def collect (r : Run) (es : List Emission) : Run :=
  { r with ledgers := { r.ledgers with calls := r.ledgers.calls.addAll (Emission.records es) } }

/-- Appends the ledgers of a subordinate run. -/
def absorb (r : Run) (child : Run) : Run := { r with ledgers := r.ledgers.merge child.ledgers }

/-- The run with a token that authorizes its further requests. -/
def authorize (r : Run) (token : String) : Run := { r with authorization := .bearer token }

/-- The payload is discarded. -/
def discards (r : Run) (policy : Policy) : Bool :=
  policy == .discardOnError && !r.ledgers.errors.entries.isEmpty

/-- The envelope at the end of a run, given the payload that replaces a discarded one. -/
def envelope {α : Type} (r : Run) (policy : Policy) (payload empty : α) : Envelope α where
  payload := if r.discards policy then empty else payload
  supplierRequests := r.ledgers.calls.entries
  errors := r.ledgers.errors.entries

/-- The log entry about the end. -/
def endEntry (r : Run) (policy : Policy) : LogEntry where
  level := .info
  message := "operation finished"
  fields :=
    [("calls", toString r.ledgers.calls.size), ("errors", toString r.ledgers.errors.size),
      ("discarded", if r.discards policy then "true" else "false")]

end Run
end Operation
end SupplierGateway
