import SupplierGateway.Audit.Ledger

/-!
# Envelopes

Every operation answers with an envelope: a payload, the records of all calls that it made, and all
failures that it met.  Both lists are always there, empty or not.
-/

namespace SupplierGateway
namespace Operation

open Audit (CallRecord)

/-- The answer of an operation. -/
structure Envelope (α : Type) where
  payload : α
  supplierRequests : List CallRecord := []
  errors : List Failure := []
deriving DecidableEq, Repr

namespace Envelope

variable {α β : Type}

/-- The operation met a failure. -/
def hasErrors (e : Envelope α) : Bool := !e.errors.isEmpty

/-- Changes the payload. -/
def map (f : α → β) (e : Envelope α) : Envelope β :=
  { payload := f e.payload, supplierRequests := e.supplierRequests, errors := e.errors }

/-- An envelope in JSON. -/
def json (payload : α → Json.Value) (e : Envelope α) : Json.Value :=
  .object
    [("payload", payload e.payload),
      ("supplierRequests", .array (e.supplierRequests.map CallRecord.json)),
      ("errors", .array (e.errors.map Failure.json))]

@[simp] theorem map_id (e : Envelope α) : e.map id = e := rfl

@[simp] theorem hasErrors_map (f : α → β) (e : Envelope α) : (e.map f).hasErrors = e.hasErrors :=
  rfl

end Envelope
end Operation
end SupplierGateway
