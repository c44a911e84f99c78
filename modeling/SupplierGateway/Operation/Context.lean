import SupplierGateway.Call.Pipeline
import SupplierGateway.Credential
import SupplierGateway.Endpoint
import SupplierGateway.Timeouts

/-!
# The context of an operation

An operation addresses one endpoint with one set of credentials.  Calls that belong to another phase
than the operation itself run in a derived context, which differs in the phase only.
-/

namespace SupplierGateway
namespace Operation

/-- The settings of an operation in a phase. -/
structure Context where
  timeouts : Timeouts
  endpoint : Endpoint
  credential : Credential
  phase : Phase
deriving DecidableEq

namespace Context

/-- The context of another phase. -/
def derive (c : Context) (phase : Phase) : Context := { c with phase }

/-- The time limit of a call of the phase, in milliseconds. -/
def timeoutMs (c : Context) : UInt64 := c.timeouts.resolve c.phase

/-- The pipeline for calls of the phase. -/
def pipeline (c : Context) : Call.Pipeline where
  context := { phase := c.phase, timeoutMs := c.timeoutMs }

@[simp] theorem derive_phase (c : Context) (phase : Phase) : (c.derive phase).phase = phase := rfl

@[simp] theorem derive_derive (c : Context) (p q : Phase) : (c.derive p).derive q = c.derive q :=
  rfl

@[simp] theorem derive_self (c : Context) : c.derive c.phase = c := rfl

end Context
end Operation
end SupplierGateway
