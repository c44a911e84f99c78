import SupplierGateway.Attempt
import SupplierGateway.Http.Message
import SupplierGateway.Operation.Run

/-!
# Scripts of operations

An operation is written as a script: a tree of instructions in which everything that depends on an
answer is a function of that answer.  A script does not determine how instructions are carried out,
their durations or the moves of other operations in between.
-/

namespace SupplierGateway
namespace Operation

open Http (Request)

/-- Instructions that end in a result of type `β`. -/
inductive Script (β : Type) : Type 1 where
  | done (result : β)
  /-- Records a failure that no call came to. -/
  | report (f : Failure) (entry : Option LogEntry) (rest : Script β)
  /-- Obtains a token if one is required. -/
  | authenticate (rest : Except Failure Unit → Script β)
  /-- Makes one call.  A failure is recorded, and nothing is passed on. -/
  | call {α : Type} (phase : Phase) (request : Attempt Request) (decode : String → Attempt α)
      (rest : Option α → Script β)
  /-- Makes several calls at once.  Failures are recorded at the end, and the values of the calls
  that succeeded are passed on in order. -/
  | fanOut {α : Type} (phase : Phase) (requests : List (Attempt Request))
      (decode : String → Attempt α) (rest : List α → Script β)
  /-- Ends the run with an envelope. -/
  | finish {π : Type} (policy : Policy) (payload empty : π) (rest : Envelope π → Script β)

end Operation
end SupplierGateway
