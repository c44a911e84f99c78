import SupplierGateway.Audit.Ledger

/-!
# Tasks that share ledgers

Any number of tasks share ledgers.  Each task has a list of actions and carries them out in order.
A turn is one acquisition of one lock, so a merge takes two turns, and tasks may take turns in any
order, also between the two.  A task that has no turns left changes nothing.
-/

namespace SupplierGateway
namespace Audit

variable {α : Type}

/-- The actions of a task on ledgers, which are given by their numbers. -/
inductive Action (α : Type) where
  | add (target : Nat) (entry : α)
  | addAll (target : Nat) (batch : List α)
  | snapshot (source : Nat)
  /-- Appends the entries of one ledger to another. -/
  | merge (source target : Nat)
deriving DecidableEq, Repr

/-- The turns that an action takes.  A batch without entries takes none, and a merge that has seen
no entries appends nothing in its second turn. -/
def Action.turns (task : Nat) : Action α → List (Turn α)
  | add target entry => [.append target [entry]]
  | addAll target batch => if batch.isEmpty then [] else [.append target batch]
  | snapshot source => [.read task source]
  | merge source target => Shared.mergeTurns task source target

/-- Shared ledgers, and the turns that each task has left. -/
structure Sharers (α : Type) where
  shared : Shared α
  left : Nat → List (Turn α)

namespace Sharers

/-- Tasks that have taken no turns. -/
def start (s : Shared α) (actions : Nat → List (Action α)) : Sharers α :=
  { shared := s, left := fun task => (actions task).flatMap (Action.turns task) }

/-- A task takes its next turn. -/
def take (c : Sharers α) (task : Nat) : Sharers α :=
  match c.left task with
  | [] => c
  | turn :: rest =>
      { shared := c.shared.step turn
        left := fun other => if other = task then rest else c.left other }

/-- Tasks take turns in a given order. -/
def run (c : Sharers α) (schedule : List Nat) : Sharers α := schedule.foldl take c

end Sharers
end Audit
end SupplierGateway
