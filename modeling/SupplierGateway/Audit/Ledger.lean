import SupplierGateway.Audit.Record
import SupplierGateway.Failure

/-!
# Ledgers

A ledger is a list that only grows at its end.  Batches are appended whole, so entries of one batch
stay together.

Ledgers are shared by tasks that take turns.  Each turn accesses one ledger.  Merging takes two
turns: the entries of one ledger are read, and later these entries are appended to another; turns of
other tasks may come between the two.  Merging a ledger into itself takes no turns.
-/

namespace SupplierGateway
namespace Audit

/-- A list that only grows at its end. -/
structure Ledger (α : Type) where
  entries : List α := []
deriving DecidableEq, Repr

namespace Ledger

variable {α : Type}

/-- The ledger without entries. -/
def empty : Ledger α := {}

instance : Inhabited (Ledger α) := ⟨empty⟩

/-- Appends a batch. -/
def addAll (l : Ledger α) (batch : List α) : Ledger α :=
  { entries := l.entries ++ batch }

/-- Appends one entry. -/
def add (l : Ledger α) (entry : α) : Ledger α := l.addAll [entry]

/-- The number of entries. -/
def size (l : Ledger α) : Nat := l.entries.length

@[simp] theorem entries_addAll (l : Ledger α) (batch : List α) :
    (l.addAll batch).entries = l.entries ++ batch := rfl

@[simp] theorem entries_add (l : Ledger α) (entry : α) :
    (l.add entry).entries = l.entries ++ [entry] := rfl

end Ledger

/-! ## Shared ledgers -/

/-- Ledgers by number, and for each task the entries that it has read and not yet appended. -/
structure Shared (α : Type) where
  ledger : Nat → Ledger α
  held : Nat → Option (List α)

/-- A turn of a task. -/
inductive Turn (α : Type) where
  | append (target : Nat) (batch : List α)
  /-- A snapshot, which is also the first turn of a merge. -/
  | read (task source : Nat)
  /-- The second turn of a merge. -/
  | deliver (task target : Nat)
deriving DecidableEq, Repr

namespace Shared

variable {α : Type}

/-- Ledgers without entries. -/
def empty : Shared α := { ledger := fun _ => .empty, held := fun _ => none }

/-- Appends a batch to a ledger. -/
def append (s : Shared α) (target : Nat) (batch : List α) : Shared α :=
  { s with ledger := fun i => if i = target then (s.ledger i).addAll batch else s.ledger i }

/-- Takes one turn. -/
def step (s : Shared α) : Turn α → Shared α
  | .append target batch => s.append target batch
  | .read task source =>
      { s with
        held := fun t => if t = task then some (s.ledger source).entries else s.held t }
  | .deliver task target =>
      match s.held task with
      | some batch =>
          { s.append target batch with held := fun t => if t = task then none else s.held t }
      | none => s

/-- Takes turns one after another. -/
def run (s : Shared α) (turns : List (Turn α)) : Shared α := turns.foldl step s

/-- The turns of a merge. -/
def mergeTurns (task source target : Nat) : List (Turn α) :=
  if source = target then [] else [.read task source, .deliver task target]

/-- Merges one ledger into another without interruption. -/
def merge (s : Shared α) (source target : Nat) : Shared α := s.run (mergeTurns 0 source target)

end Shared

/-! ## The ledgers of an operation -/

/-- The records and failures of an operation. -/
structure Ledgers where
  calls : Ledger CallRecord := {}
  errors : Ledger Failure := {}
deriving DecidableEq, Repr

namespace Ledgers

/-- Appends the records and failures of another operation. -/
def merge (l other : Ledgers) : Ledgers :=
  { calls := l.calls.addAll other.calls.entries, errors := l.errors.addAll other.errors.entries }

/-- Records a failure. -/
def recordError (l : Ledgers) (f : Failure) : Ledgers :=
  { l with errors := l.errors.add f }

end Ledgers
end Audit
end SupplierGateway
