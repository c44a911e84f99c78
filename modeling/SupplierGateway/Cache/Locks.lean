/-!
# Flight locks

Callers that load the value of one key take turns by a lock that exists only while it is needed.  A
table says which lock belongs to a key.  A caller looks the lock of its key up, which makes one if
there is none, and refers to it from then on.  Asking for the lock is a turn of its own: the caller
gets the lock if nobody holds it, and queues otherwise.

A holder that lets go hands the lock to the first in the queue and gives up its reference, and then
removes the lock of the key from the table if nothing but the table refers to it.  A caller that
leaves before it has noticed that the lock was handed to it passes the lock on, but does not look
at the table.

Locks are numbered in the order in which they are made, and no number is used twice.  A lock that
was removed is therefore not the lock that is made for the same key later on.
-/

namespace SupplierGateway
namespace Cache

/-- A lock: its holder, the queue for it, and the number of references to it. -/
structure Lock where
  holder : Option Nat := none
  queue : List Nat := []
  /-- The callers that refer to the lock, and the table while the lock stands in it. -/
  references : Nat
deriving DecidableEq, Repr

namespace Lock

/-- Adds a reference. -/
def refer (l : Lock) : Lock := { l with references := l.references + 1 }

/-- Removes a reference. -/
def forget (l : Lock) : Lock := { l with references := l.references - 1 }

/-- A caller gets the lock if nobody holds it, and queues otherwise. -/
def ask (l : Lock) (who : Nat) : Lock :=
  match l.holder with
  | none => { l with holder := some who }
  | some _ => { l with queue := l.queue ++ [who] }

/-- The lock is handed to the first in the queue. -/
def handOver (l : Lock) : Lock := { l with holder := l.queue.head?, queue := l.queue.tail }

/-- A caller leaves the queue, or passes the lock on if it was handed to it already. -/
def leave (l : Lock) (who : Nat) : Lock :=
  if l.holder = some who then l.handOver else { l with queue := l.queue.erase who }

end Lock

/-- The locks by number, and the table of the locks that belong to keys. -/
structure Locks where
  /-- All locks that were ever made, by number. -/
  made : List Lock := []
  /-- At most one lock for each key. -/
  table : List (String × Nat) := []
deriving DecidableEq, Repr

namespace Locks

/-- The lock of a key. -/
def get? (l : Locks) (key : String) : Option Nat := l.table.lookup key

/-- Changes a lock. -/
def update (l : Locks) (lock : Nat) (f : Lock → Lock) : Locks :=
  { l with made := l.made.modify lock f }

/-- The caller that holds a lock. -/
def holder? (l : Locks) (lock : Nat) : Option Nat := l.made[lock]?.bind Lock.holder

/-- The first caller that queues for a lock. -/
def first? (l : Locks) (lock : Nat) : Option Nat := l.made[lock]?.bind fun m => m.queue.head?

/-- A caller looks the lock of a key up, and refers to it from now on. -/
def refer (l : Locks) (key : String) : Locks × Nat :=
  match l.get? key with
  | some lock => (l.update lock Lock.refer, lock)
  | none =>
      ({ made := l.made ++ [{ references := 2 }], table := (key, l.made.length) :: l.table },
        l.made.length)

/-- A caller asks for a lock. -/
def ask (l : Locks) (lock who : Nat) : Locks := l.update lock fun m => m.ask who

/-- Removes the lock of a key from the table if nothing but the table refers to it. -/
def tidy (l : Locks) (key : String) : Locks :=
  match l.get? key with
  | some lock =>
      if l.made[lock]?.map Lock.references = some 1 then
        { l.update lock Lock.forget with table := l.table.filter fun entry => entry.1 != key }
      else l
  | none => l

/-- The holder of a lock, which it took for a key, lets it go.  Gives the caller to which the lock
is handed. -/
def release (l : Locks) (key : String) (lock : Nat) : Locks × Option Nat :=
  ((l.update lock fun m => m.handOver.forget).tidy key, l.first? lock)

/-- A caller that queues for a lock leaves.  Gives the caller to which the lock is passed on, if it
had been handed to the one that leaves. -/
def leave (l : Locks) (lock who : Nat) : Locks × Option Nat :=
  (l.update lock fun m => (m.leave who).forget,
    if l.holder? lock = some who then l.first? lock else none)

end Locks
end Cache
end SupplierGateway
