import SupplierGateway.Cache.Credential

/-!
# The store behind a cache

The store keeps bytes under keys until they expire.  An entry is alive strictly before its expiry.
Reading an expired entry takes two turns: the entry is found expired first and removed later, if
it is still expired then, because another entry may have been stored in between.

A store may refuse to store or to fetch.  An expiry that the clock cannot represent is a fault apart
from refusal: the task that stores with such an expiry crashes.
-/

namespace SupplierGateway
namespace Cache

/-- Bytes that are kept until they expire.  Times are nanoseconds on the clock. -/
structure Entry where
  bytes : List UInt8
  expiresAt : Nat
deriving DecidableEq, Repr

/-- A store. -/
structure Backend where
  /-- At most one entry for each key. -/
  entries : List (String × Entry) := []
  refusesStore : Bool := false
  refusesFetch : Bool := false
  /-- The number of attempts to store, refused ones included. -/
  stores : Nat := 0
deriving DecidableEq, Repr

/-- The reasons for which bytes are not stored. -/
inductive StoreFault where
  | zeroLifetime
  | refused
  /-- The clock cannot represent the expiry. -/
  | beyondClock
deriving DecidableEq, Repr

/-- The result of looking a key up in a store. -/
inductive Found where
  | absent
  | alive (bytes : List UInt8)
  | expired
  | refused
deriving DecidableEq, Repr

/-- The clock in nanoseconds when it shows milliseconds. -/
def clockNanos (clockMs : Nat) : Nat := clockMs * 1000000

/-- The last second that the clock can represent. -/
def lastSecond : Nat := UInt64.size / 2 - 1

namespace Backend

/-- The entry of a key. -/
def get? (b : Backend) (key : String) : Option Entry := b.entries.lookup key

/-- Removes the entry of a key. -/
def erase (b : Backend) (key : String) : Backend :=
  { b with entries := b.entries.filter fun entry => entry.1 != key }

/-- Sets the entry of a key. -/
def put (b : Backend) (key : String) (entry : Entry) : Backend :=
  { b with entries := (key, entry) :: (b.erase key).entries }

/-- Stores bytes under a key without asking whether the store refuses. -/
def insert (b : Backend) (clockMs : Nat) (key : String) (bytes : List UInt8) (ttl : Lifetime) :
    Except StoreFault Backend :=
  if ttl.isZero then .error .zeroLifetime
  else
    let expiresAt := clockNanos clockMs + ttl.toNanos
    if expiresAt / 1000000000 ≤ lastSecond then .ok (b.put key { bytes, expiresAt })
    else .error .beyondClock

/-- Stores bytes under a key.  The attempt counts in any case. -/
def store (b : Backend) (clockMs : Nat) (key : String) (bytes : List UInt8) (ttl : Lifetime) :
    Backend × Except StoreFault Unit :=
  let asked := { b with stores := b.stores + 1 }
  if b.refusesStore then (asked, .error .refused)
  else
    match asked.insert clockMs key bytes ttl with
    | .ok stored => (stored, .ok ())
    | .error fault => (asked, .error fault)

/-- The first turn of a fetch: the result of looking a key up. -/
def look (b : Backend) (clockMs : Nat) (key : String) : Found :=
  if b.refusesFetch then .refused
  else
    match b.get? key with
    | none => .absent
    | some entry => if clockNanos clockMs < entry.expiresAt then .alive entry.bytes else .expired

/-- The second turn of a fetch that found an expired entry: removes the entry of a key if it is
expired now. -/
def sweep (b : Backend) (clockMs : Nat) (key : String) : Backend :=
  match b.get? key with
  | some entry => if entry.expiresAt ≤ clockNanos clockMs then b.erase key else b
  | none => b

/-- Removes all expired entries. -/
def purge (b : Backend) (clockMs : Nat) : Backend :=
  { b with entries := b.entries.filter fun entry => clockNanos clockMs < entry.2.expiresAt }

/-- Removes all entries. -/
def clear (b : Backend) : Backend := { b with entries := [] }

/-- The number of entries, expired ones included. -/
def size (b : Backend) : Nat := b.entries.length

end Backend
end Cache
end SupplierGateway
