import SupplierGateway.Attempt
import SupplierGateway.Cache.Backend
import SupplierGateway.Cache.Locks
import SupplierGateway.Compression.Gzip

/-!
# Looking up a value or loading it

A lookup reads the value of a key from the cache and loads it when there is none.  With
single-flight a caller that finds nothing takes the lock of the key first and reads again, so that
of several callers one loads and the others find what it stored.  A loaded value is stored unless it
has no lifetime; when it cannot be stored the caller gets it all the same.

A lookup advances turn by turn, and other callers may have turns in between.  Loading is not a turn:
it begins when the lookup reaches the loading phase and ends when its result is handed in.  A lookup
may be dropped at any moment, and releases the lock that it holds.
-/

namespace SupplierGateway
namespace Cache

/-- A way to write values of a type and to read them. -/
structure Codec (α : Type) where
  encode : α → Except String String
  decode : String → Option α

/-- A codec for a type that is written to and read from JSON. -/
def Codec.ofJson {α : Type} (write : α → Json.Value) (read : Json.Decoder α) : Codec α where
  encode a := .ok (write a).compact
  decode text :=
    match read.ofText text with
    | .ok a => some a
    | .error _ => none

/-- The reasons for which a value is not stored. -/
inductive CacheError where
  | serialization (reason : String)
  | zeroTtl
  | backend (reason : String)
  /-- The clock cannot represent the expiry.  This is not reported as an error; the task crashes. -/
  | beyondClock
deriving DecidableEq, Repr

/-- The cache error that a fault of the store amounts to. -/
def CacheError.ofStoreFault : StoreFault → CacheError
  | .zeroLifetime => .zeroTtl
  | .refused => .backend "store refused"
  | .beyondClock => .beyondClock

/-- The text of a cache error. -/
def CacheError.message : CacheError → String
  | .serialization reason => "failed to serialize cache value: " ++ reason
  | .zeroTtl => "cache ttl must be greater than zero"
  | .backend reason => "cache backend failure: " ++ reason
  | .beyondClock => "overflow when adding duration to instant"

end Cache

/-- A cache of values under keys. -/
structure Cache where
  backend : Cache.Backend := {}
  singleFlight : Bool := false
  locks : Cache.Locks := {}
deriving DecidableEq, Repr

namespace Cache

/-- A cache as it stands in diagnostics. -/
def debug (c : Cache) : String :=
  "CredentialCache \x7b single_flight: " ++ (if c.singleFlight then "true" else "false") ++
    ", .. \x7d"

/-! ## Storing -/

/-- Stores the text of a value, or reports that the value could not be written. -/
def storeText (c : Cache) (clockMs : Nat) (key : String) (text : Except String String)
    (ttl : Lifetime) : Cache × Except CacheError Unit :=
  match text with
  | .error reason => (c, .error (.serialization reason))
  | .ok text =>
      let bytes := Compression.compress text.toUTF8.data.toList
      let (backend, result) := c.backend.store clockMs key bytes ttl
      ({ c with backend }, result.mapError CacheError.ofStoreFault)

/-! ## Reading -/

/-- A log entry about a key. -/
def keyEntry (level : LogEntry.Level) (message key : String) : LogEntry :=
  { level, message, fields := [("key", key)] }

/-- The log entry about a key that has no entry. -/
def missEntry (key : String) : LogEntry := keyEntry .debug "credential cache miss" key

/-- The value that stored bytes encode, with the log entry about it. -/
def readBytes {α : Type} (codec : Codec α) (key : String) (bytes : List UInt8) :
    Option α × LogEntry :=
  match Compression.decompress bytes with
  | none =>
      (none, keyEntry .warn "credential cache entry is not valid gzip; treating as miss" key)
  | some plain =>
      match (String.fromUTF8? ⟨plain.toArray⟩).bind codec.decode with
      | some a => (some a, keyEntry .debug "credential cache hit" key)
      | none =>
          (none, keyEntry .warn "credential cache entry failed to decode; treating as miss" key)

/-- The result of the first turn of a read. -/
inductive Glance (α : Type) where
  | hit (a : α)
  | miss
  /-- An expired entry is still to be removed. -/
  | stale

/-- The first turn of a read. -/
def glance {α : Type} (codec : Codec α) (c : Cache) (clockMs : Nat) (key : String) :
    Glance α × List LogEntry :=
  match c.backend.look clockMs key with
  | .absent => (.miss, [missEntry key])
  | .expired => (.stale, [])
  | .refused =>
      (.miss, [keyEntry .warn "credential cache backend read failed; treating as miss" key])
  | .alive bytes =>
      match readBytes codec key bytes with
      | (some a, entry) => (.hit a, [entry])
      | (none, entry) => (.miss, [entry])

/-- The second turn of a read that found an expired entry. -/
def sweep (c : Cache) (clockMs : Nat) (key : String) : Cache :=
  { c with backend := c.backend.sweep clockMs key }

/-- Reads without interruption. -/
def fetch {α : Type} (codec : Codec α) (c : Cache) (clockMs : Nat) (key : String) :
    Cache × Option α × List LogEntry :=
  match c.glance codec clockMs key with
  | (.hit a, entries) => (c, some a, entries)
  | (.miss, entries) => (c, none, entries)
  | (.stale, entries) => (c.sweep clockMs key, none, entries ++ [missEntry key])

/-! ## Lookups -/

/-- The phases of a lookup.  From `queueing` on a lookup may refer to a lock, and from `rereading`
on it holds the lock that it refers to. -/
inductive Phase (α : Type) where
  | reading
  /-- It has found an expired entry that it is about to remove. -/
  | sweeping
  /-- It is about to look the lock up. -/
  | asking
  /-- It is about to ask for the lock. -/
  | queueing (lock : Nat)
  /-- It has asked for the lock and has not noticed yet that it got it. -/
  | waiting (lock : Nat)
  | rereading (lock : Nat)
  | resweeping (lock : Nat)
  | loading (lock? : Option Nat)
  | storing (lock? : Option Nat) (a : α) (ttl : Lifetime)
  /-- It is about to let the lock go. -/
  | leaving (lock? : Option Nat) (result : Attempt α)
  | done (result : Attempt α)
deriving DecidableEq, Repr

/-- The lock that the lookup holds and knows that it holds. -/
def Phase.held? {α : Type} : Phase α → Option Nat
  | rereading lock | resweeping lock => some lock
  | loading lock? | storing lock? .. | leaving lock? _ => lock?
  | reading | sweeping | asking | queueing _ | waiting _ | done _ => none

/-- The phase after the first read found nothing. -/
def afterMiss {α : Type} (c : Cache) : Phase α :=
  if c.singleFlight then .asking else .loading none

/-- The result of a turn of a lookup. -/
structure Turn (α : Type) where
  cache : Cache
  phase : Phase α
  entries : List LogEntry := []
  /-- The caller to which a lock was handed. -/
  handedTo : Option Nat := none

/-- Takes a turn in the lookup of caller `who` for a key.  In the phases `loading` and `done` there
is nothing to do, and in the phase `waiting` not before the lock has been handed over. -/
def advance {α : Type} (codec : Codec α) (clockMs : Nat) (who : Nat) (key : String) (c : Cache) :
    Phase α → Turn α
  | .reading =>
      match c.glance codec clockMs key with
      | (.hit a, entries) => { cache := c, phase := .leaving none (.success a), entries }
      | (.miss, entries) => { cache := c, phase := c.afterMiss, entries }
      | (.stale, entries) => { cache := c, phase := .sweeping, entries }
  | .sweeping =>
      { cache := c.sweep clockMs key, phase := c.afterMiss, entries := [missEntry key] }
  | .asking =>
      let (locks, lock) := c.locks.refer key
      { cache := { c with locks }, phase := .queueing lock }
  | .queueing lock => { cache := { c with locks := c.locks.ask lock who }, phase := .waiting lock }
  | .waiting lock =>
      if c.locks.holder? lock = some who then { cache := c, phase := .rereading lock }
      else { cache := c, phase := .waiting lock }
  | .rereading lock =>
      match c.glance codec clockMs key with
      | (.hit a, entries) => { cache := c, phase := .leaving (some lock) (.success a), entries }
      | (.miss, entries) => { cache := c, phase := .loading (some lock), entries }
      | (.stale, entries) => { cache := c, phase := .resweeping lock, entries }
  | .resweeping lock =>
      { cache := c.sweep clockMs key, phase := .loading (some lock), entries := [missEntry key] }
  | .loading lock? => { cache := c, phase := .loading lock? }
  | .storing lock? a ttl =>
      match c.storeText clockMs key (codec.encode a) ttl with
      | (cache, .ok ()) => { cache, phase := .leaving lock? (.success a) }
      | (cache, .error .beyondClock) =>
          { cache, phase := .leaving lock? (.crash CacheError.beyondClock.message) }
      | (cache, .error _) =>
          { cache, phase := .leaving lock? (.success a)
            entries := [keyEntry .warn "failed to store credential in cache" key] }
  | .leaving none result => { cache := c, phase := .done result }
  | .leaving (some lock) result =>
      let (locks, handedTo) := c.locks.release key lock
      { cache := { c with locks }, phase := .done result, handedTo }
  | .done result => { cache := c, phase := .done result }

/-- Hands in the result of loading, with the log entry about a value that has no lifetime. -/
def loaded {α : Type} (key : String) (result : Attempt (α × Lifetime)) :
    Phase α → Phase α × List LogEntry
  | .loading lock? =>
      match result with
      | .success (a, ttl) =>
          if ttl.isZero then
            (.leaving lock? (.success a),
              [keyEntry .debug "loaded value has no lifetime; not caching" key])
          else (.storing lock? a ttl, [])
      | .failure f => (.leaving lock? (.failure f), [])
      | .crash text => (.leaving lock? (.crash text), [])
  | phase => (phase, [])

/-- Drops the lookup of caller `who` for a key.  Gives the caller to which a lock was handed. -/
def drop {α : Type} (who : Nat) (key : String) (c : Cache) (phase : Phase α) :
    Cache × Option Nat :=
  match phase with
  | .queueing lock | .waiting lock =>
      let (locks, handedTo) := c.locks.leave lock who
      ({ c with locks }, handedTo)
  | phase =>
      match phase.held? with
      | some lock =>
          let (locks, handedTo) := c.locks.release key lock
          ({ c with locks }, handedTo)
      | none => (c, none)

end Cache
end SupplierGateway
