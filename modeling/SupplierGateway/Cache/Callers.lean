import SupplierGateway.Cache.Lookup

/-!
# Callers of a cache

Any number of callers look up keys in one cache.  They take turns in any order, loads end in any
order, a caller may be dropped at any moment, and between turns the clock advances and the store is
used by others.  An event that is impossible at its moment changes nothing.  The clock advances in
whole milliseconds, while expiries are counted in nanoseconds: a lookup compares an expiry with the
start of a millisecond only.
-/

namespace SupplierGateway
namespace Cache

/-- A caller that looks up a key. -/
structure Caller (α : Type) where
  key : String
  /-- The phase of its lookup; none once it was dropped. -/
  phase? : Option (Phase α) := some .reading
deriving DecidableEq, Repr

/-- A cache and its callers, who are numbered from zero. -/
structure Callers (α : Type) where
  codec : Codec α
  cache : Cache
  clockMs : Nat := 0
  callers : List (Caller α) := []
  log : List LogEntry := []

namespace Callers

variable {α : Type}

/-- The events of callers and their cache: turns, ends of loads and drops of a caller, time that
passes, and uses of the store by others. -/
inductive Event (α : Type) where
  | advance (who : Nat)
  /-- Loading ends with a result. -/
  | loaded (who : Nat) (result : Attempt (α × Lifetime))
  | drop (who : Nat)
  | wait (ms : Nat)
  | store (key : String) (a : α) (ttl : Lifetime)
  | purge
  | clear
  /-- The store behind the cache becomes another one. -/
  | replace (backend : Backend)

/-- The phase of a caller that exists and was not dropped. -/
def phase? (s : Callers α) (who : Nat) : Option (Phase α) :=
  s.callers[who]?.bind Caller.phase?

/-- The result of a caller whose lookup is done. -/
def result? (s : Callers α) (who : Nat) : Option (Attempt α) :=
  match s.phase? who with
  | some (.done result) => some result
  | _ => none

/-- Sets the phase of a caller. -/
def setPhase (s : Callers α) (who : Nat) (phase? : Option (Phase α)) : Callers α :=
  { s with callers := s.callers.modify who fun c => { c with phase? } }

/-- A caller takes a turn.  Gives the caller to which a lock was handed. -/
def advance (s : Callers α) (who : Nat) : Callers α × Option Nat :=
  match s.callers[who]? with
  | some { key, phase? := some phase } =>
      let turn := s.cache.advance s.codec s.clockMs who key phase
      ({ s.setPhase who (some turn.phase) with cache := turn.cache, log := s.log ++ turn.entries },
        turn.handedTo)
  | _ => (s, none)

/-- The load of a caller ends. -/
def endLoad (s : Callers α) (who : Nat) (result : Attempt (α × Lifetime)) : Callers α :=
  match s.callers[who]? with
  | some { key, phase? := some phase } =>
      let (next, entries) := Cache.loaded key result phase
      { s.setPhase who (some next) with log := s.log ++ entries }
  | _ => s

/-- A caller is dropped, unless its lookup is done.  Gives the caller to which a lock was handed. -/
def drop (s : Callers α) (who : Nat) : Callers α × Option Nat :=
  match s.callers[who]? with
  | some { phase? := some (.done _), .. } => (s, none)
  | some { key, phase? := some phase } =>
      let (cache, handedTo) := s.cache.drop who key phase
      ({ s.setPhase who none with cache }, handedTo)
  | _ => (s, none)

/-- Stores a value for none of the callers. -/
def store (s : Callers α) (key : String) (a : α) (ttl : Lifetime) : Callers α :=
  { s with cache := (s.cache.storeText s.clockMs key (s.codec.encode a) ttl).1 }

/-- The callers after an event, with the caller to which a lock was handed. -/
def turn (s : Callers α) : Event α → Callers α × Option Nat
  | .advance who => s.advance who
  | .loaded who result => (s.endLoad who result, none)
  | .drop who => s.drop who
  | .wait ms => ({ s with clockMs := s.clockMs + ms }, none)
  | .store key a ttl => (s.store key a ttl, none)
  | .purge =>
      let backend := s.cache.backend.purge s.clockMs
      ({ s with cache := { s.cache with backend } }, none)
  | .clear =>
      let backend := s.cache.backend.clear
      ({ s with cache := { s.cache with backend } }, none)
  | .replace backend => ({ s with cache := { s.cache with backend } }, none)

/-- The callers after an event. -/
def step (s : Callers α) (e : Event α) : Callers α := (s.turn e).1

/-- The callers after events. -/
def run (s : Callers α) (events : List (Event α)) : Callers α := events.foldl step s

@[simp] theorem run_nil (s : Callers α) : s.run [] = s := rfl

@[simp] theorem run_cons (s : Callers α) (e : Event α) (events : List (Event α)) :
    s.run (e :: events) = (s.step e).run events := rfl

end Callers
end Cache
end SupplierGateway
