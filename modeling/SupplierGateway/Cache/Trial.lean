import SupplierGateway.Cache.Callers
import SupplierGateway.Schedule.Agenda

/-!
# Trial runs of lookups

A trial lets several callers look up one key at the same time.  Their loads are known beforehand:
each takes the same while, the first few that begin fail and all others give the same value.
Callers start in order, and each goes on until it has to wait.  All of them may be dropped after a
while.
-/

namespace SupplierGateway
namespace Cache

open Schedule (Plan)

/-- The loads of a trial: the duration of each, the number that fail, and the result of the
others. -/
structure Rehearsal (α : Type) where
  delayMs : Nat := 0
  /-- The number of loads that fail, which are the first to begin. -/
  failures : Nat := 0
  failure : Failure := .supplier ""
  value : α
  ttl : Lifetime

/-- The result of the load that begins after a number of others. -/
def Rehearsal.result {α : Type} (r : Rehearsal α) (earlier : Nat) : Attempt (α × Lifetime) :=
  if earlier < r.failures then .failure r.failure else .success (r.value, r.ttl)

/-- A trial in progress. -/
structure Trial (α : Type) where
  rehearsal : Rehearsal α
  callers : Callers α
  /-- The number of loads that have begun. -/
  loads : Nat := 0

namespace Trial

variable {α : Type}

/-- A caller to which a lock was handed goes on. -/
def wake (handedTo : Option Nat) : List (Plan (Callers.Event α)) :=
  match handedTo with
  | some who => [.soon (.advance who)]
  | none => []

/-- The events that a turn of a caller plans: its next turn or the end of its load, and none while
it waits. -/
def follow (t : Trial α) (who : Nat) : Trial α × List (Plan (Callers.Event α)) :=
  match t.callers.phase? who with
  | some (.loading _) =>
      ({ t with loads := t.loads + 1 },
        [.after t.rehearsal.delayMs (.loaded who (t.rehearsal.result t.loads))])
  | some (.waiting lock) =>
      if t.callers.cache.locks.holder? lock = some who then (t, [.next (.advance who)])
      else (t, [])
  | some (.done _) | none => (t, [])
  | some _ => (t, [.next (.advance who)])

/-- The trial after an event, with the events that the event plans. -/
def step (t : Trial α) (e : Callers.Event α) : Trial α × List (Plan (Callers.Event α)) :=
  let (callers, handedTo) := t.callers.turn e
  let next := { t with callers }
  match e with
  | .advance who | .loaded who _ =>
      let (followed, plans) := next.follow who
      (followed, plans ++ wake handedTo)
  | _ => (next, wake handedTo)

/-- A lookup takes fewer turns than this. -/
def turnLimit : Nat := 16

/-- The events with which a trial begins. -/
def opening (callers : Nat) (dropAfter : Option Nat) : List (Plan (Callers.Event α)) :=
  ((List.range callers).map fun who => .soon (.advance who)) ++
    match dropAfter with
    | some ms => (List.range callers).map fun who => .later ms (.drop who)
    | none => []

/-- Lets a number of callers look up a key. -/
def conduct (codec : Codec α) (cache : Cache) (clockMs : Nat) (key : String)
    (rehearsal : Rehearsal α) (callers : Nat) (dropAfter : Option Nat) : Trial α :=
  let start : Callers α :=
    { codec, cache, clockMs, callers := List.replicate callers { key } }
  Schedule.run step (turnLimit * (callers + 1)) { rehearsal, callers := start }
    (Schedule.Agenda.add {} (opening callers dropAfter))

end Trial
end Cache
end SupplierGateway
