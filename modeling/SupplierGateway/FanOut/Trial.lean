import SupplierGateway.FanOut.Pool

/-!
# Trial runs of a fan-out

A trial runs a fan-out over units whose conduct is known beforehand: after a delay a unit comes to
an attempt, or its runner vanishes.  Events happen at their time; what happens at one moment happens
in the order in which it became ready.
-/

namespace SupplierGateway
namespace FanOut

open Schedule (Plan)

/-- The end of a unit: an attempt, or its runner vanishing without a report. -/
inductive Conduct (α : Type) where
  | attempt (a : Attempt α)
  | vanish
deriving DecidableEq, Repr

/-- A unit whose conduct is known. -/
structure TrialUnit (α : Type) where
  delayMs : Nat
  conduct : Conduct α
deriving DecidableEq, Repr

/-- A trial in progress. -/
structure Trial (α : Type) where
  units : List (TrialUnit α)
  pool : Pool α
  /-- The most units that were ever in progress at once. -/
  peak : Nat

namespace Trial

variable {α : Type}

/-- The event that ends the work on a unit. -/
def ending (t : Trial α) (r unit : Nat) : List (Plan (Event α)) :=
  match t.units[unit]? with
  | some u =>
      match u.conduct with
      | .attempt a => [.after u.delayMs (.settle unit a)]
      | .vanish => [.after u.delayMs (.vanish r)]
  | none => []

/-- The events that follow from an event. -/
def plans (t : Trial α) (next : Pool α) : Event α → List (Plan (Event α))
  | .take r => next.follow .take .begin r
  | .begin r =>
      match next.runner r with
      | .working unit => t.ending r unit
      | _ => .soon .receive :: next.follow .take .begin r
  | .settle unit _ | .giveUp unit =>
      match t.pool.workerOn? unit with
      | some r => .soon .receive :: next.follow .take .begin r
      | none => []
  | .vanish _ => []
  | .receive => (t.pool.alarmed next).map fun unit => .soon (.giveUp unit)

/-- The trial after an event, with the events that the event plans. -/
def step (t : Trial α) (e : Event α) : Trial α × List (Plan (Event α)) :=
  let pool := t.pool.step e
  ({ t with pool, peak := max t.peak pool.inProgress.length }, t.plans pool e)

/-- Every runner takes and begins each unit at most once, and every report is received once. -/
def eventLimit (units : Nat) : Nat := 16 * (units + 1)

/-- Runs a fan-out to its end. -/
def conduct (o : Options) (units : List (TrialUnit α)) : Trial α :=
  let pool := Pool.start o units.length
  Schedule.run step (eventLimit units.length) { units, pool, peak := 0 }
    (Schedule.Agenda.add {} (pool.opening .take .begin))

end Trial
end FanOut
end SupplierGateway
