import SupplierGateway.Attempt
import SupplierGateway.Schedule.Agenda

/-!
# The pool that runs a fan-out

Units are numbered from zero.  Runners work on them, one unit at a time, and report an outcome for
each through a channel.  A coordinator receives the reports and keeps the first one for each unit.
An unbounded fan-out has one runner for each unit, which has its unit from the start; a bounded one
has as many runners as workers, but at least one and no more than units, and they take units from a
common queue.

With fail-fast the coordinator raises a signal when it receives a fatal failure.  A runner that sees
the signal reports its unit as cancelled, and if it has not begun the unit it never does.

Runners, signal and coordinator take turns in any order: the pool changes by events, and an event
that is impossible at its moment changes nothing.  A runner may also vanish without a report; what
it was working on is then reported as lost in the end.

Left to itself, an idle runner takes a unit at once and begins it at once, and when the signal is
raised, the runners at work see it as soon as everything that is ready has happened.  The driver of
a pool says which of its own events stand for the turns of runners.
-/

namespace SupplierGateway
namespace FanOut

open Schedule (Plan)

/-! ## Options -/

/-- The bound on the number of units in progress at once. -/
inductive Scheduling where
  | unbounded
  | bounded (workers : Nat)
deriving DecidableEq, Repr

/-- The settings of a fan-out: its scheduling, and whether a fatal failure cancels other units. -/
structure Options where
  scheduling : Scheduling := .unbounded
  failFast : Bool := false
deriving DecidableEq, Repr

/-- The options as they stand in diagnostics. -/
def Options.debug (o : Options) : String :=
  let scheduling :=
    match o.scheduling with
    | .unbounded => "Unbounded"
    | .bounded workers => "Bounded(" ++ toString workers ++ ")"
  "FanOutOptions \x7b scheduling: " ++ scheduling ++ ", fail_fast: " ++
    (if o.failFast then "true" else "false") ++ " \x7d"

/-! ## Runners and their pool -/

/-- The states of a runner. -/
inductive Runner where
  /-- It is about to take a unit from the queue. -/
  | idle
  /-- It has taken a unit that it has not begun. -/
  | holding (unit : Nat)
  | working (unit : Nat)
  | gone
deriving DecidableEq, Repr

/-- A fan-out in progress. -/
structure Pool (α : Type) where
  failFast : Bool
  queue : List Nat
  runners : List Runner
  /-- The cancellation signal. -/
  cancelled : Bool
  /-- Reports that the coordinator has not received, oldest first. -/
  channel : List (Nat × Except Failure α)
  /-- For each unit the report that counts. -/
  slots : List (Option (Except Failure α))
deriving DecidableEq, Repr

/-- The events of a pool. -/
inductive Event (α : Type) where
  /-- An idle runner takes the next unit, or leaves when there is none. -/
  | take (runner : Nat)
  /-- A runner begins the unit that it holds. -/
  | begin (runner : Nat)
  /-- The work on a unit ends. -/
  | settle (unit : Nat) (a : Attempt α)
  /-- The runner that works on a unit sees the signal. -/
  | giveUp (unit : Nat)
  | vanish (runner : Nat)
  /-- The coordinator receives the oldest report. -/
  | receive
deriving DecidableEq, Repr

/-- The outcome of a unit that was cancelled. -/
def cancelledFailure : Failure :=
  .connection "cancelled after a sibling unit failed"

/-- The outcome of a unit whose work crashed. -/
def crashFailure (unit : Nat) (text : String) : Failure :=
  .connection ("unit " ++ toString unit ++ " terminated abnormally: " ++ text)

/-- The outcome of a unit for which no report was received. -/
def lostFailure (unit : Nat) : Failure :=
  .connection ("unit " ++ toString unit ++ " terminated without reporting an outcome")

/-- The outcome that is reported for the work on a unit. -/
def unitOutcome {α : Type} (unit : Nat) : Attempt α → Except Failure α
  | .success a => .ok a
  | .failure f => .error f
  | .crash text => .error (crashFailure unit text)

/-- The outcome is a fatal failure. -/
def isFatal {α : Type} : Except Failure α → Bool
  | .ok _ => false
  | .error f => f.fatal

namespace Pool

variable {α : Type}

/-- The pool at the start. -/
def start (o : Options) (total : Nat) : Pool α :=
  let units := List.range total
  let slots := List.replicate total none
  match o.scheduling with
  | .unbounded =>
      { failFast := o.failFast, queue := [], runners := units.map .holding, cancelled := false
        channel := [], slots }
  | .bounded workers =>
      { failFast := o.failFast, queue := units
        runners := List.replicate (min (max workers 1) total) .idle
        cancelled := false, channel := [], slots }

/-- The state of a runner; a runner that does not exist is gone. -/
def runner (p : Pool α) (r : Nat) : Runner := p.runners.getD r .gone

/-- The pool with the state of a runner replaced. -/
def setRunner (p : Pool α) (r : Nat) (next : Runner) : Pool α :=
  { p with runners := p.runners.set r next }

/-- The runner that works on a unit. -/
def workerOn? (p : Pool α) (unit : Nat) : Option Nat :=
  p.runners.findIdx? (· == .working unit)

/-- A runner reports a unit and is idle again. -/
def report (p : Pool α) (r unit : Nat) (o : Except Failure α) : Pool α :=
  { p.setRunner r .idle with channel := p.channel ++ [(unit, o)] }

/-- An idle runner takes the next unit, or leaves when there is none. -/
def take (p : Pool α) (r : Nat) : Pool α :=
  match p.runner r, p.queue with
  | .idle, unit :: rest => { p.setRunner r (.holding unit) with queue := rest }
  | .idle, [] => p.setRunner r .gone
  | _, _ => p

/-- A runner begins the unit that it holds, unless the signal is up. -/
def begin (p : Pool α) (r : Nat) : Pool α :=
  match p.runner r with
  | .holding unit =>
      if p.failFast && p.cancelled then p.report r unit (.error cancelledFailure)
      else p.setRunner r (.working unit)
  | _ => p

/-- The work on a unit ends. -/
def settle (p : Pool α) (unit : Nat) (a : Attempt α) : Pool α :=
  match p.workerOn? unit with
  | some r => p.report r unit (unitOutcome unit a)
  | none => p

/-- The runner that works on a unit gives it up because the signal is up. -/
def giveUp (p : Pool α) (unit : Nat) : Pool α :=
  match p.workerOn? unit with
  | some r =>
      if p.failFast && p.cancelled then p.report r unit (.error cancelledFailure) else p
  | none => p

/-- The coordinator receives a report. -/
def accept (p : Pool α) (unit : Nat) (o : Except Failure α) : Pool α :=
  match p.slots[unit]? with
  | some none =>
      { p with
        cancelled := p.cancelled || (p.failFast && isFatal o)
        slots := p.slots.set unit (some o) }
  | _ => p

/-- The coordinator receives the oldest report. -/
def receive (p : Pool α) : Pool α :=
  match p.channel with
  | (unit, o) :: rest => { p with channel := rest }.accept unit o
  | [] => p

/-- The pool after an event. -/
def step (p : Pool α) : Event α → Pool α
  | .take r => p.take r
  | .begin r => p.begin r
  | .settle unit a => p.settle unit a
  | .giveUp unit => p.giveUp unit
  | .vanish r => p.setRunner r .gone
  | .receive => p.receive

/-- The pool after events. -/
def run (p : Pool α) (events : List (Event α)) : Pool α := events.foldl step p

/-- All runners have left and all reports are received. -/
def finished (p : Pool α) : Bool :=
  p.channel.isEmpty && p.runners.all (· == .gone)

/-- The units that are being worked on. -/
def inProgress (p : Pool α) : List Nat :=
  p.runners.filterMap fun | .working unit => some unit | _ => none

/-! ## The log -/

/-- The log entries of an event. -/
def notices (p : Pool α) : Event α → List LogEntry
  | .settle unit (.crash text) =>
      match p.workerOn? unit with
      | some _ =>
          [{ level := .error, message := "fan-out unit panicked"
             fields := [("unit", toString unit), ("panic", text)] }]
      | none => []
  | .receive =>
      match p.channel with
      | (unit, _) :: _ =>
          match p.slots[unit]? with
          | some (some _) =>
              [{ level := .warn, message := "fan-out unit reported twice; keeping first outcome"
                 fields := [("unit", toString unit)] }]
          | _ => []
      | [] => []
  | _ => []

/-- The log entries about units for which no report was received. -/
def lostNotices (p : Pool α) : List LogEntry :=
  p.slots.zipIdx.filterMap fun
    | (none, unit) =>
        some
          { level := .error, message := "fan-out unit never reported an outcome"
            fields := [("unit", toString unit)] }
    | _ => none

/-! ## Turns -/

variable {ε : Type}

/-- The next turn of a runner. -/
def follow (take begin : Nat → ε) (p : Pool α) (r : Nat) : List (Plan ε) :=
  match p.runner r with
  | .idle => [.next (take r)]
  | .holding _ => [.next (begin r)]
  | .working _ | .gone => []

/-- The units whose runners have yet to see the signal that an event raised. -/
def alarmed (before after : Pool α) : List Nat :=
  if after.cancelled && !before.cancelled then after.inProgress else []

/-- The first turns of the runners. -/
def opening (take begin : Nat → ε) (p : Pool α) : List (Plan ε) :=
  p.runners.zipIdx.filterMap fun
    | (.idle, r) => some (.soon (take r))
    | (.holding _, r) => some (.soon (begin r))
    | _ => none

end Pool

/-! ## Reports -/

/-- The result of a fan-out: the values of the units that succeeded and the failures of the others,
each with the number of its unit, in ascending order. -/
structure Report (α : Type) where
  successes : List (Nat × α) := []
  errors : List (Nat × Failure) := []
deriving DecidableEq, Repr

namespace Report

variable {α : Type}

/-- The report of one outcome for each unit. -/
def ofOutcomes (outcomes : List (Except Failure α × Nat)) : Report α where
  successes := outcomes.filterMap fun
    | (.ok a, unit) => some (unit, a)
    | (.error _, _) => none
  errors := outcomes.filterMap fun
    | (.ok _, _) => none
    | (.error f, unit) => some (unit, f)

/-- The values, in order of their units. -/
def values (r : Report α) : List α := r.successes.map (·.2)

/-- The failures, in order of their units. -/
def failures (r : Report α) : List Failure := r.errors.map (·.2)

end Report

/-- The report of a pool.  A unit for which no report was received counts as lost. -/
def Pool.toReport {α : Type} (p : Pool α) : Report α :=
  Report.ofOutcomes
    (p.slots.zipIdx.map fun (slot, unit) => (slot.getD (.error (lostFailure unit)), unit))

end FanOut
end SupplierGateway
