import SupplierGateway.Call.Pending
import SupplierGateway.FanOut.Pool

/-!
# Calls that are made at once

Several calls are made through one pipeline by a pool of runners.  A unit of the pool is a request:
to begin it is to begin its call, its work ends when the call is settled, and a runner that gives it
up abandons the call.
-/

namespace SupplierGateway
namespace Operation

open Call (Emission Pending Pipeline)
open FanOut (Pool Report)
open Http (Request Transport)
open Schedule (Plan)

/-- The moves of a task. -/
inductive Move where
  /-- Goes on unless there is something to wait for. -/
  | proceed
  /-- The one pending call ends. -/
  | arrive
  | take (runner : Nat)
  | begin (runner : Nat)
  /-- The call of a unit ends. -/
  | settle (unit : Nat)
  | giveUp (unit : Nat)
  | receive
deriving DecidableEq, Repr

/-- A group of calls that are made at once, in progress. -/
structure Spread (α : Type) where
  pipeline : Pipeline
  requests : List (Attempt Request)
  decode : String → Attempt α
  pool : Pool α
  /-- The calls that are pending, by unit. -/
  calls : List (Nat × Pending) := []

namespace Spread

variable {α : Type}

/-- The result of a move. -/
structure Turn (α : Type) where
  spread : Spread α
  transport : Transport
  emissions : List Emission := []
  plans : List (Plan Move) := []

/-- The move that changes nothing. -/
def stay (s : Spread α) (t : Transport) : Turn α := { spread := s, transport := t }

/-- The pending call of a unit. -/
def call? (s : Spread α) (unit : Nat) : Option Pending := s.calls.lookup unit

/-- The pending calls of all other units. -/
def without (s : Spread α) (unit : Nat) : List (Nat × Pending) :=
  s.calls.filter fun entry => entry.1 != unit

/-- The request of a unit. -/
def request (s : Spread α) (unit : Nat) : Attempt Request :=
  s.requests.getD unit (.failure (FanOut.lostFailure unit))

/-- The task goes on when the pool is finished. -/
def whenFinished (p : Pool α) : List (Plan Move) :=
  if p.finished then [.next .proceed] else []

/-- The moves planned after a runner has reported a unit. -/
def afterReport (p : Pool α) (runner : Nat) : List (Plan Move) :=
  .soon .receive :: p.follow .take .begin runner

/-- A runner takes a unit. -/
def take (s : Spread α) (t : Transport) (runner : Nat) : Turn α :=
  let pool := s.pool.take runner
  { spread := { s with pool }, transport := t
    plans := pool.follow .take .begin runner ++ whenFinished pool }

/-- A runner begins the unit that it holds. -/
def begin (s : Spread α) (clockMs : Nat) (t : Transport) (runner : Nat) : Turn α :=
  match s.pool.runner runner with
  | .holding unit =>
      let pool := s.pool.begin runner
      match pool.runner runner with
      | .working _ =>
          let (transport, emissions, call) :=
            Pending.begin s.pipeline clockMs t (s.request unit)
          { spread := { s with pool, calls := (unit, call) :: s.without unit }
            transport, emissions, plans := [.after call.latency (.settle unit)] }
      | _ => { spread := { s with pool }, transport := t, plans := afterReport pool runner }
  | _ => s.stay t

/-- The call of a unit ends. -/
def settle (s : Spread α) (clockMs : Nat) (t : Transport) (unit : Nat) : Turn α :=
  match s.pool.workerOn? unit, s.call? unit with
  | some runner, some call =>
      let (emissions, attempt) := call.settle s.decode clockMs
      let event := FanOut.Event.settle unit attempt
      let pool := s.pool.step event
      { spread := { s with pool, calls := s.without unit }, transport := t
        emissions := emissions ++ (s.pool.notices event).map .log
        plans := afterReport pool runner }
  | _, _ => s.stay t

/-- The runner of a unit gives it up because the signal is up. -/
def giveUp (s : Spread α) (clockMs : Nat) (t : Transport) (unit : Nat) : Turn α :=
  match s.pool.workerOn? unit, s.call? unit with
  | some runner, some call =>
      if s.pool.failFast && s.pool.cancelled then
        let pool := s.pool.giveUp unit
        { spread := { s with pool, calls := s.without unit }, transport := t
          emissions := call.abandon clockMs, plans := afterReport pool runner }
      else s.stay t
  | _, _ => s.stay t

/-- The coordinator receives a report. -/
def receive (s : Spread α) (t : Transport) : Turn α :=
  let pool := s.pool.receive
  { spread := { s with pool }, transport := t
    emissions := (s.pool.notices .receive).map .log
    plans := (s.pool.alarmed pool).map (fun unit => .soon (.giveUp unit)) ++ whenFinished pool }

/-- Makes a move.  The moves `proceed` and `arrive` do not concern the pool. -/
def move (s : Spread α) (clockMs : Nat) (t : Transport) : Move → Turn α
  | .take runner => s.take t runner
  | .begin runner => s.begin clockMs t runner
  | .settle unit => s.settle clockMs t unit
  | .giveUp unit => s.giveUp clockMs t unit
  | .receive => s.receive t
  | .proceed | .arrive => s.stay t

/-- A group of calls before the first of them is begun. -/
def start (pipeline : Pipeline) (options : FanOut.Options) (requests : List (Attempt Request))
    (decode : String → Attempt α) : Spread α :=
  { pipeline, requests, decode, pool := Pool.start options requests.length }

/-- The first moves. -/
def opening (s : Spread α) : List (Plan Move) :=
  s.pool.opening .take .begin ++ whenFinished s.pool

/-- The report of the pool. -/
def report (s : Spread α) : Report α := s.pool.toReport

end Spread
end Operation
end SupplierGateway
