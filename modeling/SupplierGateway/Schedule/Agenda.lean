/-!
# Agendas

An agenda holds the events that are still to happen.  Events that are ready happen in the order in
which they became ready, before the clock moves on; when nothing is ready the clock moves to the
earliest event that is due later, and of several due at once to the one that was planned first.

A run takes events from an agenda one by one.  Each event changes a state and plans further events:
at once before everything else, as soon as everything that is ready has happened, or after a while.
-/

namespace SupplierGateway
namespace Schedule

universe u

/-- An event that is planned. -/
inductive Plan (ε : Type) where
  /-- Before everything else. -/
  | next (e : ε)
  /-- After everything that is ready. -/
  | soon (e : ε)
  | later (ms : Nat) (e : ε)
deriving DecidableEq, Repr

/-- An event after a while, which is next when the while is zero. -/
def Plan.after {ε : Type} (ms : Nat) (e : ε) : Plan ε :=
  if ms = 0 then .next e else .later ms e

/-- A plan for another kind of event. -/
def Plan.map {ε δ : Type} (f : ε → δ) : Plan ε → Plan δ
  | next e => .next (f e)
  | soon e => .soon (f e)
  | later ms e => .later ms (f e)

/-- The events that are still to happen. -/
structure Agenda (ε : Type) where
  clockMs : Nat := 0
  ready : List ε := []
  /-- Events with the times at which they are due, in ascending order. -/
  timers : List (Nat × ε) := []
deriving Repr

namespace Agenda

variable {ε : Type}

/-- Inserts a timer after all timers that are due no later. -/
def insertTimer (due : Nat) (e : ε) : List (Nat × ε) → List (Nat × ε)
  | [] => [(due, e)]
  | (t, f) :: rest =>
      if due < t then (due, e) :: (t, f) :: rest else (t, f) :: insertTimer due e rest

/-- The events among plans that are to happen before everything else. -/
def urgent (plans : List (Plan ε)) : List ε :=
  plans.filterMap fun | .next e => some e | _ => none

/-- The events among plans that are to happen after everything that is ready. -/
def patient (plans : List (Plan ε)) : List ε :=
  plans.filterMap fun | .soon e => some e | _ => none

/-- Adds plans to an agenda. -/
def add (a : Agenda ε) (plans : List (Plan ε)) : Agenda ε :=
  { a with
    ready := urgent plans ++ a.ready ++ patient plans
    timers := plans.foldl
      (fun timers plan =>
        match plan with
        | .later ms e => insertTimer (a.clockMs + ms) e timers
        | _ => timers)
      a.timers }

/-- Takes the first event. -/
def pop? (a : Agenda ε) : Option (ε × Agenda ε) :=
  match a.ready, a.timers with
  | e :: rest, _ => some (e, { a with ready := rest })
  | [], (due, e) :: rest => some (e, { a with clockMs := due, timers := rest })
  | [], [] => none

end Agenda

/-- Lets events happen until none is left, but at most as many as `limit`. -/
def run {σ : Type u} {ε : Type} (step : σ → ε → σ × List (Plan ε)) : Nat → σ → Agenda ε → σ
  | 0, state, _ => state
  | limit + 1, state, agenda =>
      match agenda.pop? with
      | none => state
      | some (e, rest) =>
          let (next, plans) := step state e
          run step limit next (rest.add plans)

end Schedule
end SupplierGateway
