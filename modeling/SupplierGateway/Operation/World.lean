import SupplierGateway.Operation.Task

/-!
# Worlds of tasks, and sessions

Tasks share a transport, caches, a clock and a log, and move in any order.  Between moves the clock
advances, and the stores behind the caches are used by others.  An event that is impossible at its
moment changes nothing.  The clock advances in whole milliseconds, the unit of latencies and
deadlines.  Stores count expiries in nanoseconds, so a world compares an expiry with the start of a
millisecond only.

Without other events, tasks move as planned: a task goes on until it has to wait, and calls come to
their end in the order of their latencies.

A session carries out scripts one after another in one run.  What a script records stays in the run,
also when the script crashes.
-/

namespace SupplierGateway
namespace Operation

open Schedule (Agenda Plan)

/-- Tasks, numbered from zero, and the resources that they share. -/
structure World (β : Type) : Type 1 where
  resources : Resources := {}
  tasks : List (Task β) := []

/-- The events of a world: moves of tasks, time that passes, and uses of a store by others. -/
inductive Event where
  | task (who : Nat) (m : Move)
  | wait (ms : Nat)
  /-- The store behind a cache becomes another one. -/
  | replace (cache : Nat) (backend : Cache.Backend)
deriving DecidableEq, Repr

namespace World

variable {β : Type}

/-- Adds a task. -/
def add (w : World β) (t : Task β) : World β :=
  { resources := w.resources.tell [t.run.startEntry], tasks := w.tasks ++ [t] }

/-- A task moves. -/
def move (w : World β) (who : Nat) (m : Move) : World β × List (Plan Event) :=
  match w.tasks[who]? with
  | none => (w, [])
  | some t =>
      let moved := t.move w.resources who m
      ({ resources := moved.resources, tasks := w.tasks.set who moved.task },
        moved.plans.map (Plan.map (.task who)) ++
          moved.handedTo.toList.map fun other => .soon (.task other .proceed))

/-- The world after an event, with the events that the event plans. -/
def turn (w : World β) : Event → World β × List (Plan Event)
  | .task who m => w.move who m
  | .wait ms =>
      let clockMs := w.resources.clockMs + ms
      ({ w with resources := { w.resources with clockMs } }, [])
  | .replace number backend =>
      let cache := { w.resources.cache number with backend }
      ({ w with resources := w.resources.setCache number cache }, [])

/-- The world after an event. -/
def step (w : World β) (e : Event) : World β := (w.turn e).1

/-- The world after events. -/
def run (w : World β) (events : List Event) : World β := events.foldl step w

/-- A bound on the number of events of a settled world. -/
def patience : Nat := 1000000000000

/-- The world in which the tasks have moved as planned until all have ended, or `patience` events
have occurred. -/
def settled (w : World β) : World β :=
  Schedule.run turn patience w
    (Agenda.add {} ((List.range w.tasks.length).map fun who => .soon (.task who .proceed)))

@[simp] theorem run_nil (w : World β) : w.run [] = w := rfl

@[simp] theorem run_cons (w : World β) (e : Event) (events : List Event) :
    w.run (e :: events) = (w.step e).run events := rfl

end World

/-! ## Sessions -/

/-- A run with the resources and options that its tasks use. -/
structure Session where
  resources : Resources
  run : Run
  options : FanOut.Options

namespace Session

/-- Carries out a script.  Gives its result, if it has one. -/
def perform {β : Type} (s : Session) (script : Script β) : Session × Option (Except String β) :=
  let task : Task β := { run := s.run, options := s.options, cache := 0, stage := .ready script }
  let world := World.settled { resources := s.resources, tasks := [task] }
  let after := world.tasks.headD task
  ({ s with resources := world.resources, run := after.run }, after.result?)

/-- Begins a new run in a context. -/
def begin (s : Session) (context : Context) : Session :=
  let run := Run.begin context
  { s with run, resources := s.resources.tell [run.startEntry] }

end Session
end Operation
end SupplierGateway
