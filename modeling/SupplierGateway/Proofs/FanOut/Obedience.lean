import SupplierGateway.Proofs.FanOut.Accounting
import SupplierGateway.Proofs.FanOut.Progress
import SupplierGateway.Proofs.Schedule.Fairness

/-!
# Fan-outs with given results of units

In this file the result of the work on each unit is given, and no runner vanishes.  Everything else
is left open: which runner takes and begins which unit and when, when the work on a unit ends, when
the signal is seen and when reports are received.

* `Event.Obeys` — an event agrees with the results of the units;
* `finished_of_still` — a pool that no such event changes is finished;
* `finishes_of_fair` — in a fair schedule the pool is finished at some moment;
* `Settles.attempt` — the work on a unit ends as given;
* `Report.sequential` — the report of working on the units one after another;
* `toReport_eq_sequential` — a pool has this report if every unit is reported with its result.
-/

namespace SupplierGateway
namespace FanOut

variable {α : Type} {attempts : List (Attempt α)}

/-! ## Events that agree with the attempts -/

/-- An event agrees with the results of the units: the work on a unit ends as given, and no runner
vanishes. -/
def Event.Obeys (attempts : List (Attempt α)) : Event α → Prop
  | .settle unit a => attempts[unit]? = some a
  | .vanish _ => False
  | .take _ | .begin _ | .giveUp _ | .receive => True

instance [DecidableEq α] (e : Event α) : Decidable (e.Obeys attempts) :=
  match e with
  | .settle unit a => inferInstanceAs (Decidable (attempts[unit]? = some a))
  | .vanish _ => inferInstanceAs (Decidable False)
  | .take _ | .begin _ | .giveUp _ | .receive => inferInstanceAs (Decidable True)

theorem Event.Obeys.vanishes {e : Event α} (hobeys : e.Obeys attempts) : e.vanishes = false := by
  cases e with
  | vanish r => exact hobeys.elim
  | take | begin | settle | giveUp | receive => rfl

namespace Pool

variable {p : Pool α} {events : List (Event α)} {n : Nat}

theorem keeps_run (o : Options) (n : Nat) (hobeys : ∀ e ∈ events, e.Obeys attempts) :
    ((start o n).run events).Keeps n [] := by
  obtain ⟨lost, hkeeps, hlost⟩ := exists_keeps_run o n events
  rwa [hlost fun e he => (hobeys e he).vanishes] at hkeeps

theorem staffed_run (o : Options) (n : Nat) (hobeys : ∀ e ∈ events, e.Obeys attempts) :
    ((start o n).run events).Staffed n := by
  induction events using List.reverseRecOn with
  | nil => exact staffed_start o n
  | append_singleton events e ih =>
      rw [run_concat]
      have hbefore := ih fun e' he' => hobeys e' (List.mem_append_left _ he')
      exact hbefore.step (hobeys e (by simp)).vanishes

/-- When the pool is finished, there is an outcome of every unit. -/
theorem outcome?_isSome_run (o : Options) (hobeys : ∀ e ∈ events, e.Obeys attempts)
    (hfinished : ((start o n).run events).finished = true) {unit : Nat} (hunit : unit < n) :
    (((start o n).run events).outcome? unit).isSome :=
  outcome?_isSome_of_finished (keeps_run o n hobeys) (staffed_run o n hobeys) hfinished hunit

/-! ## Finished fan-outs -/

/-- A pool that no event changes, as long as the events agree with the attempts, is finished. -/
theorem finished_of_still (hkeeps : p.Keeps attempts.length [])
    (hstill : ∀ e : Event α, e.Obeys attempts → p.step e = p) : p.finished = true := by
  by_contra hfinished
  rcases exists_of_not_finished (by simpa using hfinished) with hchannel | ⟨r, hrunner⟩
  · -- A report can be received.
    have hless := p.effort_receive.resolve_left fun h => hchannel h.2
    rw [show p.receive = p from hstill .receive trivial] at hless
    exact Nat.lt_irrefl _ hless
  · -- The runner can go on, and a unit that it works on can come to its end.
    cases hdoes : p.runner r with
    | gone => exact hrunner hdoes
    | idle =>
        have hless := (p.effort_take r).resolve_left fun h => h.2 hdoes
        rw [show p.take r = p from hstill (.take r) trivial] at hless
        exact Nat.lt_irrefl _ hless
    | holding unit =>
        have hless := (p.effort_begin r).resolve_left fun h => h.2 unit hdoes
        rw [show p.begin r = p from hstill (.begin r) trivial] at hless
        exact Nat.lt_irrefl _ hless
    | working unit =>
        have hget := getElem?_runners_of_runner hdoes nofun
        have hheld := List.count_pos_iff.mpr (mem_held hget rfl)
        obtain ⟨hunit, -⟩ :=
          hkeeps.places_le (show 0 < p.places unit by unfold places; omega)
        obtain ⟨r', hworker⟩ := exists_workerOn? hget
        have hstep := hstill (.settle unit attempts[unit]) (List.getElem?_eq_getElem hunit)
        have hless := effort_report_lt hworker (unitOutcome unit attempts[unit])
        simp only [step, settle, hworker] at hstep
        rw [hstep] at hless
        exact Nat.lt_irrefl _ hless

theorem exists_fair (p : Pool α) (attempts : List (Attempt α)) :
    ∃ schedule, Schedule.Fair step (Event.Obeys attempts) p schedule :=
  Schedule.exists_fair step p (show Event.Obeys attempts .receive from trivial)

/-- In a fair schedule the pool is finished at some moment. -/
theorem finishes_of_fair {o : Options} {schedule : Nat → Event α}
    (hfair : Schedule.Fair step (Event.Obeys attempts) (start o attempts.length) schedule) :
    ∃ k, (Schedule.after step (start o attempts.length) schedule k).finished = true := by
  obtain ⟨k, hstill⟩ := hfair.exists_still effort_step
  exact ⟨k, finished_of_still (keeps_run o _ fun e he => hfair.admits_of_mem he) hstill⟩

/-! ## Results of units -/

theorem failFast_run (p : Pool α) (events : List (Event α)) :
    (p.run events).failFast = p.failFast := by
  induction events using List.reverseRecOn with
  | nil => rfl
  | append_singleton events e ih => rw [run_concat, failFast_step, ih]

/-- The work on a unit ends as given. -/
theorem Settles.attempt {unit : Nat} {a : Attempt α} (hsettles : p.Settles events unit a)
    (hobeys : ∀ e ∈ events, e.Obeys attempts) : attempts[unit]? = some a := by
  obtain ⟨before, after, rfl, -⟩ := hsettles
  exact hobeys (.settle unit a) (by simp)

end Pool

/-! ## Reports -/

namespace Report

/-- The report with one more outcome. -/
def add (r : Report α) (unit : Nat) : Except Failure α → Report α
  | .ok a => { r with successes := r.successes ++ [(unit, a)] }
  | .error f => { r with errors := r.errors ++ [(unit, f)] }

/-- The report of working on the units one after another, from the first to the last. -/
def sequential (attempts : List (Attempt α)) : Report α :=
  attempts.zipIdx.foldl (fun r entry => r.add entry.2 (unitOutcome entry.2 entry.1)) {}

/-- A report has an attempt as the result of a unit. -/
def Has (r : Report α) (unit : Nat) : Except Failure α → Prop
  | .ok a => (unit, a) ∈ r.successes
  | .error f => (unit, f) ∈ r.errors

theorem has_ofOutcomes {outcomes : List (Except Failure α × Nat)} {unit : Nat}
    {o : Except Failure α} : (ofOutcomes outcomes).Has unit o ↔ (o, unit) ∈ outcomes := by
  cases o with
  | ok a => exact mem_successes
  | error f => exact mem_errors

theorem foldl_add (outcomes : List (Except Failure α × Nat)) (r : Report α) :
    outcomes.foldl (fun r entry => r.add entry.2 entry.1) r =
      { successes := r.successes ++ (ofOutcomes outcomes).successes
        errors := r.errors ++ (ofOutcomes outcomes).errors } := by
  induction outcomes generalizing r with
  | nil => simp [ofOutcomes]
  | cons entry rest ih =>
      obtain ⟨o, unit⟩ := entry
      rw [List.foldl_cons, ih]
      cases o <;> simp [add, ofOutcomes]

/-- The sequential report has the units in their order. -/
theorem sequential_eq (attempts : List (Attempt α)) :
    sequential attempts =
      ofOutcomes (attempts.zipIdx.map fun entry => (unitOutcome entry.2 entry.1, entry.2)) := by
  have hfold := foldl_add
    (attempts.zipIdx.map fun entry => (unitOutcome entry.2 entry.1, entry.2)) {}
  rw [List.foldl_map] at hfold
  simpa [sequential] using hfold

/-- The sequential report has every unit with its result. -/
theorem has_sequential {unit : Nat} {o : Except Failure α} :
    (sequential attempts).Has unit o ↔
      ∃ a, attempts[unit]? = some a ∧ o = unitOutcome unit a := by
  rw [sequential_eq, has_ofOutcomes]
  simp only [List.mem_map, Prod.exists, List.mem_zipIdx_iff_getElem?, Prod.mk.injEq]
  constructor
  · rintro ⟨a, v, hget, rfl, rfl⟩
    exact ⟨a, hget, rfl⟩
  · rintro ⟨a, hget, rfl⟩
    exact ⟨a, unit, hget, rfl, rfl⟩

end Report

namespace Pool

variable {p : Pool α}

/-- A pool with an outcome of every unit reports these outcomes. -/
theorem has_toReport (hkept : ∀ unit < p.slots.length, (p.outcome? unit).isSome) {unit : Nat}
    {o : Except Failure α} : p.toReport.Has unit o ↔ p.outcome? unit = some o := by
  rw [toReport_eq, Report.has_ofOutcomes, mem_outcomes]
  constructor
  · rintro ⟨hunit, rfl⟩
    obtain ⟨kept, hsome⟩ := Option.isSome_iff_exists.mp (hkept unit hunit)
    rw [hsome, Option.getD_some]
  · intro hsome
    refine ⟨?_, by rw [hsome, Option.getD_some]⟩
    by_contra hunit
    rw [outcome?, List.getElem?_eq_none (Nat.le_of_not_lt hunit)] at hsome
    cases hsome

/-- A pool that has received every unit with its result has the sequential report. -/
theorem toReport_eq_sequential (hlength : p.slots.length = attempts.length)
    (hkept : ∀ unit a, attempts[unit]? = some a →
      p.outcome? unit = some (unitOutcome unit a)) :
    p.toReport = Report.sequential attempts := by
  rw [toReport_eq, Report.sequential_eq, outcomes]
  congr 1
  refine List.ext_getElem? fun unit => ?_
  simp only [List.getElem?_map, List.getElem?_zipIdx, Nat.zero_add]
  by_cases hunit : unit < attempts.length
  · have hslot : p.slots[unit]? = some (some (unitOutcome unit attempts[unit])) := by
      have hreceived := hkept unit _ (List.getElem?_eq_getElem hunit)
      exact Option.join_eq_some_iff.mp hreceived
    rw [hslot, List.getElem?_eq_getElem hunit]
    rfl
  · rw [List.getElem?_eq_none (by omega), List.getElem?_eq_none (by omega)]
    rfl

end Pool
end FanOut
end SupplierGateway
