import SupplierGateway.Proofs.FanOut.Conservation

/-!
# Progress of a fan-out

Each event that changes the pool moves a unit on or makes a runner leave, so that every sequence of
changes is finite, for any results of units and any runners that vanish.

* `Pool.effort` — the measure of a pool;
* `effort_step` — an event that changes the pool decreases the measure;
* `wellFounded_follows` — the relation of a pool to its changes is well-founded;
* `exists_of_not_finished` — a pool that is not finished has a report or a runner left.
-/

namespace SupplierGateway
namespace FanOut

/-- The steps that a runner has yet to take with its unit, and its leaving. -/
def Runner.effort : Runner → Nat
  | .idle => 1
  | .holding _ => 4
  | .working _ => 3
  | .gone => 0

namespace Pool

variable {α : Type} {p : Pool α}

/-- A bound on the number of events that change the pool from now on. -/
def effort (p : Pool α) : Nat :=
  4 * p.queue.length + (p.runners.map Runner.effort).sum + p.channel.length

theorem effort_setRunner {r : Nat} {x : Runner} (hget : p.runners[r]? = some x) (next : Runner) :
    (p.setRunner r next).effort + x.effort = p.effort + next.effort := by
  have hsum := sum_map_set Runner.effort hget next
  show 4 * p.queue.length + ((p.runners.set r next).map Runner.effort).sum + p.channel.length +
    x.effort = p.effort + next.effort
  unfold effort
  omega

/-- A runner that reports has one unit less, and the coordinator one report more. -/
theorem effort_report {r unit : Nat} {x : Runner} (hget : p.runners[r]? = some x)
    (o : Except Failure α) : (p.report r unit o).effort + x.effort = p.effort + 2 := by
  have hset := effort_setRunner hget .idle
  have hreport : (p.report r unit o).effort = (p.setRunner r .idle).effort + 1 := by
    simp only [effort, report, List.length_append, List.length_singleton]
    rfl
  have hidle : Runner.idle.effort = 1 := rfl
  omega

@[simp] theorem effort_accept (p : Pool α) (unit : Nat) (o : Except Failure α) :
    (p.accept unit o).effort = p.effort := by
  simp [effort]

theorem effort_take (p : Pool α) (r : Nat) :
    p.take r = p ∧ p.runner r ≠ .idle ∨ (p.take r).effort < p.effort := by
  unfold take
  split
  · next unit rest hrunner hqueue =>
    right
    have hset := effort_setRunner (getElem?_runners_of_runner hrunner (by simp)) (.holding unit)
    have htake : ({ p.setRunner r (.holding unit) with queue := rest } : Pool α).effort + 4 =
        (p.setRunner r (.holding unit)).effort := by
      simp only [effort, setRunner, hqueue, List.length_cons]
      omega
    simp only [Runner.effort] at hset
    omega
  · next hrunner hqueue =>
    right
    have hset := effort_setRunner (getElem?_runners_of_runner hrunner (by simp)) .gone
    simp only [Runner.effort] at hset
    omega
  · next hunit hnone =>
    refine .inl ⟨rfl, fun hidle => ?_⟩
    cases hqueue : p.queue with
    | nil => exact hnone hidle hqueue
    | cons unit rest => exact hunit unit rest hidle hqueue

theorem effort_begin (p : Pool α) (r : Nat) :
    p.begin r = p ∧ (∀ unit, p.runner r ≠ .holding unit) ∨ (p.begin r).effort < p.effort := by
  unfold begin
  split
  · next unit hrunner =>
    right
    have hget := getElem?_runners_of_runner hrunner (by simp)
    split
    · have hreport : (p.report r unit (.error cancelledFailure)).effort +
          (Runner.holding unit).effort = p.effort + 2 := effort_report hget _
      simp only [Runner.effort] at hreport
      omega
    · have hset := effort_setRunner hget (.working unit)
      simp only [Runner.effort] at hset
      omega
  · next hholding => exact .inl ⟨rfl, hholding⟩

theorem effort_report_lt {r unit : Nat} (hworker : p.workerOn? unit = some r)
    (o : Except Failure α) : (p.report r unit o).effort < p.effort := by
  have hreport : (p.report r unit o).effort + (Runner.working unit).effort = p.effort + 2 :=
    effort_report (runner_of_workerOn? hworker) o
  simp only [Runner.effort] at hreport
  omega

theorem effort_receive (p : Pool α) :
    p.receive = p ∧ p.channel = [] ∨ p.receive.effort < p.effort := by
  unfold receive
  split
  · next unit o rest hchannel =>
    right
    rw [effort_accept]
    simp only [effort, hchannel, List.length_cons]
    omega
  · next hchannel => exact .inl ⟨rfl, hchannel⟩

/-- An event that changes the pool decreases the measure. -/
theorem effort_step (p : Pool α) (e : Event α) :
    p.step e = p ∨ (p.step e).effort < p.effort := by
  cases e with
  | take r => exact (p.effort_take r).imp_left And.left
  | begin r => exact (p.effort_begin r).imp_left And.left
  | settle unit a =>
      simp only [step, settle]
      split
      · next r hworker => exact .inr (effort_report_lt hworker _)
      · exact .inl rfl
  | giveUp unit =>
      simp only [step, giveUp]
      split
      · next r hworker =>
        split
        · exact .inr (effort_report_lt hworker _)
        · exact .inl rfl
      · exact .inl rfl
  | vanish r =>
      by_cases hgone : p.runner r = .gone
      · exact .inl (setRunner_gone hgone)
      · right
        have hset := effort_setRunner (getElem?_runners_of_runner rfl hgone) .gone
        have hpos : 0 < (p.runner r).effort := by
          cases hrunner : p.runner r with
          | gone => exact absurd hrunner hgone
          | idle | holding | working => simp [Runner.effort]
        have hzero : Runner.gone.effort = 0 := rfl
        show (p.setRunner r .gone).effort < p.effort
        omega
  | receive => exact p.effort_receive.imp_left And.left

/-- A pool follows another one if an event changed the other one into it. -/
def Follows (p' p : Pool α) : Prop := ∃ e, p' = p.step e ∧ p' ≠ p

/-- There is no infinite sequence of events that each change the pool. -/
theorem wellFounded_follows : WellFounded (Follows (α := α)) := by
  refine Subrelation.wf ?_ (measure effort).wf
  rintro _ p ⟨e, rfl, hchanges⟩
  exact (p.effort_step e).resolve_left hchanges

/-- A pool that is not finished has a report to receive or a runner that is not gone. -/
theorem exists_of_not_finished (hfinished : p.finished = false) :
    p.channel ≠ [] ∨ ∃ r, p.runner r ≠ .gone := by
  by_cases hchannel : p.channel = []
  · right
    simp only [finished, hchannel, List.isEmpty_nil, Bool.true_and, List.all_eq_false] at hfinished
    obtain ⟨x, hx, hgone⟩ := hfinished
    obtain ⟨r, hget⟩ := List.getElem?_of_mem hx
    refine ⟨r, ?_⟩
    rw [runner, List.getD_eq_getElem?_getD, hget]
    simpa using hgone
  · exact .inl hchannel

end Pool
end FanOut
end SupplierGateway
