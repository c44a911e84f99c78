import SupplierGateway.FanOut.Pool

/-!
# Events as moves of a pool

An event that is impossible at its moment changes nothing.  Otherwise a runner takes a unit, begins
it, reports it, leaves or vanishes, or the coordinator receives a report.

* `Runner.unit?` — the unit that a runner has;
* `Cause` — the causes of a report: the work on the unit came to an end, or its runner saw the
  signal;
* `Moved` — the ways in which an event changes a pool;
* `moved_step` — every event changes the pool in one of these ways.
-/

namespace SupplierGateway
namespace FanOut

/-- The unit that a runner has. -/
def Runner.unit? : Runner → Option Nat
  | .holding unit | .working unit => some unit
  | .idle | .gone => none

/-- A runner vanishes. -/
def Event.vanishes {α : Type} : Event α → Bool
  | .vanish _ => true
  | _ => false

namespace Pool

variable {α : Type} {p : Pool α}

/-! ## Runners -/

/-- A runner that is not gone stands in the list of runners. -/
theorem getElem?_runners_of_runner {r : Nat} {x : Runner} (hrunner : p.runner r = x)
    (hne : x ≠ .gone) : p.runners[r]? = some x := by
  unfold runner at hrunner
  rw [List.getD_eq_getElem?_getD] at hrunner
  cases hget : p.runners[r]? with
  | none =>
      rw [hget] at hrunner
      exact absurd hrunner.symm hne
  | some y =>
      rw [hget] at hrunner
      exact congrArg some hrunner

/-- A runner that works on a unit is found by the unit. -/
theorem runner_of_workerOn? {r unit : Nat} (hworker : p.workerOn? unit = some r) :
    p.runners[r]? = some (.working unit) := by
  obtain ⟨hr, hworking, _⟩ := List.findIdx?_eq_some_iff_getElem.mp hworker
  rw [List.getElem?_eq_getElem hr]
  exact congrArg some (beq_iff_eq.mp hworking)

/-- A unit that a runner works on is found, with this runner or with another one. -/
theorem exists_workerOn? {r unit : Nat} (hget : p.runners[r]? = some (.working unit)) :
    ∃ r', p.workerOn? unit = some r' := by
  rw [← Option.isSome_iff_exists, workerOn?, List.findIdx?_isSome, List.any_eq_true]
  exact ⟨_, List.mem_of_getElem? hget, by simp⟩

/-- A runner that is gone, or does not exist, vanishes without a change to the pool. -/
theorem setRunner_gone {r : Nat} (hgone : p.runner r = .gone) : p.setRunner r .gone = p := by
  have hsame : p.runners.set r .gone = p.runners := by
    rw [runner, List.getD_eq_getElem?_getD] at hgone
    by_cases hr : r < p.runners.length
    · rw [List.getElem?_eq_getElem hr] at hgone
      exact (congrArg _ hgone.symm).trans (List.set_getElem_self hr)
    · exact List.set_eq_of_length_le (Nat.le_of_not_lt hr)
  rw [setRunner, hsame]

theorem runner_setRunner {r : Nat} {x : Runner} (hget : p.runners[r]? = some x) (next : Runner) :
    (p.setRunner r next).runner r = next := by
  have hlt := (List.getElem?_eq_some_iff.mp hget).1
  simp [runner, setRunner, hlt]

/-- The units that runners have. -/
def held (p : Pool α) : List Nat := p.runners.filterMap Runner.unit?

theorem mem_held {r unit : Nat} {x : Runner} (hget : p.runners[r]? = some x)
    (hunit : x.unit? = some unit) : unit ∈ p.held :=
  List.mem_filterMap.mpr ⟨x, List.mem_of_getElem? hget, hunit⟩

theorem mem_inProgress {r unit : Nat} (hget : p.runners[r]? = some (.working unit)) :
    unit ∈ p.inProgress :=
  List.mem_filterMap.mpr ⟨.working unit, List.mem_of_getElem? hget, rfl⟩

/-! ## Received reports -/

section Accept

variable (p : Pool α) (unit : Nat) (o : Except Failure α)

@[simp] theorem slots_length_accept : (p.accept unit o).slots.length = p.slots.length := by
  unfold accept
  split <;> simp

@[simp] theorem queue_accept : (p.accept unit o).queue = p.queue := by
  unfold accept
  split <;> rfl

@[simp] theorem runners_accept : (p.accept unit o).runners = p.runners := by
  unfold accept
  split <;> rfl

@[simp] theorem channel_accept : (p.accept unit o).channel = p.channel := by
  unfold accept
  split <;> rfl

@[simp] theorem failFast_accept : (p.accept unit o).failFast = p.failFast := by
  unfold accept
  split <;> rfl

end Accept

/-- Of two reports of a unit the first one counts. -/
theorem accept_of_ne {unit : Nat} (hslot : p.slots[unit]? ≠ some none) (o : Except Failure α) :
    p.accept unit o = p := by
  unfold accept
  split
  · next hempty => exact absurd hempty hslot
  · rfl

theorem cancelled_accept {unit : Nat} (hempty : p.slots[unit]? = some none)
    (o : Except Failure α) :
    (p.accept unit o).cancelled = (p.cancelled || (p.failFast && isFatal o)) := by
  rw [accept, hempty]

/-! ## Events -/

/-- The causes of the report of a unit: the work on it came to an end while a runner worked on it,
or its runner saw the signal. -/
inductive Cause (p : Pool α) (unit : Nat) : Event α → Except Failure α → Prop
  | settled (a : Attempt α) (hworking : unit ∈ p.inProgress) :
      Cause p unit (.settle unit a) (unitOutcome unit a)
  | cancelled (e : Event α) (hsignal : (p.failFast && p.cancelled) = true) :
      Cause p unit e (.error cancelledFailure)

/-- The ways in which an event changes a pool. -/
inductive Moved (p : Pool α) : Event α → Pool α → Prop
  /-- The event is impossible. -/
  | same (e : Event α) : Moved p e p
  | taken (r unit : Nat) (rest : List Nat) (hget : p.runners[r]? = some .idle)
      (hqueue : p.queue = unit :: rest) :
      Moved p (.take r) { p.setRunner r (.holding unit) with queue := rest }
  | left (r : Nat) (hget : p.runners[r]? = some .idle) (hqueue : p.queue = []) :
      Moved p (.take r) (p.setRunner r .gone)
  | begun (r unit : Nat) (hget : p.runners[r]? = some (.holding unit))
      (hsignal : (p.failFast && p.cancelled) = false) :
      Moved p (.begin r) (p.setRunner r (.working unit))
  | reported (e : Event α) (r unit : Nat) (x : Runner) (o : Except Failure α)
      (hget : p.runners[r]? = some x) (hunit : x.unit? = some unit) (hcause : p.Cause unit e o) :
      Moved p e (p.report r unit o)
  | received (unit : Nat) (o : Except Failure α) (rest : List (Nat × Except Failure α))
      (hchannel : p.channel = (unit, o) :: rest) :
      Moved p .receive (({ p with channel := rest } : Pool α).accept unit o)
  | vanished (r : Nat) (x : Runner) (hget : p.runners[r]? = some x) :
      Moved p (.vanish r) (p.setRunner r .gone)

/-- Every event changes the pool in one of these ways. -/
theorem moved_step (p : Pool α) (e : Event α) : p.Moved e (p.step e) := by
  cases e with
  | take r =>
      simp only [step, take]
      split
      · next unit rest hrunner hqueue =>
        exact .taken r unit rest (getElem?_runners_of_runner hrunner nofun) hqueue
      · next hrunner hqueue => exact .left r (getElem?_runners_of_runner hrunner nofun) hqueue
      · exact .same _
  | begin r =>
      simp only [step, begin]
      split
      · next unit hrunner =>
        have hget := getElem?_runners_of_runner hrunner nofun
        split
        · next hsignal => exact .reported _ r unit _ _ hget rfl (.cancelled _ hsignal)
        · next hsignal => exact .begun r unit hget (by simpa using hsignal)
      · exact .same _
  | settle unit a =>
      simp only [step, settle]
      split
      · next r hworker =>
        have hget := runner_of_workerOn? hworker
        exact .reported _ r unit _ _ hget rfl (.settled a (mem_inProgress hget))
      · exact .same _
  | giveUp unit =>
      simp only [step, giveUp]
      split
      · next r hworker =>
        split
        · next hsignal =>
          exact .reported _ r unit _ _ (runner_of_workerOn? hworker) rfl (.cancelled _ hsignal)
        · exact .same _
      · exact .same _
  | receive =>
      simp only [step, receive]
      split
      · next unit o rest hchannel => exact .received unit o rest hchannel
      · exact .same _
  | vanish r =>
      cases hget : p.runners[r]? with
      | none =>
          have hgone : p.runner r = .gone := by
            rw [runner, List.getD_eq_getElem?_getD, hget]
            rfl
          rw [step, setRunner_gone hgone]
          exact .same _
      | some x => exact .vanished r x hget

theorem failFast_step (p : Pool α) (e : Event α) : (p.step e).failFast = p.failFast := by
  have hmoved := p.moved_step e
  generalize p.step e = p' at hmoved ⊢
  cases hmoved with
  | received unit o rest hchannel => exact failFast_accept _ unit o
  | same | taken | left | begun | reported | vanished => rfl

end Pool
end FanOut
end SupplierGateway
