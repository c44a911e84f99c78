import SupplierGateway.Proofs.FanOut.Conservation

/-!
# The discipline of a bounded pool

A bounded pool has as many runners as workers, but at least one and no more than units, which bounds
the number of units in progress.  The runners share one queue, which units leave from its front
only.  A runner that has reported a unit, with any result, is idle until its own next turn, and
leaves only when it finds the queue empty.

These properties hold for any order of the turns of runners, signal and coordinator.  They exclude a
runner that vanishes, and hold for the others then.

* `Turn` and `turn_step` — the ways in which an event changes one runner;
* `length_runners_run` — runners are neither added nor taken away;
* `departures` — the units that leave the queue, in the order in which they do;
* `unit_kept_or_reported` — a runner keeps its unit until it has reported it;
* `Keeps.runner_unique` — a unit is with one runner only;
* `Disciplined` and `bounded_pool_discipline` — the properties of a bounded pool at every moment.
-/

namespace SupplierGateway
namespace FanOut
namespace Pool

variable {α : Type} {p : Pool α}

/-! ## One runner -/

/-- The ways in which an event changes the state of a runner. -/
inductive Turn (p p' : Pool α) (r : Nat) : Event α → Prop
  | still (e : Event α) (hsame : p'.runner r = p.runner r) : Turn p p' r e
  | takes (unit : Nat) (rest : List Nat) (hidle : p.runner r = .idle)
      (hqueue : p.queue = unit :: rest) (hholds : p'.runner r = .holding unit)
      (hrest : p'.queue = rest) : Turn p p' r (.take r)
  | leaves (hidle : p.runner r = .idle) (hqueue : p.queue = []) (hgone : p'.runner r = .gone) :
      Turn p p' r (.take r)
  | begins (unit : Nat) (hholds : p.runner r = .holding unit) (hworks : p'.runner r = .working unit) :
      Turn p p' r (.begin r)
  | reports (e : Event α) (unit : Nat) (o : Except Failure α)
      (hunit : (p.runner r).unit? = some unit) (hidle : p'.runner r = .idle)
      (hchannel : p'.channel = p.channel ++ [(unit, o)]) : Turn p p' r e
  | vanishes (hgone : p'.runner r = .gone) : Turn p p' r (.vanish r)

theorem runner_eq_of_getElem? {r : Nat} {x : Runner} (hget : p.runners[r]? = some x) :
    p.runner r = x := by
  rw [runner, List.getD_eq_getElem?_getD, hget]
  rfl

/-- Setting the state of a runner does not change the others. -/
theorem runner_setRunner_of_ne {r r' : Nat} (hne : r' ≠ r) (next : Runner) :
    (p.setRunner r next).runner r' = p.runner r' := by
  rw [runner, runner, setRunner, List.getD_eq_getElem?_getD, List.getD_eq_getElem?_getD,
    List.getElem?_set_ne hne.symm]

/-- Every event changes the state of a runner in one of these ways. -/
theorem turn_step (p : Pool α) (e : Event α) (r : Nat) : p.Turn (p.step e) r e := by
  have hmoved := p.moved_step e
  generalize p.step e = p' at hmoved ⊢
  cases hmoved with
  | same => exact .still e rfl
  | taken r' unit rest hget hqueue =>
      by_cases hr : r = r'
      · subst hr
        exact .takes unit rest (runner_eq_of_getElem? hget) hqueue (runner_setRunner hget _) rfl
      · exact .still _ (runner_setRunner_of_ne hr _)
  | left r' hget hqueue =>
      by_cases hr : r = r'
      · subst hr
        exact .leaves (runner_eq_of_getElem? hget) hqueue (runner_setRunner hget _)
      · exact .still _ (runner_setRunner_of_ne hr _)
  | begun r' unit hget hsignal =>
      by_cases hr : r = r'
      · subst hr
        exact .begins unit (runner_eq_of_getElem? hget) (runner_setRunner hget _)
      · exact .still _ (runner_setRunner_of_ne hr _)
  | reported _ r' unit x o hget hunit hcause =>
      by_cases hr : r = r'
      · subst hr
        refine .reports _ unit o ?_ (runner_setRunner hget _) rfl
        rw [runner_eq_of_getElem? hget, hunit]
      · exact .still _ (runner_setRunner_of_ne hr _)
  | received unit o rest hchannel =>
      refine .still _ ?_
      rw [runner, runner, runners_accept]
  | vanished r' x hget =>
      by_cases hr : r = r'
      · subst hr
        exact .vanishes (runner_setRunner hget _)
      · exact .still _ (runner_setRunner_of_ne hr _)

/-- A runner that is idle stays idle until it takes its turn, unless it vanishes. -/
theorem runner_run_of_idle {r : Nat} (hidle : p.runner r = .idle) {later : List (Event α)}
    (hothers : ∀ e ∈ later, e ≠ .take r ∧ e ≠ .vanish r) : (p.run later).runner r = .idle := by
  induction later generalizing p with
  | nil => exact hidle
  | cons e later ih =>
      obtain ⟨⟨htake, hvanish⟩, hrest⟩ := List.forall_mem_cons.mp hothers
      refine ih ?_ hrest
      cases p.turn_step e r with
      | still _ hsame => exact hsame.trans hidle
      | takes | leaves => exact absurd rfl htake
      | begins unit hholds _ => exact Runner.noConfusion (hidle.symm.trans hholds)
      | reports _ _ _ _ hidle' _ => exact hidle'
      | vanishes _ => exact absurd rfl hvanish

/-- An idle runner that takes its turn has the unit at the front of the queue. -/
theorem step_take_of_idle {r unit : Nat} {rest : List Nat} (hidle : p.runner r = .idle)
    (hqueue : p.queue = unit :: rest) :
    (p.step (.take r)).runner r = .holding unit ∧ (p.step (.take r)).queue = rest := by
  have hstep : p.step (.take r) = { p.setRunner r (.holding unit) with queue := rest } := by
    rw [step, take, hidle, hqueue]
  rw [hstep]
  exact ⟨runner_setRunner (getElem?_runners_of_runner hidle (by simp)) _, rfl⟩

/-- A runner leaves when it finds the queue empty. -/
theorem queue_of_leaves {r : Nat} {e : Event α} (hthere : p.runner r ≠ .gone)
    (hvanish : e ≠ .vanish r) (hgone : (p.step e).runner r = .gone) : p.queue = [] := by
  cases p.turn_step e r with
  | still _ hsame => exact absurd (hsame.symm.trans hgone) hthere
  | takes _ _ _ _ hholds _ => exact Runner.noConfusion (hholds.symm.trans hgone)
  | leaves _ hqueue _ => exact hqueue
  | begins _ _ hworks => exact Runner.noConfusion (hworks.symm.trans hgone)
  | reports _ _ _ _ hidle _ => exact Runner.noConfusion (hidle.symm.trans hgone)
  | vanishes _ => exact absurd rfl hvanish

/-- A runner that has a unit keeps it until it reports it, unless it vanishes. -/
theorem unit_kept_or_reported {r unit : Nat} {e : Event α} (hunit : (p.runner r).unit? = some unit)
    (hvanish : e ≠ .vanish r) :
    ((p.step e).runner r).unit? = some unit ∨
      (p.step e).runner r = .idle ∧ ∃ o, (p.step e).channel = p.channel ++ [(unit, o)] := by
  cases p.turn_step e r with
  | still _ hsame => exact .inl (hsame ▸ hunit)
  | takes _ _ hidle _ _ _ | leaves hidle _ _ =>
      rw [hidle] at hunit
      cases hunit
  | begins unit' hholds hworks =>
      rw [hholds] at hunit
      exact .inl (hworks ▸ hunit)
  | reports _ unit' o hunit' hidle hchannel =>
      obtain rfl := Option.some.inj (hunit.symm.trans hunit')
      exact .inr ⟨hidle, o, hchannel⟩
  | vanishes _ => exact absurd rfl hvanish

/-! ## All runners -/

@[simp] theorem length_runners_step (p : Pool α) (e : Event α) :
    (p.step e).runners.length = p.runners.length := by
  have hmoved := p.moved_step e
  generalize p.step e = p' at hmoved ⊢
  cases hmoved with
  | same => rfl
  | received unit o rest hchannel => rw [runners_accept]
  | taken | left | begun | reported | vanished => exact List.length_set

/-- Runners are neither added nor taken away. -/
theorem length_runners_run (p : Pool α) (events : List (Event α)) :
    (p.run events).runners.length = p.runners.length := by
  induction events generalizing p with
  | nil => rfl
  | cons e events ih => exact (ih (p.step e)).trans (length_runners_step p e)

theorem length_held_le (p : Pool α) : p.held.length ≤ p.runners.length :=
  List.length_filterMap_le _ _

/-- A unit that is worked on is with a runner. -/
theorem inProgress_sublist_held (p : Pool α) : p.inProgress.Sublist p.held := by
  rw [inProgress, held]
  induction p.runners with
  | nil => exact .slnil
  | cons x rest ih =>
      cases x with
      | working unit => exact ih.cons_cons unit
      | holding unit => exact ih.cons unit
      | idle | gone => exact ih

/-- A unit is with one runner only. -/
theorem Keeps.runner_unique {n : Nat} {lost : List Nat} (hkeeps : p.Keeps n lost) {r r' unit : Nat}
    {x x' : Runner} (hget : p.runners[r]? = some x) (hunit : x.unit? = some unit)
    (hget' : p.runners[r']? = some x') (hunit' : x'.unit? = some unit) : r = r' := by
  by_contra hne
  -- The other runner would still have the unit after a change of this one.
  have hstill : 0 < (p.setRunner r .idle).held.count unit := by
    refine List.count_pos_iff.mpr (mem_held (r := r') ?_ hunit')
    rwa [Pool.setRunner, List.getElem?_set_ne hne]
  have hheld := count_held_setRunner hget .idle unit
  rw [hunit] at hheld
  simp only [Runner.unit?, Option.toList_none, Option.toList_some, List.count_nil,
    List.count_singleton_self] at hheld
  have honce := hkeeps.once unit
  unfold places at honce
  split at honce <;> omega

/-- The event that ends the work on a unit changes the runner that works on it. -/
theorem Keeps.step_settle {n : Nat} {lost : List Nat} (hkeeps : p.Keeps n lost) {r unit : Nat}
    (hworks : p.runner r = .working unit) (a : Attempt α) :
    p.step (.settle unit a) = p.report r unit (unitOutcome unit a) := by
  have hget := getElem?_runners_of_runner hworks (by simp)
  obtain ⟨r', hworker⟩ := exists_workerOn? hget
  obtain rfl := hkeeps.runner_unique hget rfl (runner_of_workerOn? hworker) rfl
  rw [Pool.step, settle, hworker]

/-- The runner is idle after that event. -/
theorem Keeps.idle_of_settle {n : Nat} {lost : List Nat} (hkeeps : p.Keeps n lost) {r unit : Nat}
    (hworks : p.runner r = .working unit) (a : Attempt α) :
    (p.step (.settle unit a)).runner r = .idle := by
  rw [hkeeps.step_settle hworks]
  exact runner_setRunner (getElem?_runners_of_runner hworks (by simp)) .idle

/-! ## The queue -/

/-- The units that are in the queue before an event, and not after it. -/
def leaving (p : Pool α) (e : Event α) : List Nat :=
  p.queue.filter fun unit => !(p.step e).queue.contains unit

/-- The units that leave the queue in the course of events, in order. -/
def departures (p : Pool α) : List (Event α) → List Nat
  | [] => []
  | e :: later => p.leaving e ++ (p.step e).departures later

/-- Units leave the queue from its front. -/
theorem leaving_append_queue (hnodup : p.queue.Nodup) (e : Event α) :
    p.leaving e ++ (p.step e).queue = p.queue := by
  have hnone : (p.step e).queue = p.queue → p.leaving e ++ (p.step e).queue = p.queue := by
    intro hsame
    simp [leaving, hsame]
  have hmoved := p.moved_step e
  unfold leaving at *
  generalize p.step e = p' at hmoved hnone ⊢
  cases hmoved with
  | same | left | begun | reported | vanished => exact hnone rfl
  | received unit o rest hchannel => exact hnone (queue_accept _ _ _)
  | taken r unit rest hget hqueue =>
      rw [hqueue, List.nodup_cons] at hnodup
      change (p.queue.filter fun u => !rest.contains u) ++ rest = p.queue
      simp [hqueue, hnodup.1]

theorem departures_concat (p : Pool α) (events : List (Event α)) (e : Event α) :
    p.departures (events ++ [e]) = p.departures events ++ (p.run events).leaving e := by
  induction events generalizing p with
  | nil => simp [departures, run]
  | cons first events ih =>
      rw [List.cons_append, departures, departures, ih, List.append_assoc]
      rfl

/-- The units that have left the queue, followed by those still in it, are all units in order. -/
theorem departures_append_queue {units : List Nat} (hqueue : p.queue = units) (hnodup : units.Nodup)
    (events : List (Event α)) : p.departures events ++ (p.run events).queue = units := by
  induction events using List.reverseRecOn with
  | nil => exact hqueue
  | append_singleton events e ih =>
      have hrest : (p.run events).queue.Nodup :=
        (List.nodup_append.mp (ih.symm ▸ hnodup)).2.1
      rw [departures_concat, run_concat, List.append_assoc, leaving_append_queue hrest, ih]

/-! ## The discipline -/

/-- The properties of a pool of some workers for some units, after some of the units left the
queue. -/
structure Disciplined (workers n : Nat) (departed : List Nat) (p : Pool α) : Prop where
  /-- No more units are in progress than are with runners, and no more are with runners than there
  are units, or workers if there are any. -/
  few : p.inProgress.length ≤ p.held.length ∧ p.held.length ≤ max 1 (min workers n)
  /-- Units leave the queue in order, and each of them once. -/
  ordered : departed ++ p.queue = List.range n
  /-- A unit whose work has come to an end, with any result, is reported by its runner. -/
  settled : ∀ r unit, p.runner r = .working unit → ∀ a,
    (p.step (.settle unit a)).channel = p.channel ++ [(unit, unitOutcome unit a)]
  /-- The runner is then idle until its next turn, at which it takes the unit at the front of the
  queue. -/
  goesOn : ∀ r unit, p.runner r = .working unit → ∀ a later,
    (∀ e ∈ later, e ≠ .take r ∧ e ≠ .vanish r) →
      ((p.step (.settle unit a)).run later).runner r = .idle ∧
      ∀ next rest, ((p.step (.settle unit a)).run later).queue = next :: rest →
        (((p.step (.settle unit a)).run later).step (.take r)).runner r = .holding next ∧
        (((p.step (.settle unit a)).run later).step (.take r)).queue = rest
  /-- A runner that has no longer its unit has reported it and is idle, unless it vanished. -/
  keepsUnit : ∀ r unit, (p.runner r).unit? = some unit → ∀ e, e ≠ .vanish r →
    ((p.step e).runner r).unit? = some unit ∨
      (p.step e).runner r = .idle ∧ ∃ o, (p.step e).channel = p.channel ++ [(unit, o)]
  /-- A runner leaves only when the queue is empty. -/
  staysForQueue : ∀ r, p.runner r ≠ .gone → ∀ e, e ≠ .vanish r →
    (p.step e).runner r = .gone → p.queue = []

/-- A bounded pool has these properties at every moment, for any number of workers and units, with
or without fail-fast, for any results of units and any order of events. -/
theorem bounded_pool_discipline (workers n : Nat) (failFast : Bool) (events : List (Event α)) :
    ((start { scheduling := .bounded workers, failFast } n : Pool α).run events).Disciplined
      workers n
      ((start { scheduling := .bounded workers, failFast } n : Pool α).departures events) := by
  obtain ⟨lost, hkeeps, -⟩ :=
    exists_keeps_run (α := α) { scheduling := .bounded workers, failFast } n events
  refine ⟨⟨(inProgress_sublist_held _).length_le, ?_⟩,
    departures_append_queue rfl List.nodup_range events, fun r unit hworks a => ?_,
    fun r unit hworks a later hothers => ?_, fun r unit hunit e hvanish => ?_,
    fun r hthere e hvanish => queue_of_leaves hthere hvanish⟩
  · have hlength := length_runners_run
      (start { scheduling := .bounded workers, failFast } n : Pool α) events
    have hstart : (start { scheduling := .bounded workers, failFast } n : Pool α).runners.length =
        min (max workers 1) n := List.length_replicate
    have hheld := length_held_le ((start { scheduling := .bounded workers, failFast } n).run events)
    omega
  · rw [hkeeps.step_settle hworks]
    rfl
  · have hready := runner_run_of_idle (hkeeps.idle_of_settle hworks a) hothers
    exact ⟨hready, fun next rest => step_take_of_idle hready⟩
  · exact unit_kept_or_reported hunit hvanish

-- The only worker takes the next unit after one that failed and after one that crashed.
example :
    (start { scheduling := .bounded 1 } 3 : Pool Nat).run
        [.take 0, .begin 0, .settle 0 (.failure (.supplier "sold out")), .take 0, .begin 0,
          .settle 1 (.crash "no such key"), .take 0] =
      { failFast := false, queue := [], runners := [.holding 2], cancelled := false
        channel :=
          [(0, .error (.supplier "sold out")), (1, .error (crashFailure 1 "no such key"))]
        slots := [none, none, none] } := by
  decide +kernel

end Pool
end FanOut
end SupplierGateway
