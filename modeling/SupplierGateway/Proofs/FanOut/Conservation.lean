import Mathlib.Data.List.Induction
import Mathlib.Data.List.Nodup
import Mathlib.Data.List.Perm.Basic
import SupplierGateway.Proofs.FanOut.Moves
import SupplierGateway.Proofs.Lists

/-!
# Conservation of units

A unit waits in the queue, is with a runner, is reported in the channel or has been received by the
coordinator.  This file shows that a unit is always in exactly one of these places, unless the
runner that had it vanished:

* `Keeps` — the invariant: every unit is counted once, in a place or among the lost units;
* `keeps_start` and `Keeps.step` — the invariant holds at the start, and every event preserves it;
* `outcome?_isSome_of_finished` — when the pool is finished and no runner vanished, the coordinator
  has received an outcome of every unit.

Since a unit is in one place only, no unit is reported twice, and the coordinator receives at most
one report of each.
-/

namespace SupplierGateway
namespace FanOut
namespace Pool

variable {α : Type} {p : Pool α} {n : Nat} {lost : List Nat}

/-- The units that are reported and not yet received. -/
def reported (p : Pool α) : List Nat := p.channel.map Prod.fst

/-- The outcome that counts for a unit, once it has been received. -/
def outcome? (p : Pool α) (unit : Nat) : Option (Except Failure α) := p.slots[unit]?.join

/-- The units of which the coordinator has received an outcome. -/
def received (p : Pool α) : List Nat :=
  (List.range p.slots.length).filter fun unit => (p.outcome? unit).isSome

/-- The number of places in which a unit is. -/
def places (p : Pool α) (unit : Nat) : Nat :=
  p.queue.count unit + p.held.count unit + p.reported.count unit + p.received.count unit

/-- Every unit of the fan-out is in one place or lost, and no other number is in any place. -/
structure Keeps (n : Nat) (lost : List Nat) (p : Pool α) : Prop where
  slots_length : p.slots.length = n
  once : ∀ unit, p.places unit + lost.count unit = if unit < n then 1 else 0

/-! ## Counts -/

/-- A runner exchanges one unit for another one. -/
theorem count_held_setRunner {r : Nat} {x : Runner} (hget : p.runners[r]? = some x)
    (next : Runner) (unit : Nat) :
    (p.setRunner r next).held.count unit + x.unit?.toList.count unit =
      p.held.count unit + next.unit?.toList.count unit :=
  count_filterMap_set Runner.unit? hget next unit

theorem count_received (p : Pool α) (unit : Nat) :
    p.received.count unit = if (p.outcome? unit).isSome then 1 else 0 := by
  have hnodup : p.received.Nodup := List.nodup_range.filter _
  have hmem : unit ∈ p.received ↔ (p.outcome? unit).isSome := by
    simp only [received, List.mem_filter, List.mem_range, and_iff_right_iff_imp]
    intro hsome
    by_contra hlarge
    rw [outcome?, List.getElem?_eq_none (Nat.le_of_not_lt hlarge)] at hsome
    simp at hsome
  split
  · next hsome => exact List.count_eq_one_of_mem hnodup (hmem.mpr hsome)
  · next hnone => exact List.count_eq_zero_of_not_mem fun hin => hnone (hmem.mp hin)

/-- The coordinator keeps the first outcome of a unit. -/
theorem outcome?_accept {unit : Nat} (hempty : p.slots[unit]? = some none) (other : Nat)
    (o : Except Failure α) :
    (p.accept unit o).outcome? other = if other = unit then some o else p.outcome? other := by
  have hlt : unit < p.slots.length := (List.getElem?_eq_some_iff.mp hempty).1
  unfold accept
  rw [hempty]
  by_cases hother : other = unit
  · subst hother
    simp [outcome?, hlt]
  · simp [outcome?, hother, List.getElem?_set_ne (Ne.symm hother)]

/-! ## The invariant is preserved -/

/-- A unit in a place is a unit of the fan-out, and is in no other place. -/
theorem Keeps.places_le (hkeeps : p.Keeps n lost) {unit : Nat} (hplaces : 0 < p.places unit) :
    unit < n ∧ p.places unit = 1 := by
  have honce := hkeeps.once unit
  split at honce
  · next hlt => exact ⟨hlt, by omega⟩
  · omega

/-- A runner that reports its unit moves it to the channel. -/
theorem Keeps.report (hkeeps : p.Keeps n lost) {r unit : Nat} {x : Runner}
    (hget : p.runners[r]? = some x) (hunit : x.unit? = some unit) (o : Except Failure α) :
    (p.report r unit o).Keeps n lost := by
  refine ⟨hkeeps.slots_length, fun other => ?_⟩
  have honce := hkeeps.once other
  -- The runners have one unit less, and the channel one more.
  have hheld := count_held_setRunner hget .idle other
  rw [hunit] at hheld
  have hreported : (p.report r unit o).reported.count other =
      p.reported.count other + [unit].count other := by
    simp [reported, Pool.report, List.count_append]
  have hplaces : (p.report r unit o).places other + [unit].count other =
      p.places other + [unit].count other := by
    change p.queue.count other + (p.setRunner r .idle).held.count other +
        (p.report r unit o).reported.count other + p.received.count other +
          [unit].count other = _
    simp only [places, Runner.unit?, Option.toList_none, Option.toList_some, List.count_nil] at *
    omega
  omega

/-- A runner that changes its state keeps its unit. -/
theorem Keeps.setRunner (hkeeps : p.Keeps n lost) {r : Nat} {x next : Runner}
    (hget : p.runners[r]? = some x) (hunit : next.unit? = x.unit?) :
    (p.setRunner r next).Keeps n lost := by
  refine ⟨hkeeps.slots_length, fun other => ?_⟩
  have honce := hkeeps.once other
  have hheld := count_held_setRunner hget next other
  rw [hunit] at hheld
  have hplaces : (p.setRunner r next).places other = p.places other := by
    change p.queue.count other + (p.setRunner r next).held.count other +
      p.reported.count other + p.received.count other = _
    unfold places
    omega
  omega

/-- A runner that takes a unit has it instead of the queue. -/
theorem Keeps.take (hkeeps : p.Keeps n lost) {r unit : Nat} {rest : List Nat}
    (hget : p.runners[r]? = some .idle) (hqueue : p.queue = unit :: rest) :
    ({ p.setRunner r (.holding unit) with queue := rest } : Pool α).Keeps n lost := by
  refine ⟨hkeeps.slots_length, fun other => ?_⟩
  have honce := hkeeps.once other
  have hheld := count_held_setRunner hget (.holding unit) other
  have hcount : p.queue.count other = rest.count other + [unit].count other := by
    rw [hqueue, List.count_cons, List.count_singleton]
  change rest.count other + (p.setRunner r (.holding unit)).held.count other +
    p.reported.count other + p.received.count other + lost.count other = _
  simp only [places, Runner.unit?, Option.toList_none, Option.toList_some, List.count_nil] at *
  omega

/-- The slot of a unit that is still in the channel is empty. -/
theorem Keeps.slot_of_channel (hkeeps : p.Keeps n lost) {unit : Nat} {o : Except Failure α}
    {rest : List (Nat × Except Failure α)} (hchannel : p.channel = (unit, o) :: rest) :
    p.slots[unit]? = some none := by
  have hreported : 0 < p.reported.count unit := by
    simp [reported, hchannel]
  obtain ⟨hlt, hplaces⟩ := hkeeps.places_le (show 0 < p.places unit by unfold places; omega)
  have hnone : p.received.count unit = 0 := by
    unfold places at hplaces
    omega
  rw [count_received] at hnone
  have hslot : unit < p.slots.length := hkeeps.slots_length ▸ hlt
  rw [List.getElem?_eq_getElem hslot]
  cases hget : p.slots[unit] with
  | none => rfl
  | some o' => simp [outcome?, List.getElem?_eq_getElem hslot, hget] at hnone

/-- A report that is received goes from the channel to the coordinator. -/
theorem Keeps.receive (hkeeps : p.Keeps n lost) {unit : Nat} {o : Except Failure α}
    {rest : List (Nat × Except Failure α)} (hchannel : p.channel = (unit, o) :: rest) :
    (({ p with channel := rest } : Pool α).accept unit o).Keeps n lost := by
  have hempty := hkeeps.slot_of_channel hchannel
  refine ⟨by simpa using hkeeps.slots_length, fun other => ?_⟩
  have honce := hkeeps.once other
  have hreported :
      p.reported.count other = (rest.map Prod.fst).count other + [unit].count other := by
    simp [reported, hchannel, List.count_cons]
  have houtcome : (({ p with channel := rest } : Pool α).accept unit o).outcome? other =
      if other = unit then some o else p.outcome? other :=
    outcome?_accept (p := { p with channel := rest }) hempty other o
  simp only [places, count_received, houtcome] at honce ⊢
  simp only [reported, held, queue_accept, runners_accept, channel_accept] at honce hreported ⊢
  -- The unit goes from the channel to the received ones, and all others stay where they are.
  by_cases hother : other = unit
  · subst hother
    have hbefore : p.outcome? other = none := by simp [outcome?, hempty]
    simp only [hbefore, if_true, Option.isSome_none, Option.isSome_some, Bool.false_eq_true,
      if_false, List.count_singleton_self] at honce hreported ⊢
    omega
  · have hnot : [unit].count other = 0 := by simp [Ne.symm hother]
    simp only [hother, if_false] at honce hreported ⊢
    omega

theorem Keeps.vanish (hkeeps : p.Keeps n lost) {r : Nat} {x : Runner}
    (hget : p.runners[r]? = some x) : (p.setRunner r .gone).Keeps n (x.unit?.toList ++ lost) := by
  refine ⟨hkeeps.slots_length, fun other => ?_⟩
  have honce := hkeeps.once other
  have hheld := count_held_setRunner hget .gone other
  rw [List.count_append]
  change p.queue.count other + (p.setRunner r .gone).held.count other +
    p.reported.count other + p.received.count other + _ = _
  simp only [places, Runner.unit?, Option.toList_none, List.count_nil] at *
  omega

/-- Every event keeps all units in place, except that a runner that vanishes loses its unit. -/
theorem Keeps.step (hkeeps : p.Keeps n lost) (e : Event α) :
    ∃ lost', (p.step e).Keeps n lost' ∧ (e.vanishes = false → lost' = lost) := by
  have hmoved := p.moved_step e
  generalize p.step e = p' at hmoved ⊢
  cases hmoved with
  | same => exact ⟨lost, hkeeps, fun _ => rfl⟩
  | taken r unit rest hget hqueue => exact ⟨lost, hkeeps.take hget hqueue, fun _ => rfl⟩
  | left r hget hqueue => exact ⟨lost, hkeeps.setRunner hget rfl, fun _ => rfl⟩
  | begun r unit hget hsignal => exact ⟨lost, hkeeps.setRunner hget rfl, fun _ => rfl⟩
  | reported _ r unit x o hget hunit hcause =>
      exact ⟨lost, hkeeps.report hget hunit o, fun _ => rfl⟩
  | received unit o rest hchannel => exact ⟨lost, hkeeps.receive hchannel, fun _ => rfl⟩
  | vanished r x hget => exact ⟨_, hkeeps.vanish hget, nofun⟩

/-! ## Runs -/

@[simp] theorem failFast_start (o : Options) (n : Nat) :
    (start o n : Pool α).failFast = o.failFast := by
  unfold start
  cases o.scheduling <;> rfl

@[simp] theorem slots_start (o : Options) (n : Nat) :
    (start o n : Pool α).slots = List.replicate n none := by
  unfold start
  cases o.scheduling <;> rfl

@[simp] theorem channel_start (o : Options) (n : Nat) : (start o n : Pool α).channel = [] := by
  unfold start
  cases o.scheduling <;> rfl

@[simp] theorem outcome?_start (o : Options) (n unit : Nat) :
    (start o n : Pool α).outcome? unit = none := by
  unfold outcome?
  rw [slots_start, List.getElem?_replicate]
  split <;> rfl

theorem keeps_start (o : Options) (n : Nat) : (start o n : Pool α).Keeps n [] := by
  refine ⟨by simp, fun unit => ?_⟩
  have hqueued : (start o n : Pool α).queue.count unit + (start o n : Pool α).held.count unit =
      (List.range n).count unit := by
    unfold start held
    cases o.scheduling with
    | unbounded =>
        have hall : (fun u => (Runner.holding u).unit?) = some := rfl
        simp [List.filterMap_map, hall]
    | bounded workers =>
        simp [List.filterMap_replicate, Runner.unit?]
  have hrange : (List.range n).count unit = if unit < n then 1 else 0 := by
    rw [List.count_range]
  rw [places, count_received, reported, channel_start, outcome?_start]
  simpa [hrange] using hqueued

theorem run_concat (p : Pool α) (events : List (Event α)) (e : Event α) :
    p.run (events ++ [e]) = (p.run events).step e :=
  List.foldl_concat ..

theorem run_append (p : Pool α) (before after : List (Event α)) :
    p.run (before ++ after) = (p.run before).run after :=
  List.foldl_append ..

/-- After any events, units are lost only with runners that vanished. -/
theorem exists_keeps_run (o : Options) (n : Nat) (events : List (Event α)) :
    ∃ lost, ((start o n).run events).Keeps n lost ∧
      ((∀ e ∈ events, e.vanishes = false) → lost = []) := by
  induction events using List.reverseRecOn with
  | nil => exact ⟨[], keeps_start o n, fun _ => rfl⟩
  | append_singleton events e ih =>
      obtain ⟨lost, hkeeps, hlost⟩ := ih
      obtain ⟨lost', hkeeps', hlost'⟩ := hkeeps.step e
      rw [run_concat]
      refine ⟨lost', hkeeps', fun hlasting => ?_⟩
      rw [hlost' (hlasting e (by simp))]
      exact hlost fun e' he' => hlasting e' (by simp [he'])

theorem length_slots_run (o : Options) (n : Nat) (events : List (Event α)) :
    ((start o n).run events).slots.length = n := by
  obtain ⟨lost, hkeeps, _⟩ := exists_keeps_run o n events
  exact hkeeps.slots_length

/-! ## The end -/

/-- There are runners if there are units, and none of them left while a unit was waiting. -/
structure Staffed (n : Nat) (p : Pool α) : Prop where
  runners : 0 < n → p.runners ≠ []
  queue : .gone ∈ p.runners → p.queue = []

theorem staffed_start (o : Options) (n : Nat) : (start o n : Pool α).Staffed n := by
  unfold start
  cases o.scheduling with
  | unbounded => exact ⟨fun hn => by simp; omega, fun _ => rfl⟩
  | bounded workers =>
      refine ⟨fun hn => ?_, fun hgone => ?_⟩
      · have hworkers : min (max workers 1) n ≠ 0 := by omega
        simpa [List.replicate_eq_nil_iff] using hworkers
      · exact absurd (List.eq_of_mem_replicate hgone) nofun

/-- A runner that changes its state and does not leave keeps the pool staffed. -/
theorem Staffed.setRunner {n : Nat} (hstaffed : p.Staffed n) (r : Nat) {next : Runner}
    (hnext : next = .gone → p.queue = []) : (p.setRunner r next).Staffed n := by
  refine ⟨fun hn hnil => hstaffed.runners hn ?_, fun hgone => ?_⟩
  · simpa [Pool.setRunner] using hnil
  · rcases List.mem_or_eq_of_mem_set hgone with hbefore | hnew
    · exact hstaffed.queue hbefore
    · exact hnext hnew.symm

/-- A runner leaves a pool in which a unit is waiting only by vanishing. -/
theorem Staffed.step {n : Nat} (hstaffed : p.Staffed n) {e : Event α} (he : e.vanishes = false) :
    (p.step e).Staffed n := by
  have hmoved := p.moved_step e
  generalize p.step e = p' at hmoved ⊢
  cases hmoved with
  | same => exact hstaffed
  | taken r unit rest hget hqueue =>
      have hset : (p.setRunner r (.holding unit)).Staffed n := hstaffed.setRunner r nofun
      refine ⟨hset.runners, fun hgone => ?_⟩
      have hempty : p.queue = [] := hset.queue hgone
      rw [hqueue] at hempty
      exact absurd hempty (List.cons_ne_nil _ _)
  | left r hget hqueue => exact hstaffed.setRunner r fun _ => hqueue
  | begun r unit hget hsignal => exact hstaffed.setRunner r nofun
  | reported _ r unit x o hget hunit hcause =>
      have hset : (p.setRunner r .idle).Staffed n := hstaffed.setRunner r nofun
      exact ⟨hset.runners, hset.queue⟩
  | received unit o rest hchannel =>
      exact ⟨by simpa using hstaffed.runners, by simpa using hstaffed.queue⟩
  | vanished r x hget => exact nomatch he

/-- When the pool is finished and no runner has vanished, there is an outcome of every unit. -/
theorem outcome?_isSome_of_finished (hkeeps : p.Keeps n []) (hstaffed : p.Staffed n)
    (hfinished : p.finished = true) {unit : Nat} (hunit : unit < n) :
    (p.outcome? unit).isSome := by
  unfold finished at hfinished
  rw [Bool.and_eq_true, List.isEmpty_iff, List.all_eq_true] at hfinished
  obtain ⟨hchannel, hgone⟩ := hfinished
  have hall : ∀ x ∈ p.runners, x = .gone := fun x hx => beq_iff_eq.mp (hgone x hx)
  have hqueue : p.queue = [] := by
    obtain ⟨x, hx⟩ := List.exists_mem_of_ne_nil _ (hstaffed.runners (by omega))
    exact hstaffed.queue (hall x hx ▸ hx)
  have hheld : p.held = [] := by
    rw [held, List.filterMap_eq_nil_iff]
    intro x hx
    rw [hall x hx]
    rfl
  have honce := hkeeps.once unit
  rw [places, hqueue, hheld, reported, hchannel, count_received, if_pos hunit] at honce
  by_contra hnone
  simp [hnone] at honce

end Pool
end FanOut
end SupplierGateway
