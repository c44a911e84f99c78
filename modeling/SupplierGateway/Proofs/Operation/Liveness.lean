import SupplierGateway.Proofs.Cache.Queues
import SupplierGateway.Proofs.Operation.Fairness
import SupplierGateway.Proofs.Operation.Lookups

/-!
# Tasks do not block each other

Tasks that share a cache wait for each other's locks.  A lock for which a task waits is held by a
task that has asked for it, and that task can take a turn or has a token call in progress.  Of the
tasks that have not ended, one can therefore always be changed, and in a lively schedule all tasks
end, for any replies of the supplier, with or without single-flight, and for any changes of the
stores behind the caches.

* `World.callersOf` — the tasks as callers of a cache;
* `World.Clear` — the invariant: the locks of all caches are guarded, and spreads are traced;
* `Clear.exists_change` — as long as a task has not ended, some task can be changed;
* `World.Lively` — whenever some task can be changed, some task is changed at a later moment;
* `Clear.all_end` — in a lively schedule all tasks end.
-/

namespace SupplierGateway
namespace Operation

open Cache (CachedCredential Caller Guarded)

variable {β : Type}

namespace Task

/-- A task as a caller of a cache. -/
def caller (t : Task β) (number : Nat) : Caller CachedCredential :=
  { key := t.tokenKey, phase? := if t.cache = number then t.phase? else none }

variable {t : Task β} {r : Resources} {who number : Nat} {callers : List (Caller CachedCredential)}

/-- A task with a lookup has not ended. -/
theorem result?_of_phase? {phase : Cache.Phase CachedCredential} (hphase : t.phase? = some phase) :
    t.result? = none := by
  obtain ⟨run, options, cache, stage⟩ := t
  cases stage with
  | authenticating lookup token rest => rfl
  | ready | calling | spreading | done | crashed => exact nomatch hphase

/-- A move of a task keeps the locks of every cache guarded. -/
theorem LookupMove.guarded {caches : Nat → Cache} {next : Option (Cache.Phase CachedCredential)}
    (hmove : t.LookupMove r who caches next) (hguarded : Guarded (r.cache number).locks callers)
    (hget : callers[who]? = some (t.caller number)) :
    Guarded (caches number).locks
      (callers.set who { key := t.tokenKey, phase? := if t.cache = number then next else none }) := by
  by_cases hnumber : t.cache = number
  · subst hnumber
    rw [caller, if_pos rfl] at hget
    rw [if_pos rfl]
    cases hmove with
    | aside _ hnext =>
        rcases hnext with rfl | ⟨hnone, rfl⟩
        · exact hguarded.keep hget _ rfl rfl rfl rfl
        · rw [hnone] at hget
          exact hguarded.keep hget _ rfl rfl rfl rfl
    | turn lookup hphase _ hnext =>
        rw [hphase] at hget
        have hturn := hguarded.advance credentialCodec r.clockMs hget
        rw [Resources.cache_setCache, if_pos rfl]
        rcases hnext with rfl | ⟨rfl, result, hdone⟩
        · exact hturn
        · -- A lookup that is done has nothing to do with a lock any more.
          have hlast : (callers.set who
              { key := t.tokenKey, phase? := some (t.turn r who lookup).phase })[who]? =
              some { key := t.tokenKey, phase? := some (.done result) } := by
            rw [List.getElem?_set_self (List.getElem?_eq_some_iff.mp hget).1, hdone]
          have hleft := hturn.keep hlast { key := t.tokenKey, phase? := none } rfl rfl rfl rfl
          rwa [List.set_set] at hleft
    | loaded lookup hphase result =>
        rw [hphase] at hget
        exact hguarded.loaded hget _ result
  · -- The task has nothing to do with the cache.
    rw [caller, if_neg hnumber] at hget
    rw [if_neg hnumber]
    have hkept := hguarded.keep hget _ rfl rfl rfl rfl
    cases hmove with
    | aside | loaded => exact hkept
    | turn =>
        rw [Resources.cache_setCache, if_neg (Ne.symm hnumber)]
        exact hkept

end Task

namespace World

/-- The tasks as callers of a cache. -/
def callersOf (w : World β) (number : Nat) : List (Caller CachedCredential) :=
  w.tasks.map fun t => t.caller number

/-- The invariant of tasks that share caches. -/
structure Clear (w : World β) : Prop where
  address : w.resources.transport.address = id
  traced : ∀ t ∈ w.tasks, t.Traced
  guarded : ∀ number, Guarded (w.resources.cache number).locks (w.callersOf number)

variable {w : World β} {who : Nat} {t : Task β}

theorem getElem?_callersOf (hget : w.tasks[who]? = some t) (number : Nat) :
    (w.callersOf number)[who]? = some (t.caller number) := by
  rw [callersOf, List.getElem?_map, hget]
  rfl

theorem Clear.task (hclear : w.Clear) (who : Nat) (m : Move) : (w.step (.task who m)).Clear := by
  cases hget : w.tasks[who]? with
  | none =>
      rw [step_task_of_none hget]
      exact hclear
  | some t =>
      have hstep := step_task_of_some hget m
      refine ⟨address_step hclear.address _, ?_, fun number => ?_⟩
      · rw [hstep]
        intro t' ht'
        rcases List.mem_or_eq_of_mem_set ht' with hold | rfl
        · exact hclear.traced t' hold
        · exact (hclear.traced t (List.mem_of_getElem? hget)).move hclear.address m
      · have hguarded := (t.lookupMove_move w.resources who m).guarded (hclear.guarded number)
          (getElem?_callersOf hget number)
        have hfixed := t.fixed_move w.resources who m
        have hcaller : (t.move w.resources who m).task.caller number =
            { key := t.tokenKey
              phase? :=
                if t.cache = number then (t.move w.resources who m).task.phase? else none } := by
          rw [Task.caller, hfixed.tokenKey, hfixed.cache]
        rw [← hcaller] at hguarded
        rw [hstep, callersOf, List.map_set]
        exact hguarded

/-- Every event preserves the invariant. -/
theorem Clear.step (hclear : w.Clear) (e : Event) : (w.step e).Clear := by
  cases e with
  | task who m => exact hclear.task who m
  | wait ms => exact ⟨hclear.address, hclear.traced, hclear.guarded⟩
  | replace cache backend =>
      refine ⟨hclear.address, hclear.traced, fun number => ?_⟩
      rw [locks_replace]
      exact hclear.guarded number

theorem Clear.run (hclear : w.Clear) (events : List Event) : (w.run events).Clear := by
  induction events generalizing w with
  | nil => exact hclear
  | cons e events ih => exact ih (hclear.step e)

/-- A task that waits for a lock waits for a task that does not wait, and has not ended. -/
theorem Clear.exists_not_waits (hclear : w.Clear) (hget : w.tasks[who]? = some t)
    (hwaits : t.Waits w.resources who) :
    ∃ (holder : Nat) (t' : Task β), w.tasks[holder]? = some t' ∧ t'.result? = none ∧
      ¬ t'.Waits w.resources holder := by
  obtain ⟨lock, rest, hstage, -⟩ := hwaits
  have hasked : (t.caller t.cache).asked? = some lock := by
    rw [Task.caller, if_pos rfl, Task.phase?, hstage]
    rfl
  obtain ⟨holder, d, hholder, hd, hasked'⟩ :=
    (hclear.guarded t.cache).exists_holder (getElem?_callersOf hget t.cache) hasked
  rw [callersOf, List.getElem?_map] at hd
  obtain ⟨t', hget', rfl⟩ := Option.map_eq_some_iff.mp hd
  obtain ⟨phase, hphase, hlock⟩ := Option.bind_eq_some_iff.mp hasked'
  have hcache : t'.cache = t.cache := by
    by_contra hother
    rw [Task.caller, if_neg hother] at hphase
    cases hphase
  rw [Task.caller, if_pos hcache] at hphase
  refine ⟨holder, t', hget', Task.result?_of_phase? hphase, ?_⟩
  rintro ⟨other, rest', hstage', hnot⟩
  rw [Task.phase?, hstage'] at hphase
  obtain rfl := Option.some.inj hphase
  obtain rfl : other = lock := Option.some.inj hlock
  exact hnot (hcache ▸ hholder)

/-- As long as a task has not ended, some task can be changed. -/
theorem Clear.exists_change (hclear : w.Clear) (hget : w.tasks[who]? = some t)
    (hresult : t.result? = none) : ∃ who m, w.Changes who (.task who m) := by
  have hmoves : ∀ {who : Nat} {t : Task β}, w.tasks[who]? = some t → t.result? = none →
      ¬ t.Waits w.resources who → ∃ who m, w.Changes who (.task who m) := by
    intro who t hget hresult hnot
    obtain ⟨m, hm⟩ := ((hclear.traced t (List.mem_of_getElem? hget)).exists_move
      hresult).resolve_right hnot
    exact ⟨who, m, changes_of_move hget hm⟩
  by_cases hwaits : t.Waits w.resources who
  · obtain ⟨holder, t', hget', hresult', hnot⟩ := hclear.exists_not_waits hget hwaits
    exact hmoves hget' hresult' hnot
  · exact hmoves hget hresult hwaits

/-! ## Lively schedules -/

/-- Whenever some task can be changed by one of its moves, some task is changed at that moment or a
later one. -/
def Lively (w : World β) (schedule : Nat → Event) : Prop :=
  ∀ n, (∃ who m, (w.after schedule n).Changes who (.task who m)) →
    ∃ k ≥ n, ∃ who, (w.after schedule k).Changes who (schedule k)

/-- There is a lively schedule for every world. -/
theorem exists_lively (w : World β) : ∃ schedule, w.Lively schedule := by
  have hnext : ∀ w' : World β, ∃ e, (∃ who m, w'.Changes who (.task who m)) →
      ∃ who, w'.Changes who e := by
    intro w'
    by_cases hcan : ∃ who m, w'.Changes who (.task who m)
    · obtain ⟨who, m, hchanges⟩ := hcan
      exact ⟨.task who m, fun _ => ⟨who, hchanges⟩⟩
    · exact ⟨.wait 0, fun h => absurd h hcan⟩
  obtain ⟨schedule, hschedule⟩ := Schedule.exists_following step w hnext
  exact ⟨schedule, fun n hcan => ⟨n, Nat.le_refl n, hschedule n hcan⟩⟩

/-- There is a moment from which on none of the first `n` tasks is changed. -/
theorem exists_all_still (w : World β) (schedule : Nat → Event) (number : Nat) :
    ∃ n, ∀ who < number, ∀ k ≥ n, ¬ (w.after schedule k).Changes who (schedule k) := by
  induction number with
  | zero => exact ⟨0, fun who hwho => absurd hwho (Nat.not_lt_zero who)⟩
  | succ number ih =>
      obtain ⟨n, hfirst⟩ := ih
      obtain ⟨n', hlast⟩ := w.exists_still schedule number
      refine ⟨max n n', fun who hwho k hk => ?_⟩
      rcases Nat.lt_succ_iff_lt_or_eq.mp hwho with hlt | rfl
      · exact hfirst who hlt k (Nat.le_trans (Nat.le_max_left ..) hk)
      · exact hlast k (Nat.le_trans (Nat.le_max_right ..) hk)

/-- In a lively schedule all tasks end. -/
theorem Clear.all_end (hclear : w.Clear) {schedule : Nat → Event} (hlively : w.Lively schedule) :
    ∃ n, ∀ t ∈ (w.after schedule n).tasks, ∃ result, t.result? = some result := by
  obtain ⟨n, hstill⟩ := w.exists_all_still schedule w.tasks.length
  refine ⟨n, fun t ht => ?_⟩
  obtain ⟨who, hget⟩ := List.getElem?_of_mem ht
  cases hresult : t.result? with
  | some result => exact ⟨result, rfl⟩
  | none =>
      -- Some task can be changed, and by liveness one is.
      obtain ⟨k, hk, other, hchanges⟩ := hlively n ((hclear.run _).exists_change hget hresult)
      have hlt := hchanges.lt_length
      rw [after, length_tasks_run] at hlt
      exact absurd hchanges (hstill other hlt k hk)

end World
end Operation
end SupplierGateway
