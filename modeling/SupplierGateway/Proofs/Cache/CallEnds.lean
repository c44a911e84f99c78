import SupplierGateway.Proofs.Cache.CallCourse
import SupplierGateway.Proofs.Cache.LockTable
import SupplierGateway.Proofs.Cache.Queues
import SupplierGateway.Proofs.Schedule.Fairness

/-!
# The end of a call

A call fails iff its load fails, and with the same failure.  Otherwise it returns a value that was
read or the value that it loaded, also when the store refuses to store or to fetch.  A load that
fails, or gives a value without lifetime, leaves the store as it was.  A call that is done or was
dropped neither holds a lock nor queues for one.

Callers wait for each other, but never in a circle: the lock for which a caller waits is held by one
that can take a turn or whose load can end.  In a lively schedule every call is therefore done or
dropped at some moment.

* `Callers.Opening` — no caller has begun its lookup;
* `guarded_run` and `not_mem_members` — locks stay guarded, and a call that is over has left them;
* `effort_step` — a change of the callers decreases the measure;
* `exists_change` — as long as a call is not over, some call can be changed;
* `Lively` and `all_end` — in a lively schedule all calls are over at some moment;
* `Honest` and `fails_with_load_only` — failures of calls are failures of loads;
* `failed_load_seen_once` — a failed load under single-flight, and the caller that tries again.
-/

namespace SupplierGateway
namespace Cache

variable {α : Type}

/-- A bound on the number of phases that a caller has yet to enter. -/
def Caller.rank (c : Caller α) : Nat :=
  match c.phase? with
  | some phase => phase.rank + 1
  | none => 0

/-- The call of a caller is over: it is done, or it was dropped. -/
def Caller.Over (c : Caller α) : Prop :=
  c.phase? = none ∨ ∃ result, c.phase? = some (.done result)

namespace Callers

/-- No caller has begun its lookup. -/
structure Opening (s : Callers α) : Prop where
  locks : s.cache.locks = {}
  callers : ∀ c ∈ s.callers, c.phase? = some .reading

variable {s : Callers α} {who : Nat} {key : String}

/-! ## Locks -/

theorem Opening.guarded (hopening : s.Opening) : Cache.Guarded s.cache.locks s.callers := by
  rw [hopening.locks]
  refine .start fun c hc => ?_
  rw [Caller.lock?, hopening.callers c hc]
  rfl

/-- Every event keeps the locks guarded. -/
theorem guarded_step (hguarded : Cache.Guarded s.cache.locks s.callers) (e : Event α) :
    Cache.Guarded (s.step e).cache.locks (s.step e).callers := by
  cases e with
  | advance who =>
      simp only [step, turn, advance]
      split
      · next key phase hget =>
        rw [s.callers_setPhase hget]
        exact hguarded.advance s.codec s.clockMs hget
      · exact hguarded
  | loaded who result =>
      simp only [step, turn, endLoad]
      split
      · next key phase hget =>
        rw [s.callers_setPhase hget]
        exact hguarded.loaded hget key result
      · exact hguarded
  | drop who =>
      simp only [step, turn, drop]
      split
      · exact hguarded
      · next key phase _ hget =>
        rw [s.callers_setPhase hget]
        exact hguarded.drop hget
      · exact hguarded
  | store key a ttl =>
      change Cache.Guarded (s.cache.storeText _ _ _ _).1.locks s.callers
      rw [locks_storeText]
      exact hguarded
  | wait | purge | clear | replace => exact hguarded

theorem guarded_run (hguarded : Cache.Guarded s.cache.locks s.callers) (events : List (Event α)) :
    Cache.Guarded (s.run events).cache.locks (s.run events).callers := by
  induction events generalizing s with
  | nil => exact hguarded
  | cons e events ih => exact ih (guarded_step hguarded e)

/-- A caller whose call is over neither holds a lock nor queues for one. -/
theorem not_mem_members (hguarded : Cache.Guarded s.cache.locks s.callers) {c : Caller α}
    (hget : s.callers[who]? = some c) (hover : c.Over) :
    ∀ m ∈ s.cache.locks.made, who ∉ m.members := by
  intro m hm hmember
  obtain ⟨lock, hmade⟩ := List.getElem?_of_mem hm
  have hasked := ((hguarded.manned lock m hmade).members who).mp hmember
  rw [hget, Option.bind_some, Caller.asked?] at hasked
  rcases hover with hnone | ⟨result, hdone⟩
  · rw [hnone] at hasked
    cases hasked
  · rw [hdone] at hasked
    cases hasked

/-! ## Progress -/

/-- A bound on the number of phases that all callers have yet to enter. -/
def effort (s : Callers α) : Nat := (s.callers.map Caller.rank).sum

/-- An event that changes the callers decreases the measure. -/
theorem effort_step (s : Callers α) (e : Event α) :
    (s.step e).callers = s.callers ∨ (s.step e).effort < s.effort := by
  rcases s.step_cases e with ⟨hcallers, -⟩ | ⟨who, key, phase, next, hget, hcallers, -, hnext⟩
  · exact .inl hcallers
  · have hsum := sum_map_set Caller.rank hget { key, phase? := next }
    have hless : Caller.rank { key, phase? := next } < phase.rank + 1 →
        (s.step e).effort < s.effort := by
      intro hlt
      have hbefore : Caller.rank { key, phase? := some phase } = phase.rank + 1 := rfl
      rw [effort, effort, hcallers]
      omega
    have hsame : next = some phase → (s.step e).callers = s.callers := by
      rintro rfl
      obtain ⟨hlt, hat⟩ := List.getElem?_eq_some_iff.mp hget
      rw [hcallers, ← hat, List.set_getElem_self]
    rcases hnext with rfl | ⟨result, rfl⟩ | rfl
    · rcases advance_cases s.codec s.clockMs who key s.cache phase with hlt | ⟨hstay, -⟩
      · exact .inr (hless (Nat.succ_lt_succ hlt))
      · exact .inl (hsame (congrArg some hstay))
    · rcases loaded_cases key result phase with ⟨hlt, -⟩ | ⟨hstay, -⟩
      · exact .inr (hless (Nat.succ_lt_succ hlt))
      · exact .inl (hsame (congrArg some hstay))
    · exact .inr (hless (Nat.succ_pos _))

theorem effort_step_le (s : Callers α) (e : Event α) : (s.step e).effort ≤ s.effort := by
  rcases s.effort_step e with hsame | hlt
  · rw [effort, effort, hsame]
  · exact Nat.le_of_lt hlt

/-- An event is a turn of a caller or the end of a load. -/
def Event.GoesOn : Event α → Prop
  | .advance _ | .loaded .. => True
  | .drop _ | .wait _ | .store .. | .purge | .clear | .replace _ => False

/-- A call that is not over and does not wait for a lock of another caller can be changed. -/
theorem exists_change_of_not_waiting {phase : Phase α}
    (hget : s.callers[who]? = some { key, phase? := some phase })
    (hdone : ∀ result, phase ≠ .done result)
    (hfree : ∀ lock, phase = .waiting lock → s.cache.locks.holder? lock = some who) :
    ∃ e : Event α, e.GoesOn ∧ (s.step e).callers ≠ s.callers := by
  have hdiffer : ∀ {e : Event α} {next : Phase α},
      (s.step e).callers[who]? = some { key, phase? := some next } → next.rank < phase.rank →
      (s.step e).callers ≠ s.callers := by
    intro e next hafter hlt hsame
    rw [hsame, hget] at hafter
    obtain rfl := Option.some.inj (Caller.mk.inj (Option.some.inj hafter)).2
    exact Nat.lt_irrefl _ hlt
  rcases advance_cases s.codec s.clockMs who key s.cache phase with hlt | ⟨-, hpauses⟩
  · exact ⟨.advance who, trivial, hdiffer (getElem?_step_advance hget) hlt⟩
  · cases hpauses with
    | waiting lock hholder => exact absurd (hfree lock rfl) hholder
    | loading lock? =>
        -- The call goes on for any result of the load.
        refine ⟨.loaded who (.crash ""), trivial, hdiffer (getElem?_step_loaded hget _) ?_⟩
        exact (loaded_cases key (.crash "") (.loading lock?)).elim And.left
          fun h => absurd rfl (h.2 lock?)
    | done result => exact absurd rfl (hdone result)

/-- As long as a call is not over, some call can be changed. -/
theorem exists_change (hguarded : Cache.Guarded s.cache.locks s.callers) {c : Caller α}
    (hget : s.callers[who]? = some c) (hover : ¬ c.Over) :
    ∃ e : Event α, e.GoesOn ∧ (s.step e).callers ≠ s.callers := by
  obtain ⟨key, phase?⟩ := c
  cases phase? with
  | none => exact absurd (.inl rfl) hover
  | some phase =>
      have hdone : ∀ result, phase ≠ .done result := by
        rintro result rfl
        exact hover (.inr ⟨result, rfl⟩)
      by_cases hwaits : ∃ lock, phase = .waiting lock ∧ s.cache.locks.holder? lock ≠ some who
      · -- The lock is held by a caller that has asked for it, and that one does not wait for it.
        obtain ⟨lock, rfl, -⟩ := hwaits
        have hasks : Caller.asked? { key, phase? := some (.waiting lock : Phase α) } = some lock := rfl
        obtain ⟨holder, ⟨key', phase?'⟩, hholder, hget', hasked⟩ := hguarded.exists_holder hget hasks
        obtain ⟨phase', rfl, hlock⟩ := Option.bind_eq_some_iff.mp hasked
        refine exists_change_of_not_waiting hget' ?_ ?_
        · rintro result rfl
          cases hlock
        · rintro other rfl
          obtain rfl := Option.some.inj hlock
          exact hholder
      · refine exists_change_of_not_waiting hget hdone fun lock hlock => ?_
        by_contra hholder
        exact hwaits ⟨lock, hlock, hholder⟩

/-! ## Lively schedules -/

/-- The callers after the first events of a schedule. -/
def after (s : Callers α) (schedule : Nat → Event α) (n : Nat) : Callers α :=
  Schedule.after step s schedule n

theorem after_eq_run (s : Callers α) (schedule : Nat → Event α) (n : Nat) :
    s.after schedule n = s.run ((List.range n).map schedule) := rfl

/-- Whenever some call can be changed by a turn or by the end of its load, some call is changed or
dropped at a later moment. -/
def Lively (s : Callers α) (schedule : Nat → Event α) : Prop :=
  ∀ n, (∃ e : Event α, e.GoesOn ∧ ((s.after schedule n).step e).callers ≠
      (s.after schedule n).callers) →
    ∃ k ≥ n, (s.after schedule (k + 1)).callers ≠ (s.after schedule k).callers

/-- There is a lively schedule in which no caller is dropped. -/
theorem exists_lively (s : Callers α) :
    ∃ schedule, s.Lively schedule ∧ ∀ n who, schedule n ≠ .drop who := by
  have hnext : ∀ t : Callers α, ∃ e : Event α, (∀ who, e ≠ .drop who) ∧
      ((∃ e' : Event α, e'.GoesOn ∧ (t.step e').callers ≠ t.callers) →
        (t.step e).callers ≠ t.callers) := by
    intro t
    by_cases hcan : ∃ e' : Event α, e'.GoesOn ∧ (t.step e').callers ≠ t.callers
    · obtain ⟨e, hgoes, hchanges⟩ := hcan
      refine ⟨e, ?_, fun _ => hchanges⟩
      rintro who rfl
      exact hgoes
    · exact ⟨.wait 0, by simp, fun h => absurd h hcan⟩
  obtain ⟨schedule, hschedule⟩ := Schedule.exists_following step s hnext
  refine ⟨schedule, fun n hcan => ⟨n, Nat.le_refl n, ?_⟩, fun n => (hschedule n).1⟩
  rw [after, Schedule.after_succ]
  exact (hschedule n).2 hcan

/-- In a lively schedule all calls are over at some moment. -/
theorem all_end (hguarded : Cache.Guarded s.cache.locks s.callers) {schedule : Nat → Event α}
    (hlively : s.Lively schedule) : ∃ n, ∀ c ∈ (s.after schedule n).callers, c.Over := by
  obtain ⟨n, hstill⟩ := Schedule.exists_measure_still effort_step_le s schedule
  refine ⟨n, fun c hc => ?_⟩
  by_contra hover
  obtain ⟨who, hget⟩ := List.getElem?_of_mem hc
  obtain ⟨k, hk, hchanges⟩ := hlively n (exists_change (guarded_run hguarded _) hget hover)
  have hsame := hstill k hk
  rw [after, Schedule.after_succ] at hchanges
  rw [Schedule.after_succ] at hsame
  have hlt := (effort_step (s.after schedule k) (schedule k)).resolve_left hchanges
  exact Nat.ne_of_lt hlt hsame

/-- A caller that is not dropped has a phase at every moment. -/
theorem exists_phase_run (hwho : s.callers[who]? = some { key }) {events : List (Event α)}
    (hkept : ∀ e ∈ events, e ≠ .drop who) :
    ∃ phase, (s.run events).callers[who]? = some { key, phase? := some phase } := by
  induction events using List.reverseRecOn with
  | nil => exact ⟨.reading, hwho⟩
  | append_singleton events e ih =>
      obtain ⟨phase, hget⟩ := ih fun e' he' => hkept e' (List.mem_append_left _ he')
      obtain ⟨phase?, hafter, -⟩ := tracked_run hwho (events ++ [e])
      cases phase? with
      | some next => exact ⟨next, hafter⟩
      | none =>
          rw [run_concat] at hafter
          exact absurd (drop_of_gone hget hafter) (hkept e (by simp))

/-! ## Calls as a whole -/

/-- The properties of a call that hold at every moment. -/
structure Honest (s : Callers α) (who : Nat) (key : String) (events : List (Event α)) : Prop where
  /-- It loads once at most, and its load ends once at most. -/
  once : (s.loads who events).length ≤ 1 ∧ (s.handed who events).length ≤ 1
  /-- Its result is a failure iff its load has ended with that failure. -/
  failure : ∀ f, (s.run events).result? who = some (.failure f) ↔
    ((s.run events).result? who).isSome ∧ s.handed who events = [.failure f]
  /-- Unless its load fails or crashes, its result is the value that it loaded, or, without a load,
  one that it read from an entry of its key. -/
  value : ∀ result, (s.run events).result? who = some result →
    (∀ f, s.handed who events ≠ [.failure f]) → (∀ text, s.handed who events ≠ [.crash text]) →
    (∀ a ttl, s.handed who events = [.success (a, ttl)] →
      ¬ BeyondClock (s.run events).clockMs ttl) →
    ∃ a, result = .success a ∧
      ((s.loads who events = [] ∧ s.Found who key events a) ∨
        ∃ ttl, s.handed who events = [.success (a, ttl)])
  /-- Unless it loads a value with a lifetime, it stores nothing, and removes only expired entries
  from the store. -/
  unstored : (∀ a ttl, s.handed who events = [.success (a, ttl)] → ttl.isZero = true) →
    ∀ earlier e later, events = earlier ++ e :: later → e.By who →
      ((s.run earlier).step e).cache.backend.stores = (s.run earlier).cache.backend.stores ∧
        Tidied (s.run earlier).clockMs (s.run earlier).cache.backend
          ((s.run earlier).step e).cache.backend
  /-- When it is done or dropped, it neither holds a lock nor queues for one. -/
  released : (s.run events).phase? who = none ∨ ((s.run events).result? who).isSome →
    ∀ m ∈ (s.run events).cache.locks.made, who ∉ m.members

/-- A result of a caller is obtained in one of the ways in which calls obtain results. -/
theorem comes_of_result? (hwho : s.callers[who]? = some { key }) {events : List (Event α)}
    {result : Attempt α} (hresult : (s.run events).result? who = some result) :
    s.Comes who key events result := by
  obtain ⟨phase?, hget, hcourse⟩ := tracked_run hwho events
  have hphase : (s.run events).phase? who = phase? := by
    rw [Callers.phase?, hget]
    rfl
  rw [result?, hphase] at hresult
  cases hcourse with
  | seeking phase hbare =>
      cases phase with
      | done => cases hbare
      | _ => cases hresult
  | done result' hcomes =>
      obtain rfl := Option.some.inj hresult
      exact hcomes
  | _ => cases hresult

/-- A load that has ended is the only load of its call. -/
theorem handed_eq_of_ended {events earlier later : List (Event α)}
    (hwho : s.callers[who]? = some { key }) (hevents : events = earlier ++ later)
    {result : Attempt (α × Lifetime)} (hhanded : s.handed who earlier = [result]) :
    s.handed who events = [result] := by
  obtain ⟨_, -, hcourse⟩ := tracked_run hwho events
  have honce := hcourse.once.2
  rw [hevents, handed, gather_append, ← handed, hhanded] at honce ⊢
  have hnone : gather (ending who) (s.run earlier) later = [] := by
    rw [List.length_append, List.length_singleton] at honce
    exact List.length_eq_zero_iff.mp (by omega)
  rw [hnone]
  rfl

theorem honest (hopening : s.Opening) (hwho : s.callers[who]? = some { key })
    (events : List (Event α)) : s.Honest who key events where
  once := by
    obtain ⟨_, -, hcourse⟩ := tracked_run hwho events
    exact hcourse.once
  failure f := by
    constructor
    · intro hresult
      refine ⟨by rw [hresult]; rfl, ?_⟩
      cases comes_of_result? hwho hresult with
      | failed _ _ hhanded => exact hhanded
    · rintro ⟨hsome, hfailed⟩
      obtain ⟨result, hresult⟩ := Option.isSome_iff_exists.mp hsome
      rw [hresult]
      cases comes_of_result? hwho hresult with
      | failed f' _ hhanded => simpa [hfailed, eq_comm] using hhanded
      | found _ _ hhanded | loaded _ _ _ hhanded | crashed _ _ hhanded | beyond _ _ _ hhanded =>
          simp [hfailed] at hhanded
  value result hresult hfailure hcrash hbeyond := by
    cases comes_of_result? hwho hresult with
    | found a hloads _ hfound => exact ⟨a, rfl, .inl ⟨hloads, hfound⟩⟩
    | loaded a ttl _ hhanded => exact ⟨a, rfl, .inr ⟨ttl, hhanded⟩⟩
    | failed f _ hhanded => exact absurd hhanded (hfailure f)
    | crashed text _ hhanded => exact absurd hhanded (hcrash text)
    | beyond a ttl _ hhanded hlate => exact absurd hlate (hbeyond a ttl hhanded)
  unstored hfleeting earlier e later hevents hby := by
    refine (storing_or_tidied hby).resolve_left ?_
    rintro ⟨key', lock?, a, ttl, hstoring⟩
    obtain ⟨phase?, hget, hcourse⟩ := tracked_run hwho earlier
    obtain ⟨rfl, rfl⟩ := Caller.mk.inj (Option.some.inj (hstoring.symm.trans hget))
    -- The value that is about to be stored was loaded, and has a lifetime.
    cases hcourse with
    | seeking _ hbare => cases hbare
    | storing _ _ _ hlasts _ hhanded =>
        have hzero := hfleeting a ttl (handed_eq_of_ended hwho hevents hhanded)
        rw [hlasts] at hzero
        cases hzero
  released hover := by
    obtain ⟨phase?, hget, -⟩ := tracked_run hwho events
    refine not_mem_members (guarded_run hopening.guarded events) hget ?_
    have hphase : (s.run events).phase? who = phase? := by
      rw [Callers.phase?, hget]
      rfl
    rw [result?, hphase] at hover
    refine hover.imp id fun hsome => ?_
    split at hsome
    · next result => exact ⟨result, rfl⟩
    · cases hsome

/-- A call fails iff its load fails.  For any store, with single-flight or without it, and in any
interleaving with other callers, a call loads at most once, and its result is a failure iff its load
ended with that failure.  Otherwise its result is the value that it loaded, or one that it read from
the store, provided that no expiry lies beyond the clock.  A load that fails, or whose value has no
lifetime, leaves the store as it was, and no lock is held by a call that is over.  In a lively
schedule every call that is not dropped has a result at some moment. -/
theorem fails_with_load_only {s : Callers α} (hopening : s.Opening) {who : Nat} {key : String}
    (hwho : s.callers[who]? = some { key }) :
    (∀ events, s.Honest who key events) ∧
      ∀ schedule, s.Lively schedule → (∀ n, schedule n ≠ .drop who) →
        ∃ n result, (s.after schedule n).result? who = some result := by
  refine ⟨honest hopening hwho, fun schedule hlively hkept => ?_⟩
  obtain ⟨n, hover⟩ := all_end hopening.guarded hlively
  have hnone : ∀ e ∈ (List.range n).map schedule, e ≠ .drop who := by
    intro e he
    obtain ⟨i, -, rfl⟩ := List.mem_map.mp he
    exact hkept i
  obtain ⟨phase, hget⟩ := exists_phase_run hwho hnone
  rw [← after_eq_run] at hget
  rcases hover _ (List.mem_of_getElem? hget) with hgone | ⟨result, hdone⟩
  · cases hgone
  · obtain rfl := Option.some.inj hdone
    refine ⟨n, result, ?_⟩
    rw [result?, Callers.phase?, hget]
    rfl

/-- The first of two callers misses, takes the lock and loads, and its load fails. -/
def failedLoad : List (Event Bool) :=
  List.replicate 6 (.advance 0) ++
    [.loaded 0 (.failure (.connection "refused")), .advance 1, .advance 0]

/-- The first of two callers has the failure of its load as result and has released the lock,
nothing was stored, and the second caller has a result of its own. -/
theorem failed_load_seen_once :
    (twoCallers.run failedLoad).result? 0 = some (.failure (.connection "refused")) ∧
      (∀ m ∈ (twoCallers.run failedLoad).cache.locks.made, 0 ∉ m.members) ∧
      ((twoCallers.run (List.replicate 6 (.advance 0))).step
        (.loaded 0 (.failure (.connection "refused")))).cache.backend.stores = 0 ∧
      ∃ schedule, twoCallers.Lively schedule ∧
        ∃ n result, (twoCallers.after schedule n).result? 1 = some result := by
  have hopening : twoCallers.Opening := ⟨rfl, by simp [twoCallers]⟩
  have hzero : twoCallers.callers[0]? = some { key := "k" } := rfl
  have hone : twoCallers.callers[1]? = some { key := "k" } := rfl
  obtain ⟨hfirst, -⟩ := fails_with_load_only hopening hzero
  obtain ⟨-, hends⟩ := fails_with_load_only hopening hone
  have hhonest := hfirst failedLoad
  have hhanded : twoCallers.handed 0 failedLoad = [.failure (.connection "refused")] := rfl
  have hresult := (hhonest.failure (.connection "refused")).mpr ⟨rfl, hhanded⟩
  obtain ⟨schedule, hlively, hkept⟩ := exists_lively twoCallers
  refine ⟨hresult, hhonest.released (.inr (by rw [hresult]; rfl)), ?_, schedule, hlively,
    hends schedule hlively fun n => hkept n 1⟩
  have hstores := (hhonest.unstored (by simp [hhanded]) (List.replicate 6 (.advance 0)) _ _ rfl rfl).1
  exact hstores.trans rfl

end Callers
end Cache
end SupplierGateway
