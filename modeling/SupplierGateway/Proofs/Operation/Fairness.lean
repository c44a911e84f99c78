import SupplierGateway.Proofs.Operation.Trace
import SupplierGateway.Proofs.Operation.Waiting
import SupplierGateway.Proofs.Schedule.Fairness

/-!
# A task without others ends in fair schedules

A task waits for its own calls, and for a lock if another task holds it.  When there is no other
task, the task can be changed by one of its moves until it has ended.  In a fair schedule it
therefore ends, for any replies of the supplier, any order of the ends of calls, any advances of the
clock and any changes of the stores behind the caches.

* `Task.Unhindered` — no other task holds or queues for the lock of the task's key;
* `Unhindered.exists_move` — an unhindered task that has not ended can be changed;
* `Unhindered.move` — an unhindered task stays unhindered;
* `World.Fair` — a task that can be changed is changed at a later moment;
* `World.exists_still` — from some moment on a task is not changed;
* `World.Solo.ends_of_fair` — in a fair schedule a task that is alone in its world ends.
-/

namespace SupplierGateway
namespace Operation

open Cache (Alone CachedCredential)
open Call (Interceptor)

variable {α β : Type}

namespace Task

/-! ## Unhindered tasks -/

/-- No other task holds or queues for the lock of the task's key. -/
def Unhindered (who : Nat) (r : Resources) (t : Task β) : Prop :=
  match t.stage with
  | .authenticating lookup _ _ => Alone who t.tokenKey (r.cache t.cache).locks lookup
  | .spreading spread _ =>
      (r.cache t.cache).locks.Idle t.tokenKey ∧ ∃ start xs rs, Spread.Tracked start xs rs spread
  | .ready _ | .calling .. | .done _ | .crashed _ => (r.cache t.cache).locks.Idle t.tokenKey

variable {who : Nat} {r : Resources}

/-- Whether a task is unhindered depends on the locks only. -/
theorem Unhindered.of_locks_eq {r' : Resources} {t : Task β} (hunhindered : t.Unhindered who r)
    (hlocks : ∀ number, (r'.cache number).locks = (r.cache number).locks) :
    t.Unhindered who r' := by
  unfold Unhindered at hunhindered ⊢
  rw [hlocks]
  exact hunhindered

theorem Unhindered.traced {t : Task β} (hunhindered : t.Unhindered who r) : t.Traced := by
  obtain ⟨run, options, cache, stage⟩ := t
  cases stage with
  | spreading spread rest => exact hunhindered.2
  | ready | authenticating | calling | done | crashed => trivial

/-- An unhindered task does not wait for a lock of another task. -/
theorem Unhindered.not_waits {t : Task β} (hunhindered : t.Unhindered who r) : ¬ t.Waits r who := by
  rintro ⟨lock, rest, hstage, hholder⟩
  rw [Unhindered, hstage] at hunhindered
  exact hholder (Alone.holder_of_waiting hunhindered)

/-- An unhindered task that has not ended can be changed by a move. -/
theorem Unhindered.exists_move {t : Task β} (hunhindered : t.Unhindered who r)
    (hresult : t.result? = none) : ∃ m, (t.move r who m).task ≠ t :=
  (hunhindered.traced.exists_move hresult).resolve_right hunhindered.not_waits

/-! ## Unhindered tasks stay unhindered -/

theorem unhindered_follow {t : Task β} {token : Option TokenCall}
    {rest : Except Failure Unit → Script β} {lookup : Cache.Phase CachedCredential}
    (halone : Alone who t.tokenKey (r.cache t.cache).locks lookup) :
    (t.follow r who token rest lookup).task.Unhindered who
      (t.follow r who token rest lookup).resources := by
  cases lookup with
  | loading lock? => cases token <;> exact halone
  | waiting lock =>
      cases token with
      | none =>
          simp only [follow]
          split <;> exact halone
      | some token =>
          simp only [follow]
          split <;> exact halone
  | done a => cases token <;> cases a <;> exact halone.idle rfl
  | reading | sweeping | asking | queueing | rereading | resweeping | storing | leaving =>
      cases token <;> exact halone

theorem unhindered_lookUp {t : Task β} {token : Option TokenCall}
    {rest : Except Failure Unit → Script β} {lookup : Cache.Phase CachedCredential}
    (halone : Alone who t.tokenKey (r.cache t.cache).locks lookup) :
    (t.lookUp r who token rest lookup).task.Unhindered who
      (t.lookUp r who token rest lookup).resources := by
  have hturn := halone.advance credentialCodec r.clockMs
  refine unhindered_follow ?_
  simpa [Resources.tell, Resources.setCache] using hturn

theorem unhindered_arriveToken {t : Task β} {token : TokenCall}
    {rest : Except Failure Unit → Script β} {lookup : Cache.Phase CachedCredential}
    (halone : Alone who t.tokenKey (r.cache t.cache).locks lookup) :
    (t.arriveToken r token rest lookup).task.Unhindered who
      (t.arriveToken r token rest lookup).resources := by
  have hkey : (t.arriveToken r token rest lookup).task.tokenKey = t.tokenKey := by
    simp only [arriveToken, tokenKey]
    split <;> rfl
  show Alone who (t.arriveToken r token rest lookup).task.tokenKey (r.cache t.cache).locks _
  rw [hkey]
  exact halone.loaded _ _

theorem unhindered_carryOut {t : Task β} (hidle : (r.cache t.cache).locks.Idle t.tokenKey)
    (script : Script β) :
    (t.carryOut r script).task.Unhindered who (t.carryOut r script).resources := by
  cases script with
  | done b => exact hidle
  | report f entry rest => exact hidle
  | authenticate rest =>
      simp only [carryOut]
      split
      · exact .apart rfl hidle
      · exact hidle
  | call phase request decode rest => exact hidle
  | fanOut phase requests decode rest =>
      exact ⟨hidle, _, [], [], Spread.tracked_start rfl t.options _ decode⟩
  | finish policy payload empty rest => exact hidle

/-- An unhindered task is unhindered after any move of its own. -/
theorem Unhindered.move {t : Task β} (hunhindered : t.Unhindered who r)
    (haddress : r.transport.address = id) (m : Move) :
    (t.move r who m).task.Unhindered who (t.move r who m).resources := by
  obtain ⟨run, options, cache, stage⟩ := t
  cases stage with
  | ready script =>
      cases m with
      | proceed => exact unhindered_carryOut hunhindered script
      | arrive | take | begin | settle | giveUp | receive => exact hunhindered
  | authenticating lookup token rest =>
      cases m with
      | proceed => exact unhindered_lookUp hunhindered
      | arrive =>
          cases token with
          | none => exact hunhindered
          | some token => exact unhindered_arriveToken hunhindered
      | take | begin | settle | giveUp | receive => exact hunhindered
  | calling call decode rest =>
      cases m with
      | arrive =>
          simp only [Task.move, arriveCall]
          split <;> exact hunhindered
      | proceed | take | begin | settle | giveUp | receive => exact hunhindered
  | spreading spread rest =>
      obtain ⟨hidle, htracked⟩ := hunhindered
      have htraced : ∀ m, (Task.move ⟨run, options, cache, .spreading spread rest⟩ r who
          m).task.Traced :=
        fun m => Traced.move (t := ⟨run, options, cache, .spreading spread rest⟩) htracked haddress m
      cases m with
      | proceed =>
          simp only [Task.move]
          split
          · exact hidle
          · exact ⟨hidle, htracked⟩
      | arrive => exact ⟨hidle, htraced .arrive⟩
      | take runner => exact ⟨hidle, htraced (.take runner)⟩
      | begin runner => exact ⟨hidle, htraced (.begin runner)⟩
      | settle unit => exact ⟨hidle, htraced (.settle unit)⟩
      | giveUp unit => exact ⟨hidle, htraced (.giveUp unit)⟩
      | receive => exact ⟨hidle, htraced .receive⟩
  | done b => cases m <;> exact hunhindered
  | crashed text => cases m <;> exact hunhindered

end Task

/-! ## Fair schedules -/

namespace World

/-- The world after the first events of a schedule. -/
def after (w : World β) (schedule : Nat → Event) (n : Nat) : World β :=
  w.run ((List.range n).map schedule)

theorem after_succ (w : World β) (schedule : Nat → Event) (n : Nat) :
    w.after schedule (n + 1) = (w.after schedule n).step (schedule n) :=
  Schedule.after_succ step w schedule n

/-- An event changes a task. -/
def Changes (w : World β) (who : Nat) (e : Event) : Prop :=
  (w.step e).tasks[who]? ≠ w.tasks[who]?

/-- Whenever a task can be changed by one of its moves, it is changed at that moment or a later
one. -/
def Fair (w : World β) (who : Nat) (schedule : Nat → Event) : Prop :=
  ∀ n, (∃ m, (w.after schedule n).Changes who (.task who m)) →
    ∃ k ≥ n, (w.after schedule k).Changes who (schedule k)

/-- There is a fair schedule for every world. -/
theorem exists_fair (w : World β) (who : Nat) : ∃ schedule, w.Fair who schedule := by
  have hnext : ∀ w' : World β, ∃ e, (∃ m, w'.Changes who (.task who m)) → w'.Changes who e := by
    intro w'
    by_cases hcan : ∃ m, w'.Changes who (.task who m)
    · obtain ⟨m, hm⟩ := hcan
      exact ⟨.task who m, fun _ => hm⟩
    · exact ⟨.wait 0, fun h => absurd h hcan⟩
  -- The schedule makes a move that changes the task whenever there is one.
  obtain ⟨schedule, hschedule⟩ := Schedule.exists_following step w hnext
  exact ⟨schedule, fun n hcan => ⟨n, Nat.le_refl n, hschedule n hcan⟩⟩

variable {w : World β} {who : Nat} {t : Task β}

/-- An event does not change a task, or it is a move that changes it. -/
theorem step_follows (hget : w.tasks[who]? = some t) (e : Event) :
    ∃ t', (w.step e).tasks[who]? = some t' ∧ (t' = t ∨ Task.Follows who t' t) := by
  cases hof : e.isOf who with
  | false => exact ⟨t, (getElem?_step_of_not_isOf hof).trans hget, .inl rfl⟩
  | true =>
      obtain ⟨m, rfl⟩ := Event.exists_of_isOf hof
      refine ⟨_, getElem?_step_task hget m, ?_⟩
      rw [or_iff_not_imp_left]
      exact fun hchanged => ⟨w.resources, m, rfl, hchanged⟩

/-- A move that changes a task is an event that changes it. -/
theorem changes_of_move (hget : w.tasks[who]? = some t) {m : Move}
    (hmove : (t.move w.resources who m).task ≠ t) : w.Changes who (.task who m) := by
  rw [Changes, getElem?_step_task hget, hget]
  exact fun hsame => hmove (Option.some.inj hsame)

/-- Replacing a store does not change the locks. -/
theorem locks_replace (w : World β) (cache : Nat) (backend : Cache.Backend) (number : Nat) :
    ((w.step (.replace cache backend)).resources.cache number).locks =
      (w.resources.cache number).locks := by
  show (if number = cache then _ else w.resources.cache number).locks = _
  split
  · next hnumber => rw [hnumber]
  · rfl

/-- A task that can be changed exists. -/
theorem Changes.lt_length {e : Event} (hchanges : w.Changes who e) : who < w.tasks.length := by
  by_contra hout
  refine hchanges ?_
  rw [List.getElem?_eq_none (Nat.le_of_not_lt hout), List.getElem?_eq_none]
  rw [length_tasks_step]
  exact Nat.le_of_not_lt hout

/-- A task at a later moment follows the task at an earlier one. -/
theorem after_follows {schedule : Nat → Event} {n : Nat}
    (hget : (w.after schedule n).tasks[who]? = some t) {k : Nat} (hk : n ≤ k) :
    ∃ t', (w.after schedule k).tasks[who]? = some t' ∧
      Relation.ReflTransGen (Task.Follows who) t' t := by
  induction hk with
  | refl => exact ⟨t, hget, .refl⟩
  | step _ ih =>
      obtain ⟨t', hget', hbefore⟩ := ih
      obtain ⟨t'', hget'', rfl | hfollows⟩ := step_follows hget' (schedule _)
      · exact ⟨t'', after_succ w schedule _ ▸ hget'', hbefore⟩
      · exact ⟨t'', after_succ w schedule _ ▸ hget'', .head hfollows hbefore⟩

/-- There is a moment from which on a task is not changed. -/
theorem exists_still (w : World β) (schedule : Nat → Event) (who : Nat) :
    ∃ n, ∀ k ≥ n, ¬ (w.after schedule k).Changes who (schedule k) := by
  -- The induction is on `Task.acc_follows`: every sequence of changes of the task is finite.
  have hends : ∀ (t : Task β) n, (w.after schedule n).tasks[who]? = some t →
      ∃ n, ∀ k ≥ n, ¬ (w.after schedule k).Changes who (schedule k) := by
    intro t
    induction (t.acc_follows who).transGen with
    | intro t _ ih =>
        intro n hget
        by_cases hstill : ∀ k ≥ n, ¬ (w.after schedule k).Changes who (schedule k)
        · exact ⟨n, hstill⟩
        · obtain ⟨k, hk, hchanges⟩ : ∃ k ≥ n, (w.after schedule k).Changes who (schedule k) := by
            simpa using hstill
          obtain ⟨t', hget', hbefore⟩ := after_follows hget hk
          obtain ⟨t'', hget'', hstep⟩ := step_follows hget' (schedule k)
          have hfollows : Task.Follows who t'' t' :=
            hstep.resolve_left fun hsame => hchanges (hget''.trans (hsame ▸ hget'.symm))
          exact ih t'' (.head' hfollows hbefore) (k + 1) (after_succ w schedule k ▸ hget'')
  cases hget : w.tasks[who]? with
  | some t => exact hends t 0 hget
  | none =>
      refine ⟨0, fun k _ hchanges => ?_⟩
      have hlt := hchanges.lt_length
      rw [after, length_tasks_run] at hlt
      exact absurd (List.getElem?_eq_none_iff.mp hget) (Nat.not_le_of_lt hlt)

/-! ## Lone tasks -/

/-- A task is alone in its world, and no other holds or queues for the lock of its key. -/
structure Solo (w : World β) (t : Task β) : Prop where
  tasks : w.tasks = [t]
  address : w.resources.transport.address = id
  unhindered : t.Unhindered 0 w.resources

theorem Solo.getElem?_tasks (hsolo : w.Solo t) : w.tasks[0]? = some t := by
  rw [hsolo.tasks]
  rfl

/-- A task that is alone in its world is alone after any event. -/
theorem Solo.step (hsolo : w.Solo t) (e : Event) : ∃ t', (w.step e).Solo t' := by
  cases e with
  | task who m =>
      cases who with
      | zero =>
          have hstep := step_task_of_some hsolo.getElem?_tasks m
          refine ⟨(t.move w.resources 0 m).task, ?_, address_step hsolo.address _, ?_⟩
          · rw [hstep, hsolo.tasks]
            rfl
          · rw [hstep]
            exact hsolo.unhindered.move hsolo.address m
      | succ other =>
          have hnone : w.tasks[other + 1]? = none := by rw [hsolo.tasks]; rfl
          rw [step_task_of_none hnone]
          exact ⟨t, hsolo⟩
  | wait ms => exact ⟨t, hsolo.tasks, hsolo.address, hsolo.unhindered⟩
  | replace cache backend =>
      exact ⟨t, hsolo.tasks, hsolo.address,
        hsolo.unhindered.of_locks_eq (w.locks_replace cache backend)⟩

theorem Solo.after (hsolo : w.Solo t) (schedule : Nat → Event) (n : Nat) :
    ∃ t', (w.after schedule n).Solo t' := by
  induction n with
  | zero => exact ⟨t, hsolo⟩
  | succ n ih =>
      obtain ⟨t', hsolo'⟩ := ih
      rw [after_succ]
      exact hsolo'.step (schedule n)

/-- In a fair schedule a task that is alone in its world ends. -/
theorem Solo.ends_of_fair (hsolo : w.Solo t) {schedule : Nat → Event} (hfair : w.Fair 0 schedule) :
    ∃ n result, (w.after schedule n).tasks[0]?.bind Task.result? = some result := by
  obtain ⟨n, hstill⟩ := w.exists_still schedule 0
  obtain ⟨t', hsolo'⟩ := hsolo.after schedule n
  cases hresult : t'.result? with
  | some result =>
      refine ⟨n, result, ?_⟩
      rw [hsolo'.getElem?_tasks]
      exact hresult
  | none =>
      -- A task that has not ended can be changed, and by fairness it is.
      obtain ⟨m, hm⟩ := hsolo'.unhindered.exists_move hresult
      obtain ⟨k, hk, hchanges⟩ := hfair n ⟨m, changes_of_move hsolo'.getElem?_tasks hm⟩
      exact absurd hchanges (hstill k hk)

end World
end Operation
end SupplierGateway
