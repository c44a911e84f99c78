import Mathlib.Data.List.Nodup
import SupplierGateway.Operation.World
import SupplierGateway.Proofs.Operation.Course

/-!
# Exchanges of tasks in a world

In a world the moves of all tasks are interleaved, and all requests go to one transport.  This file
assigns every exchange with the transport to a task.

* `Call.Served` — a transport takes at most one request in a move;
* `World.exchangesOf` — the exchanges that one task has in the course of events;
* `World.path_run` — the moves of one task in the course of events are a path of the task;
* `World.forall_exchangesOf` — properties of all exchanges with a transport of some kind;
* `World.log_run` — the log of the transport is made up of the exchanges of all tasks.
-/

namespace SupplierGateway

namespace Call

open Http (Request Transport)

/-- A transport after some requests: how requests are addressed is the same, and the log is
longer. -/
structure Grown (before after : Transport) : Prop where
  address : after.address = before.address
  log : ∃ sent, after.log = before.log ++ sent

theorem Grown.log_eq {before after : Transport} (hgrown : Grown before after) :
    after.log = before.log ++ (exchanges before after).map Exchange.request := by
  obtain ⟨sent, hsent⟩ := hgrown.log
  simp [exchanges, hsent, Function.comp_def]

/-- A transport after a move: it is unchanged, or it has taken one request. -/
inductive Served (before : Transport) : Transport → Prop
  | unchanged : Served before before
  | sent (q : Request) : Served before (before.send q).1

theorem Served.grown {before after : Transport} (hserved : Served before after) :
    Grown before after := by
  cases hserved with
  | unchanged => exact ⟨rfl, [], (List.append_nil _).symm⟩
  | sent q => exact ⟨Pending.address_send before q, _, Transport.log_send before q⟩

theorem served_begin (p : Pipeline) (clockMs : Nat) (t : Transport) (request : Attempt Request) :
    Served t (Pending.begin p clockMs t request).1 := by
  cases request with
  | failure f => exact .unchanged
  | crash text => exact .unchanged
  | success r =>
      simp only [Pending.begin, Pipeline.send]
      cases (enterAll p.context clockMs p.interceptors []
        { r with timeoutMs := p.context.timeoutMs }).passage with
      | answer o => exact .unchanged
      | forward q => exact .sent q

end Call

namespace Operation

open Call (Emission Exchange Grown Pending Served exchanges exchanges_self)

variable {α β : Type}

/-! ## One move -/

theorem Spread.served_move (s : Spread α) (clockMs : Nat) (t : Http.Transport) (m : Move) :
    Served t (s.move clockMs t m).transport := by
  cases m with
  | proceed | arrive | take | receive => exact .unchanged
  | begin r =>
      simp only [move, begin]
      split
      · split
        · exact Call.served_begin ..
        · exact .unchanged
      · exact .unchanged
  | settle unit =>
      simp only [move, settle]
      split <;> exact .unchanged
  | giveUp unit =>
      simp only [move, giveUp]
      split
      · split <;> exact .unchanged
      · exact .unchanged

namespace Task

theorem served_follow (t : Task β) (r : Resources) (who : Nat) (token : Option TokenCall)
    (rest : Except Failure Unit → Script β) (lookup : Cache.Phase Cache.CachedCredential) :
    Served r.transport (t.follow r who token rest lookup).resources.transport := by
  unfold follow
  split
  · exact Call.served_begin (t.run.pipeline .auth) r.clockMs r.transport t.run.tokenRequest
  · exact .unchanged
  · simp only
    split <;> exact .unchanged
  · exact .unchanged
  · exact .unchanged
  · exact .unchanged
  · exact .unchanged

theorem served_carryOut (t : Task β) (r : Resources) (script : Script β) :
    Served r.transport (t.carryOut r script).resources.transport := by
  cases script with
  | done b => exact .unchanged
  | report f entry rest => exact .unchanged
  | authenticate rest =>
      simp only [carryOut]
      split <;> exact .unchanged
  | call phase request decode rest =>
      exact Call.served_begin (t.run.pipeline phase) r.clockMs r.transport
        (t.run.authorized request)
  | fanOut phase requests decode rest => exact .unchanged
  | finish policy payload empty rest => exact .unchanged

/-- A task sends at most one request in a move. -/
theorem served_move (t : Task β) (r : Resources) (who : Nat) (m : Move) :
    Served r.transport (t.move r who m).resources.transport := by
  unfold move
  split
  · exact t.served_carryOut r _
  · exact t.served_follow ((r.setCache _ _).tell _) ..
  · exact .unchanged
  · rw [transport_arriveCall]
    exact .unchanged
  · split <;> exact .unchanged
  · exact Spread.served_move ..
  · exact .unchanged

theorem clockMs_move (t : Task β) (r : Resources) (who : Nat) (m : Move) :
    (t.move r who m).resources.clockMs = r.clockMs := by
  have hfollow : ∀ (r : Resources) token rest lookup,
      (t.follow r who token rest lookup).resources.clockMs = r.clockMs := by
    intro r token rest lookup
    unfold follow
    split <;> first | rfl | (simp only; split <;> rfl)
  unfold move
  split
  · next script _ =>
    cases script with
    | authenticate rest =>
        simp only [carryOut]
        split <;> rfl
    | done | report | call | fanOut | finish => rfl
  · exact hfollow _ _ _ _
  · rfl
  · unfold arriveCall
    simp only
    split <;> rfl
  · split <;> rfl
  · rfl
  · rfl

end Task

/-! ## Worlds -/

/-- An event is a move of a task. -/
def Event.isOf (who : Nat) : Event → Bool
  | .task other _ => other == who
  | .wait _ | .replace .. => false

theorem Event.exists_of_isOf {who : Nat} {e : Event} (hof : e.isOf who = true) :
    ∃ m, e = .task who m := by
  cases e with
  | task other m => exact ⟨m, congrArg (Event.task · m) (eq_of_beq hof)⟩
  | wait | replace => exact absurd hof Bool.false_ne_true

namespace World

/-- The exchanges that an event has. -/
def exchanged (w : World β) (e : Event) : List Exchange :=
  exchanges w.resources.transport (w.step e).resources.transport

/-- The exchanges of a task in the course of events. -/
def exchangesOf (who : Nat) : World β → List Event → List Exchange
  | _, [] => []
  | w, e :: events =>
      (if e.isOf who then w.exchanged e else []) ++ exchangesOf who (w.step e) events

theorem step_task_of_some {w : World β} {who : Nat} {t : Task β} (hget : w.tasks[who]? = some t)
    (m : Move) :
    w.step (.task who m) =
      { resources := (t.move w.resources who m).resources
        tasks := w.tasks.set who (t.move w.resources who m).task } := by
  simp only [step, turn, move, hget]

theorem step_task_of_none {w : World β} {who : Nat} (hget : w.tasks[who]? = none) (m : Move) :
    w.step (.task who m) = w := by
  simp only [step, turn, move, hget]

/-- A task after a move of its own. -/
theorem getElem?_step_task {w : World β} {who : Nat} {t : Task β} (hget : w.tasks[who]? = some t)
    (m : Move) :
    (w.step (.task who m)).tasks[who]? = some (t.move w.resources who m).task := by
  rw [step_task_of_some hget]
  exact List.getElem?_set_self (List.getElem?_eq_some_iff.mp hget).1

/-- At most one request is sent in an event. -/
theorem served_step (w : World β) (e : Event) :
    Served w.resources.transport (w.step e).resources.transport := by
  cases e with
  | task who m =>
      cases hget : w.tasks[who]? with
      | none =>
          rw [step_task_of_none hget]
          exact .unchanged
      | some t =>
          rw [step_task_of_some hget]
          exact t.served_move ..
  | wait ms => exact .unchanged
  | replace cache backend => exact .unchanged

theorem grown_step (w : World β) (e : Event) :
    Grown w.resources.transport (w.step e).resources.transport :=
  (w.served_step e).grown

theorem address_step {w : World β} (haddress : w.resources.transport.address = id) (e : Event) :
    (w.step e).resources.transport.address = id :=
  (w.grown_step e).address.trans haddress

theorem clockMs_step_le (w : World β) (e : Event) :
    w.resources.clockMs ≤ (w.step e).resources.clockMs := by
  cases e with
  | task who m =>
      cases hget : w.tasks[who]? with
      | none =>
          have hsame := step_task_of_none hget m
          exact Nat.le_of_eq (congrArg (fun v => v.resources.clockMs) hsame.symm)
      | some t =>
          rw [step_task_of_some hget]
          exact Nat.le_of_eq (t.clockMs_move ..).symm
  | wait ms => exact Nat.le_add_right _ ms
  | replace cache backend => exact Nat.le_refl _

theorem clockMs_run_le (w : World β) (events : List Event) :
    w.resources.clockMs ≤ (w.run events).resources.clockMs := by
  induction events generalizing w with
  | nil => exact Nat.le_refl _
  | cons e events ih => exact Nat.le_trans (w.clockMs_step_le e) (ih (w.step e))

/-- No event adds or removes a task. -/
theorem length_tasks_step (w : World β) (e : Event) :
    (w.step e).tasks.length = w.tasks.length := by
  cases e with
  | task who m =>
      cases hget : w.tasks[who]? with
      | none => rw [step_task_of_none hget]
      | some t => rw [step_task_of_some hget, List.length_set]
  | wait ms => rfl
  | replace cache backend => rfl

theorem length_tasks_run (w : World β) (events : List Event) :
    (w.run events).tasks.length = w.tasks.length := by
  induction events generalizing w with
  | nil => rfl
  | cons e events ih => exact (ih (w.step e)).trans (w.length_tasks_step e)

/-- An event that is no move of a task does not change it. -/
theorem getElem?_step_of_not_isOf {w : World β} {who : Nat} {e : Event}
    (hother : e.isOf who = false) : (w.step e).tasks[who]? = w.tasks[who]? := by
  cases e with
  | task other m =>
      have hne : other ≠ who := by simpa [Event.isOf] using hother
      cases hget : w.tasks[other]? with
      | none => rw [step_task_of_none hget]
      | some t => rw [step_task_of_some hget, List.getElem?_set_ne hne]
  | wait ms => rfl
  | replace cache backend => rfl

/-- The moves of one task in the course of events are a path of the task. -/
theorem path_run {w : World β} (haddress : w.resources.transport.address = id) {who : Nat}
    {t : Task β} (hget : w.tasks[who]? = some t) (events : List Event) :
    ∃ t', (w.run events).tasks[who]? = some t' ∧
      t.Path who (w.run events).resources.clockMs (w.exchangesOf who events) t' := by
  induction events generalizing w t with
  | nil => exact ⟨t, hget, .nil t⟩
  | cons e events ih =>
      cases hof : e.isOf who with
      | false =>
          have hsame := (getElem?_step_of_not_isOf hof).trans hget
          obtain ⟨t', hget', hpath⟩ := ih (address_step haddress e) hsame
          refine ⟨t', hget', ?_⟩
          rw [exchangesOf, hof]
          exact hpath
      | true =>
          obtain ⟨m, rfl⟩ := Event.exists_of_isOf hof
          have hstep := step_task_of_some hget m
          obtain ⟨t', hget', hpath⟩ := ih (address_step haddress _) (getElem?_step_task hget m)
          refine ⟨t', hget', ?_⟩
          have hclock := w.clockMs_run_le (.task who m :: events)
          rw [exchangesOf, hof, if_pos rfl, exchanged, hstep]
          rw [run_cons] at hclock ⊢
          rw [hstep] at hclock hpath ⊢
          exact .cons w.resources haddress hclock m hpath

/-- A property of the transport that sending preserves is preserved by events. -/
theorem transport_step {Q : Http.Transport → Prop} (hkeep : ∀ t q, Q t → Q (t.send q).1)
    {w : World β} (hw : Q w.resources.transport) (e : Event) :
    Q (w.step e).resources.transport := by
  have hserved := w.served_step e
  generalize (w.step e).resources.transport = after at hserved
  cases hserved with
  | unchanged => exact hw
  | sent q => exact hkeep _ q hw

/-- A property of all exchanges with a transport that satisfies a preserved property holds of the
exchanges of a task. -/
theorem forall_exchangesOf {Q : Http.Transport → Prop} {P : Exchange → Prop}
    (hkeep : ∀ t q, Q t → Q (t.send q).1)
    (hholds : ∀ t q, Q t → P { request := q, reply := (t.send q).2 }) {w : World β}
    (hw : Q w.resources.transport) (who : Nat) (events : List Event) :
    ∀ x ∈ w.exchangesOf who events, P x := by
  induction events generalizing w with
  | nil => exact fun x hx => absurd hx List.not_mem_nil
  | cons e events ih =>
      intro x hx
      rcases List.mem_append.mp hx with hnow | hlater
      · split at hnow
        · obtain ⟨q, -, rfl⟩ := List.mem_map.mp hnow
          exact hholds _ q hw
        · exact absurd hnow List.not_mem_nil
      · exact ih (transport_step hkeep hw e) x hlater

/-! ## The log -/

/-- If one of several lists is extended at its beginning, the concatenation is extended up to a
permutation. -/
theorem flatMap_perm_of_append {γ : Type} {l : List Nat} (hnodup : l.Nodup) {i : Nat} (hi : i ∈ l)
    {f g : Nat → List γ} {ys : List γ} (hat : g i = ys ++ f i) (haway : ∀ j, j ≠ i → g j = f j) :
    (l.flatMap g).Perm (ys ++ l.flatMap f) := by
  induction l with
  | nil => exact absurd hi List.not_mem_nil
  | cons j l ih =>
      obtain ⟨hj, hnodup⟩ := List.nodup_cons.mp hnodup
      rcases List.mem_cons.mp hi with rfl | hi
      · have hsame : l.flatMap g = l.flatMap f :=
          List.flatMap_congr fun k hk => haway k fun h => hj (h ▸ hk)
        rw [List.flatMap_cons, List.flatMap_cons, hat, hsame, List.append_assoc]
      · have hne : j ≠ i := fun h => hj (h ▸ hi)
        rw [List.flatMap_cons, List.flatMap_cons, haway j hne]
        refine ((ih hnodup hi).append_left (f j)).trans ?_
        rw [← List.append_assoc, ← List.append_assoc]
        exact List.perm_append_comm.append_right _

/-- The log of the transport is made up of the exchanges of all tasks. -/
theorem log_run (w : World β) (events : List Event) :
    (w.run events).resources.transport.log.Perm
      (w.resources.transport.log ++
        ((List.range w.tasks.length).flatMap fun who => w.exchangesOf who events).map
          Exchange.request) := by
  induction events generalizing w with
  | nil =>
      have hnone : ((List.range w.tasks.length).flatMap fun who => w.exchangesOf who []) = [] :=
        List.flatMap_eq_nil_iff.mpr fun _ _ => rfl
      rw [hnone]
      simp
  | cons e events ih =>
      have hlater := ih (w.step e)
      rw [length_tasks_step, (w.grown_step e).log_eq, List.append_assoc, ← List.map_append]
        at hlater
      refine hlater.trans ((List.Perm.map _ ?_).append_left _)
      -- The event belongs to at most one task of the world, and has exchanges only if it does.
      have hidle : w.exchanged e = [] →
          (w.exchanged e ++ (List.range w.tasks.length).flatMap
            fun who => (w.step e).exchangesOf who events).Perm
          ((List.range w.tasks.length).flatMap fun who => w.exchangesOf who (e :: events)) := by
        intro hnone
        rw [hnone, List.nil_append]
        refine .of_eq (List.flatMap_congr fun who _ => ?_)
        rw [exchangesOf, hnone, ite_self, List.nil_append]
      cases e with
      | task who m =>
          cases hget : w.tasks[who]? with
          | none => exact hidle (by rw [exchanged, step_task_of_none hget, exchanges_self])
          | some t =>
              have hlt := (List.getElem?_eq_some_iff.mp hget).1
              refine (flatMap_perm_of_append List.nodup_range (List.mem_range.mpr hlt) ?_ ?_).symm
              · rw [exchangesOf, Event.isOf, beq_self_eq_true, if_pos rfl]
                rfl
              · intro other hother
                have hnot : (Event.task who m).isOf other = false := by
                  simpa [Event.isOf] using hother.symm
                rw [exchangesOf, hnot]
                rfl
      | wait ms => exact hidle (exchanges_self _)
      | replace cache backend => exact hidle (exchanges_self _)

end World
end Operation
end SupplierGateway
