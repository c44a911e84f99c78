import SupplierGateway.Proofs.Cache.Progress
import SupplierGateway.Proofs.FanOut.Progress
import SupplierGateway.Proofs.Operation.Course

/-!
# Progress of a task

For any replies of the supplier and any order of the ends of calls, a task makes only finitely many
moves that change it.

* `Spread.move_cases` — a move of a group of calls decreases a measure;
* `Task.lookUp_cases` — a turn of authentication takes it a step further, if it can be taken;
* `Task.Follows` — a task after a move that changed it;
* `Task.acc_follows` — every sequence of changes of a task is finite.
-/

namespace SupplierGateway
namespace Operation

open Cache (Alone CachedCredential Pauses)
open Call (Exchange Interceptor)
open FanOut (Pool)
open Http (Request Transport)

variable {α β : Type}

/-! ## Calls that are made at once -/

namespace Spread

/-- A move of a group of calls changes nothing, or decreases the measure of its pool. -/
theorem move_cases (s : Spread α) (clockMs : Nat) (t : Transport) (m : Move) :
    ((s.move clockMs t m).spread = s ∧ (s.move clockMs t m).emissions = []) ∨
      (s.move clockMs t m).spread.pool.effort < s.pool.effort := by
  cases m with
  | proceed | arrive => exact .inl ⟨rfl, rfl⟩
  | take r =>
      rcases s.pool.effort_take r with ⟨hsame, -⟩ | hless
      · refine .inl ⟨?_, rfl⟩
        show { s with pool := s.pool.take r } = s
        rw [hsame]
      · exact .inr hless
  | begin r =>
      simp only [move, begin]
      split
      · next unit hrunner =>
        right
        have hless := (s.pool.effort_begin r).resolve_left fun h => h.2 unit hrunner
        split <;> exact hless
      · exact .inl ⟨rfl, rfl⟩
  | settle unit =>
      simp only [move, settle]
      split
      · next r call hworker hcall =>
        right
        simp only [Pool.step, Pool.settle, hworker]
        exact FanOut.Pool.effort_report_lt hworker _
      · exact .inl ⟨rfl, rfl⟩
  | giveUp unit =>
      simp only [move, giveUp]
      split
      · next r call hworker hcall =>
        split
        · next hsignal =>
          right
          simp only [Pool.giveUp, hworker, if_pos hsignal]
          exact FanOut.Pool.effort_report_lt hworker _
        · exact .inl ⟨rfl, rfl⟩
      · exact .inl ⟨rfl, rfl⟩
  | receive =>
      rcases s.pool.effort_receive with ⟨hsame, hchannel⟩ | hless
      · refine .inl ⟨?_, ?_⟩
        · show { s with pool := s.pool.receive } = s
          rw [hsame]
        · simp [move, receive, Pool.notices, hchannel]
      · exact .inr hless

/-- As long as a group of calls is not finished, a move can change it. -/
theorem Tracked.exists_move {start s : Spread α} {xs : List (Nat × Exchange)}
    {rs : List (Nat × Audit.CallRecord)} (htracked : Tracked start xs rs s)
    (hfinished : s.pool.finished = false) (clockMs : Nat) (t : Transport) :
    ∃ m, m ≠ .proceed ∧ (s.move clockMs t m).spread.pool.effort < s.pool.effort := by
  rcases FanOut.Pool.exists_of_not_finished hfinished with hchannel | ⟨r, hrunner⟩
  · exact ⟨.receive, by simp, s.pool.effort_receive.resolve_left fun h => hchannel h.2⟩
  · cases hdoes : s.pool.runner r with
    | gone => exact absurd hdoes hrunner
    | idle => exact ⟨.take r, by simp, (s.pool.effort_take r).resolve_left fun h => h.2 hdoes⟩
    | holding unit =>
        refine ⟨.begin r, by simp, ?_⟩
        have hless := (s.pool.effort_begin r).resolve_left fun h => h.2 unit hdoes
        simp only [Spread.move, Spread.begin, hdoes]
        split <;> exact hless
    | working unit =>
        have hget := FanOut.Pool.getElem?_runners_of_runner hdoes (by simp)
        obtain ⟨-, -, call, hcall, -⟩ := htracked.working hget
        obtain ⟨r', hworker⟩ := FanOut.Pool.exists_workerOn? hget
        refine ⟨.settle unit, by simp, ?_⟩
        simp only [Spread.move, Spread.settle, hworker, hcall, Pool.step, Pool.settle]
        exact FanOut.Pool.effort_report_lt hworker _

end Spread

namespace Task

variable {who : Nat}

/-! ## Authentication -/

/-- A bound on the number of moves that authentication has yet to take. -/
def steps (lookup : Cache.Phase CachedCredential) (token : Option TokenCall) : Nat :=
  match lookup, token with
  | .loading _, some _ => 2 * lookup.rank
  | .loading _, none => 2 * lookup.rank + 1
  | _, some _ => 2 * lookup.rank + 1
  | _, none => 2 * lookup.rank

theorem steps_lt {lookup next : Cache.Phase CachedCredential} (hrank : next.rank < lookup.rank)
    (token token' : Option TokenCall) : steps next token' < steps lookup token := by
  have hupper : steps next token' ≤ 2 * next.rank + 1 := by
    unfold steps
    split <;> omega
  have hlower : 2 * lookup.rank ≤ steps lookup token := by
    unfold steps
    split <;> omega
  omega

/-- The ways in which a turn of authentication changes a task. -/
inductive LookedUp (who : Nat) (l : Cache.Locks) (t : Task β)
    (lookup : Cache.Phase CachedCredential) (token : Option TokenCall)
    (rest : Except Failure Unit → Script β) : Task β → Prop
  | further (lookup' : Cache.Phase CachedCredential) (token' : Option TokenCall)
      (hsteps : steps lookup' token' < steps lookup token) :
      LookedUp who l t lookup token rest { t with stage := .authenticating lookup' token' rest }
  /-- It waits for a lock that another task holds. -/
  | queued (lock : Nat) (hlookup : lookup = .waiting lock) (hholder : l.holder? lock ≠ some who) :
      LookedUp who l t lookup token rest { t with stage := .authenticating lookup token rest }
  /-- It waits for the token call. -/
  | calling (lock? : Option Nat) (hlookup : lookup = .loading lock?) (htoken : token ≠ none) :
      LookedUp who l t lookup token rest { t with stage := .authenticating lookup token rest }
  | answered (run : Run) (a : Except Failure Unit) :
      LookedUp who l t lookup token rest { t with run, stage := .ready (rest a) }
  | crashed (text : String) :
      LookedUp who l t lookup token rest { t with stage := .crashed text }

theorem follow_cases (t : Task β) (r : Resources) {l : Cache.Locks} (token : Option TokenCall)
    (rest : Except Failure Unit → Script β) {lookup next : Cache.Phase CachedCredential}
    (hnext : next.rank < lookup.rank ∨ next = lookup ∧ Pauses who l lookup) :
    LookedUp who l t lookup token rest (t.follow r who token rest next).task := by
  have hfurther : next.rank < lookup.rank →
      LookedUp who l t lookup token rest { t with stage := .authenticating next token rest } :=
    fun hrank => .further next token (steps_lt hrank token token)
  cases next with
  | loading lock? =>
      -- The load begins its call in the same move, which counts as a step of its own.
      cases token with
      | none =>
          refine .further (.loading lock?) (some (t.beginToken r).2) ?_
          rcases hnext with hrank | ⟨rfl, -⟩
          · exact steps_lt hrank none _
          · simp [steps]
      | some token =>
          rcases hnext with hrank | ⟨rfl, -⟩
          · exact hfurther hrank
          · exact .calling lock? rfl (by simp)
  | waiting lock =>
      have htask : (t.follow r who token rest (.waiting lock)).task =
          { t with stage := .authenticating (.waiting lock) token rest } := by
        cases token <;> simp only [follow] <;> split <;> rfl
      rw [htask]
      rcases hnext with hrank | ⟨rfl, hpauses⟩
      · exact hfurther hrank
      · cases hpauses with
        | waiting _ hholder => exact .queued lock rfl hholder
  | done a =>
      cases a with
      | success c =>
          have htask : (t.follow r who token rest (.done (.success c))).task =
              { t with run := t.run.authorize c.token, stage := .ready (rest (.ok ())) } := by
            cases token <;> rfl
          rw [htask]
          exact .answered _ _
      | failure f =>
          have htask : (t.follow r who token rest (.done (.failure f))).task =
              { t with run := t.run, stage := .ready (rest (.error f)) } := by
            cases token <;> rfl
          rw [htask]
          exact .answered _ _
      | crash text =>
          have htask : (t.follow r who token rest (.done (.crash text))).task =
              { t with stage := .crashed text } := by
            cases token <;> rfl
          rw [htask]
          exact .crashed text
  | reading | sweeping | asking | queueing | rereading | resweeping | storing | leaving =>
      rcases hnext with hrank | ⟨rfl, hpauses⟩
      · cases token <;> exact hfurther hrank
      · cases hpauses

/-- A turn of the lookup takes authentication a step further, unless it waits. -/
theorem lookUp_cases (t : Task β) (r : Resources) (who : Nat) (token : Option TokenCall)
    (rest : Except Failure Unit → Script β) (lookup : Cache.Phase CachedCredential) :
    LookedUp who (r.cache t.cache).locks t lookup token rest
      (t.lookUp r who token rest lookup).task :=
  t.follow_cases _ token rest
    (Cache.advance_cases credentialCodec r.clockMs who t.tokenKey _ lookup)

/-- The end of the token call takes authentication a step further. -/
theorem arriveToken_cases (t : Task β) (r : Resources) (token : TokenCall)
    (rest : Except Failure Unit → Script β) (lookup : Cache.Phase CachedCredential) :
    ∃ run lookup', steps lookup' none < steps lookup (some token) ∧
      (t.arriveToken r token rest lookup).task =
        { t with run, stage := .authenticating lookup' none rest } := by
  have hless : ∀ result, steps (Cache.loaded t.tokenKey result lookup).1 none <
      steps lookup (some token) := by
    intro result
    rcases Cache.loaded_cases t.tokenKey result lookup with ⟨hrank, -⟩ | ⟨hsame, hloading⟩
    · exact steps_lt hrank (some token) none
    · rw [hsame]
      cases lookup with
      | loading lock? => exact absurd rfl (hloading lock?)
      | reading | sweeping | asking | queueing | waiting | rereading | resweeping | storing
        | leaving | done => simp [steps]
  exact ⟨_, _, hless _, rfl⟩

/-! ## Termination -/

/-- A task follows another one if a move changed the other one into it. -/
def Follows (who : Nat) (t' t : Task β) : Prop := ∃ r m, t' = (t.move r who m).task ∧ t' ≠ t

/-- A task at this stage, with any run, has only finite sequences of changes. -/
def Settles (who : Nat) (o : FanOut.Options) (cache : Nat) (stage : Stage β) : Prop :=
  ∀ run, Acc (Follows who) { run, options := o, cache, stage : Task β }

variable {o : FanOut.Options} {cache : Nat}

theorem settles_done (b : β) : Settles who o cache (.done b) := by
  intro run
  refine .intro _ ?_
  rintro _ ⟨r, m, rfl, hchanges⟩
  cases m <;> exact absurd rfl hchanges

theorem settles_crashed (text : String) : Settles who o cache (.crashed text : Stage β) := by
  intro run
  refine .intro _ ?_
  rintro _ ⟨r, m, rfl, hchanges⟩
  cases m <;> exact absurd rfl hchanges

theorem settles_calling {call : Call.Pending} {decode : String → Attempt α}
    {rest : Option α → Script β} (hrest : ∀ a, Settles who o cache (.ready (rest a))) :
    Settles who o cache (.calling call decode rest) := by
  intro run
  refine .intro _ ?_
  rintro _ ⟨r, m, rfl, hchanges⟩
  cases m with
  | arrive =>
      simp only [move, arriveCall]
      split
      · exact hrest _ _
      · exact hrest _ _
      · exact settles_crashed _ _
  | proceed | take | begin | settle | giveUp | receive => exact absurd rfl hchanges

theorem settles_spreading (spread : Spread α) {rest : List α → Script β}
    (hrest : ∀ values, Settles who o cache (.ready (rest values))) :
    Settles who o cache (.spreading spread rest) := by
  induction heffort : spread.pool.effort using Nat.strongRecOn generalizing spread with
  | _ effort ih =>
      intro run
      refine .intro _ ?_
      rintro _ ⟨r, m, rfl, hchanges⟩
      -- All moves but the last one decrease the measure of the pool.
      have hmove :
          (({ run, options := o, cache, stage := .spreading spread rest } : Task β).moveSpread
            r spread rest m).task ≠ { run, options := o, cache, stage := .spreading spread rest } →
          Acc (Follows who) (({ run, options := o, cache, stage := .spreading spread rest } :
            Task β).moveSpread r spread rest m).task := by
        intro hmoves
        rcases spread.move_cases r.clockMs r.transport m with ⟨hsame, hquiet⟩ | hless
        · refine absurd ?_ hmoves
          simp only [moveSpread, hsame, hquiet, Run.collect_eq]
          rw [show Call.Emission.records [] = [] from rfl, Run.addRecords_nil]
        · exact ih _ (heffort ▸ hless) _ rfl _
      cases m with
      | proceed =>
          simp only [move] at hchanges ⊢
          split
          · exact hrest _ _
          · next hfinished =>
            rw [if_neg hfinished] at hchanges
            exact absurd rfl hchanges
      | arrive | take | begin | settle | giveUp | receive => exact hmove hchanges

theorem settles_authenticating (lookup : Cache.Phase CachedCredential) (token : Option TokenCall)
    {rest : Except Failure Unit → Script β} (hrest : ∀ a, Settles who o cache (.ready (rest a))) :
    Settles who o cache (.authenticating lookup token rest) := by
  induction hsteps : steps lookup token using Nat.strongRecOn
    generalizing lookup token with
  | _ n ih =>
      intro run
      refine .intro _ ?_
      rintro _ ⟨r, m, rfl, hchanges⟩
      cases m with
      | proceed =>
          have hcases := lookUp_cases
            { run, options := o, cache, stage := .authenticating lookup token rest } r who token
            rest lookup
          simp only [move] at hchanges ⊢
          generalize (lookUp _ r who token rest lookup).task = t' at hcases hchanges ⊢
          cases hcases with
          | further lookup' token' hless => exact ih _ (hsteps ▸ hless) _ _ rfl _
          | queued | calling => exact absurd rfl hchanges
          | answered run a => exact hrest a _
          | crashed text => exact settles_crashed text _
      | arrive =>
          cases token with
          | none => exact absurd rfl hchanges
          | some token =>
              obtain ⟨run', lookup', hless, htask⟩ := arriveToken_cases
                { run, options := o, cache, stage := .authenticating lookup (some token) rest } r
                token rest lookup
              simp only [move]
              rw [htask]
              exact ih _ (hsteps ▸ hless) _ _ rfl _
      | take | begin | settle | giveUp | receive => exact absurd rfl hchanges

/-- A task that is about to carry out a script has only finite sequences of changes. -/
theorem settles_ready (script : Script β) : Settles who o cache (.ready script) := by
  -- Only its own turn takes a task to its next instruction.
  have hproceed : ∀ script : Script β,
      (∀ run r, Acc (Follows who)
        (({ run, options := o, cache, stage := .ready script } : Task β).carryOut r script).task) →
      Settles who o cache (.ready script) := by
    intro script hcarried run
    refine .intro _ ?_
    rintro _ ⟨r, m, rfl, hchanges⟩
    cases m with
    | proceed => exact hcarried run r
    | arrive | take | begin | settle | giveUp | receive => exact absurd rfl hchanges
  induction script with
  | done b => exact hproceed _ fun run r => settles_done b _
  | report f entry rest ih => exact hproceed _ fun run r => ih _
  | authenticate rest ih =>
      refine hproceed _ fun run r => ?_
      simp only [carryOut]
      split
      · exact settles_authenticating .reading none ih _
      · exact ih _ _
  | call phase request decode rest ih => exact hproceed _ fun run r => settles_calling ih _
  | fanOut phase requests decode rest ih => exact hproceed _ fun run r => settles_spreading _ ih _
  | finish policy payload empty rest ih => exact hproceed _ fun run r => ih _ _

/-- Every sequence of changes of a task is finite. -/
theorem acc_follows (who : Nat) (t : Task β) : Acc (Follows who) t := by
  obtain ⟨run, options, cache, stage⟩ := t
  cases stage with
  | ready script => exact settles_ready script run
  | authenticating lookup token rest =>
      exact settles_authenticating lookup token (fun a => settles_ready (rest a)) run
  | calling call decode rest => exact settles_calling (fun a => settles_ready (rest a)) run
  | spreading spread rest =>
      exact settles_spreading spread (fun values => settles_ready (rest values)) run
  | done b => exact settles_done b run
  | crashed text => exact settles_crashed text run

end Task

end Operation
end SupplierGateway
