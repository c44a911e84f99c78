import SupplierGateway.Proofs.Operation.Progress

/-!
# Waiting tasks

A task that has not ended can be changed by one of its moves, for any replies of the supplier,
unless it waits for a lock that another task holds.

* `Task.Traced` — calls that are made at once are those of a spread from its start;
* `Traced.move` — every move preserves this;
* `Task.Waits` — a task waits for a lock that it does not hold;
* `Traced.exists_move` — a task that has not ended can be changed, or waits.
-/

namespace SupplierGateway
namespace Operation

open Cache (CachedCredential)

variable {α β : Type}

/-! ## Scripts and their continuations -/

namespace Script

theorem report_ne (f : Failure) (entry : Option LogEntry) (rest : Script β) :
    rest ≠ .report f entry rest := by
  induction rest generalizing f entry with
  | report g other rest ih =>
      intro hsame
      exact ih g other (Script.report.inj hsame).2.2
  | done | authenticate | call | fanOut | finish => exact nofun

theorem authenticate_ne (rest : Except Failure Unit → Script β) (a : Except Failure Unit) :
    rest a ≠ .authenticate rest := by
  -- The induction is on what follows, for any instruction that it could follow.
  have hne : ∀ (script : Script β) (rest : Except Failure Unit → Script β) a,
      rest a = script → script ≠ .authenticate rest := by
    intro script
    induction script with
    | authenticate rest' ih =>
        intro rest a hrest hsame
        obtain rfl := Script.authenticate.inj hsame
        exact ih a _ a rfl hrest
    | done | report | call | fanOut | finish => exact nofun
  exact hne _ rest a rfl

theorem finish_ne {π : Type} (policy : Policy) (payload empty : π) (rest : Envelope π → Script β)
    (env : Envelope π) : rest env ≠ .finish policy payload empty rest := by
  have hne : ∀ (script : Script β) (payload empty : π) (rest : Envelope π → Script β),
      rest env = script → script ≠ .finish policy payload empty rest := by
    intro script
    induction script with
    | finish policy' payload' empty' rest' ih =>
        intro payload empty rest hrest hsame
        cases hsame
        exact ih env payload empty rest rfl hrest
    | done | report | authenticate | call | fanOut => exact nofun
  exact hne _ payload empty rest rfl

end Script

namespace Task

variable {who : Nat} {r : Resources}

/-! ## Calls that are made at once -/

/-- Calls that the task makes at once are those of a spread from its start. -/
def Traced (t : Task β) : Prop :=
  match t.stage with
  | .spreading spread _ => ∃ start xs rs, Spread.Tracked start xs rs spread
  | .ready _ | .authenticating .. | .calling .. | .done _ | .crashed _ => True

theorem traced_carryOut (t : Task β) (r : Resources) (script : Script β) :
    (t.carryOut r script).task.Traced := by
  cases script with
  | authenticate rest =>
      simp only [carryOut]
      split <;> trivial
  | fanOut phase requests decode rest =>
      exact ⟨_, [], [], Spread.tracked_start rfl t.options _ decode⟩
  | done | report | call | finish => trivial

theorem traced_lookUp (t : Task β) (r : Resources) (who : Nat) (token : Option TokenCall)
    (rest : Except Failure Unit → Script β) (lookup : Cache.Phase CachedCredential) :
    (t.lookUp r who token rest lookup).task.Traced := by
  have hcases := t.lookUp_cases r who token rest lookup
  generalize (t.lookUp r who token rest lookup).task = t' at hcases ⊢
  cases hcases <;> trivial

/-- The property is kept by every move. -/
theorem Traced.move {t : Task β} (htraced : t.Traced) (haddress : r.transport.address = id)
    (m : Move) : (t.move r who m).task.Traced := by
  obtain ⟨run, options, cache, stage⟩ := t
  cases stage with
  | ready script =>
      cases m with
      | proceed => exact traced_carryOut _ r script
      | arrive | take | begin | settle | giveUp | receive => trivial
  | authenticating lookup token rest =>
      cases m with
      | proceed => exact traced_lookUp _ r who token rest lookup
      | arrive => cases token <;> trivial
      | take | begin | settle | giveUp | receive => trivial
  | calling call decode rest =>
      cases m with
      | arrive =>
          simp only [Task.move, arriveCall]
          split <;> trivial
      | proceed | take | begin | settle | giveUp | receive => trivial
  | spreading spread rest =>
      obtain ⟨start, xs, rs, htracked⟩ := htraced
      cases m with
      | proceed =>
          simp only [Task.move]
          split
          · trivial
          · exact ⟨start, xs, rs, htracked⟩
      | arrive => exact ⟨start, _, _, htracked.move r.clockMs haddress .arrive⟩
      | take runner => exact ⟨start, _, _, htracked.move r.clockMs haddress (.take runner)⟩
      | begin runner => exact ⟨start, _, _, htracked.move r.clockMs haddress (.begin runner)⟩
      | settle unit => exact ⟨start, _, _, htracked.move r.clockMs haddress (.settle unit)⟩
      | giveUp unit => exact ⟨start, _, _, htracked.move r.clockMs haddress (.giveUp unit)⟩
      | receive => exact ⟨start, _, _, htracked.move r.clockMs haddress .receive⟩
  | done b => cases m <;> trivial
  | crashed text => cases m <;> trivial

/-! ## Moves that change a task -/

/-- A task waits for a lock that it does not hold. -/
def Waits (t : Task β) (r : Resources) (who : Nat) : Prop :=
  ∃ lock rest, t.stage = .authenticating (.waiting lock) none rest ∧
    (r.cache t.cache).locks.holder? lock ≠ some who

/-- The first instruction of a script changes the task. -/
theorem carryOut_ne {t : Task β} {script : Script β} (hstage : t.stage = .ready script) :
    (t.carryOut r script).task ≠ t := by
  intro hsame
  have hstages := (congrArg Task.stage hsame).trans hstage
  cases script with
  | done b => cases hstages
  | report f entry rest => exact Script.report_ne f entry rest (Stage.ready.inj hstages)
  | authenticate rest =>
      simp only [carryOut] at hstages
      split at hstages
      · cases hstages
      · exact Script.authenticate_ne rest _ (Stage.ready.inj hstages)
  | call phase request decode rest => cases hstages
  | fanOut phase requests decode rest => cases hstages
  | finish policy payload empty rest =>
      exact Script.finish_ne policy payload empty rest _ (Stage.ready.inj hstages)

/-- A turn of authentication changes the task, unless it waits for a lock. -/
theorem lookUp_ne {t : Task β} {lookup : Cache.Phase CachedCredential}
    {rest : Except Failure Unit → Script β} (hstage : t.stage = .authenticating lookup none rest) :
    (t.lookUp r who none rest lookup).task ≠ t ∨ t.Waits r who := by
  rw [← imp_iff_not_or]
  intro hsame
  have hcases := t.lookUp_cases r who none rest lookup
  have hstages := (congrArg Task.stage hsame).trans hstage
  generalize (t.lookUp r who none rest lookup).task = t' at hcases hsame hstages
  cases hcases with
  | further lookup' token' hless =>
      obtain ⟨rfl, rfl, -⟩ := Stage.authenticating.inj hstages
      exact absurd hless (Nat.lt_irrefl _)
  | queued lock hlookup hholder => exact ⟨lock, rest, hlookup ▸ hstage, hholder⟩
  | calling lock? hlookup htoken => exact absurd rfl htoken
  | answered run a => exact nomatch hstages
  | crashed text => exact nomatch hstages

/-- A task that has not ended can be changed by a move, or it waits for a lock. -/
theorem Traced.exists_move {t : Task β} (htraced : t.Traced) (hresult : t.result? = none) :
    (∃ m, (t.move r who m).task ≠ t) ∨ t.Waits r who := by
  obtain ⟨run, options, cache, stage⟩ := t
  cases stage with
  | ready script => exact .inl ⟨.proceed, carryOut_ne rfl⟩
  | authenticating lookup token rest =>
      cases token with
      | none => exact (lookUp_ne rfl).imp (fun hne => ⟨.proceed, hne⟩) id
      | some token =>
          refine .inl ⟨.arrive, fun hsame => ?_⟩
          have hstages := congrArg Task.stage hsame
          cases (Stage.authenticating.inj hstages).2.1
  | calling call decode rest =>
      -- A reply is always there, since calls are ended by their deadline.
      refine .inl ⟨.arrive, fun hsame => ?_⟩
      have hstages := congrArg Task.stage hsame
      simp only [Task.move, arriveCall] at hstages
      split at hstages <;> cases hstages
  | spreading spread rest =>
      left
      obtain ⟨start, xs, rs, htracked⟩ := htraced
      by_cases hfinished : spread.pool.finished = true
      · refine ⟨.proceed, fun hsame => ?_⟩
        have hstages := congrArg Task.stage hsame
        simp only [Task.move, if_pos hfinished] at hstages
        cases hstages
      · obtain ⟨m, hproceed, hless⟩ := htracked.exists_move (by simpa using hfinished) r.clockMs
          r.transport
        refine ⟨m, fun hsame => ?_⟩
        have hstages :
            (Stage.spreading (spread.move r.clockMs r.transport m).spread rest : Stage β) =
              .spreading spread rest := by
          cases m with
          | proceed => exact absurd rfl hproceed
          | arrive | take | begin | settle | giveUp | receive => exact congrArg Task.stage hsame
        have hspreads := eq_of_heq (Stage.spreading.inj hstages).2.1
        rw [hspreads] at hless
        exact Nat.lt_irrefl _ hless
  | done b => cases hresult
  | crashed text => cases hresult

end Task

end Operation
end SupplierGateway
