import SupplierGateway.Proofs.Operation.Tokens

/-!
# Moves of tasks and the caches

A task uses only its own cache, and only by turns of its lookup.

* `Task.phase?` — the phase of the lookup of a task, while it has one;
* `Task.LookupMove` and `lookupMove_move` — the effects of a move on the caches and the lookup.
-/

namespace SupplierGateway
namespace Operation

open Cache (CachedCredential)

variable {β : Type}

theorem Resources.cache_setCache (r : Resources) (number : Nat) (cache : Cache) (n : Nat) :
    (r.setCache number cache).cache n = if n = number then cache else r.cache n := rfl

namespace Task

/-- The phase of the lookup of a task, while it has one. -/
def phase? (t : Task β) : Option (Cache.Phase CachedCredential) := t.stage.lookup?.map Prod.fst

/-- The next turn of the lookup of a task. -/
def turn (t : Task β) (r : Resources) (who : Nat) (lookup : Cache.Phase CachedCredential) :
    Cache.Turn CachedCredential :=
  (r.cache t.cache).advance credentialCodec r.clockMs who t.tokenKey lookup

/-- The effects of a move of task `who`: the caches and the phase of the lookup after it. -/
inductive LookupMove (t : Task β) (r : Resources) (who : Nat) :
    (Nat → Cache) → Option (Cache.Phase CachedCredential) → Prop
  /-- The lookup does not change, or it begins. -/
  | aside (next : Option (Cache.Phase CachedCredential))
      (hnext : next = t.phase? ∨ t.phase? = none ∧ next = some .reading) :
      LookupMove t r who r.cache next
  /-- The lookup takes a turn.  When it is done the task goes on without it. -/
  | turn (lookup : Cache.Phase CachedCredential) (hphase : t.phase? = some lookup)
      (next : Option (Cache.Phase CachedCredential))
      (hnext : next = some (t.turn r who lookup).phase ∨
        next = none ∧ ∃ result, (t.turn r who lookup).phase = .done result) :
      LookupMove t r who (r.setCache t.cache (t.turn r who lookup).cache).cache next
  /-- The result of the load is handed in. -/
  | loaded (lookup : Cache.Phase CachedCredential) (hphase : t.phase? = some lookup)
      (result : Attempt (CachedCredential × Cache.Lifetime)) :
      LookupMove t r who r.cache (some (Cache.loaded t.tokenKey result lookup).1)

variable {r : Resources} {who : Nat}

/-- After a turn of its lookup a task does not change the caches, and ends the lookup only when it
is done. -/
theorem follow_lookup (t : Task β) (r : Resources) (who : Nat) (token : Option TokenCall)
    (rest : Except Failure Unit → Script β) (lookup : Cache.Phase CachedCredential) :
    (t.follow r who token rest lookup).resources.cache = r.cache ∧
      ((t.follow r who token rest lookup).task.phase? = some lookup ∨
        (t.follow r who token rest lookup).task.phase? = none ∧
          ∃ result, lookup = .done result) := by
  unfold follow
  split
  · exact ⟨rfl, .inl rfl⟩
  · exact ⟨rfl, .inl rfl⟩
  · simp only
    split <;> exact ⟨rfl, .inl rfl⟩
  · exact ⟨rfl, .inr ⟨rfl, _, rfl⟩⟩
  · exact ⟨rfl, .inr ⟨rfl, _, rfl⟩⟩
  · exact ⟨rfl, .inr ⟨rfl, _, rfl⟩⟩
  · exact ⟨rfl, .inl rfl⟩

theorem lookupMove_carryOut (t : Task β) {script : Script β} (hstage : t.stage = .ready script) :
    t.LookupMove r who (t.carryOut r script).resources.cache
      (t.carryOut r script).task.phase? := by
  have hnone : t.phase? = none := by
    rw [phase?, hstage]
    rfl
  cases script with
  | authenticate rest =>
      simp only [carryOut]
      split
      · exact .aside _ (.inr ⟨hnone, rfl⟩)
      · exact .aside _ (.inl hnone.symm)
  | done | report | call | fanOut | finish => exact .aside _ (.inl hnone.symm)

theorem lookupMove_lookUp (t : Task β) (token : Option TokenCall)
    (rest : Except Failure Unit → Script β) {lookup : Cache.Phase CachedCredential}
    (hphase : t.phase? = some lookup) :
    t.LookupMove r who (t.lookUp r who token rest lookup).resources.cache
      (t.lookUp r who token rest lookup).task.phase? := by
  obtain ⟨hcache, hnext⟩ := t.follow_lookup
    ((r.setCache t.cache (t.turn r who lookup).cache).tell (t.turn r who lookup).entries) who token
    rest (t.turn r who lookup).phase
  have hturn := LookupMove.turn lookup hphase _ hnext
  have hcaches : (r.setCache t.cache (t.turn r who lookup).cache).cache =
      (t.lookUp r who token rest lookup).resources.cache := hcache.symm
  rw [hcaches] at hturn
  exact hturn

/-- Every move has one of these effects. -/
theorem lookupMove_move (t : Task β) (r : Resources) (who : Nat) (m : Move) :
    t.LookupMove r who (t.move r who m).resources.cache (t.move r who m).task.phase? := by
  obtain ⟨run, options, cache, stage⟩ := t
  cases stage with
  | ready script =>
      cases m with
      | proceed => exact lookupMove_carryOut _ rfl
      | arrive | take | begin | settle | giveUp | receive => exact .aside _ (.inl rfl)
  | authenticating lookup token rest =>
      cases m with
      | proceed => exact lookupMove_lookUp _ _ _ rfl
      | arrive =>
          cases token with
          | none => exact .aside _ (.inl rfl)
          | some token => exact .loaded lookup rfl _
      | take | begin | settle | giveUp | receive => exact .aside _ (.inl rfl)
  | calling call decode rest =>
      cases m with
      | arrive =>
          simp only [move, arriveCall]
          split <;> exact .aside _ (.inl rfl)
      | proceed | take | begin | settle | giveUp | receive => exact .aside _ (.inl rfl)
  | spreading spread rest =>
      cases m with
      | proceed =>
          simp only [move]
          split <;> exact .aside _ (.inl rfl)
      | arrive | take | begin | settle | giveUp | receive => exact .aside _ (.inl rfl)
  | done b => cases m <;> exact .aside _ (.inl rfl)
  | crashed text => cases m <;> exact .aside _ (.inl rfl)

end Task
end Operation
end SupplierGateway
