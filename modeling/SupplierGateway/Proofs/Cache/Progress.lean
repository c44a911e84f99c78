import SupplierGateway.Proofs.Cache.FlightLocks

/-!
# Progress of a lookup

A lookup goes through its phases in one direction, and waits only for its load and for the lock.  A
caller that is alone with its key gets the lock as soon as it asks for it.

* `Phase.rank` — a bound on the number of phases to come;
* `advance_cases` — a turn takes a lookup to a later phase, unless it waits;
* `Locks.Idle` — the lock of a key has neither a holder nor a queue;
* `Alone` — no other caller holds or queues for the lock of the caller's key;
* `Alone.advance` and `Alone.loaded` — a caller that is alone stays alone.
-/

namespace SupplierGateway
namespace Cache

variable {α : Type}

/-! ## Phases -/

/-- A bound on the number of phases to come. -/
def Phase.rank : Phase α → Nat
  | reading => 10
  | sweeping => 9
  | asking => 8
  | queueing _ => 7
  | waiting _ => 6
  | rereading _ => 5
  | resweeping _ => 4
  | loading _ => 3
  | storing .. => 2
  | leaving .. => 1
  | done _ => 0

/-- A lookup has ended, or waits for its load or for a lock that another caller holds. -/
inductive Pauses (who : Nat) (l : Locks) : Phase α → Prop
  | waiting (lock : Nat) (hholder : l.holder? lock ≠ some who) : Pauses who l (.waiting lock)
  | loading (lock? : Option Nat) : Pauses who l (.loading lock?)
  | done (result : Attempt α) : Pauses who l (.done result)

/-- A turn takes a lookup to a later phase, unless it has ended or waits. -/
theorem advance_cases (codec : Codec α) (clockMs who : Nat) (key : String) (c : Cache)
    (phase : Phase α) :
    (c.advance codec clockMs who key phase).phase.rank < phase.rank ∨
      (c.advance codec clockMs who key phase).phase = phase ∧ Pauses who c.locks phase := by
  have hmiss : (c.afterMiss : Phase α).rank ≤ 8 := by
    unfold afterMiss
    split <;> simp [Phase.rank]
  cases phase with
  | reading =>
      left
      simp only [advance]
      split
      · simp [Phase.rank]
      · show (c.afterMiss : Phase α).rank < 10
        omega
      · simp [Phase.rank]
  | sweeping =>
      left
      show (c.afterMiss : Phase α).rank < 9
      omega
  | asking => exact .inl (by simp [advance, Phase.rank])
  | queueing lock => exact .inl (by simp [advance, Phase.rank])
  | waiting lock =>
      simp only [advance]
      by_cases hholder : c.locks.holder? lock = some who
      · rw [if_pos hholder]
        exact .inl (by simp [Phase.rank])
      · rw [if_neg hholder]
        exact .inr ⟨rfl, .waiting lock hholder⟩
  | rereading lock =>
      left
      simp only [advance]
      split <;> simp [Phase.rank]
  | resweeping lock => exact .inl (by simp [advance, Phase.rank])
  | loading lock? => exact .inr ⟨rfl, .loading lock?⟩
  | storing lock? a ttl =>
      left
      simp only [advance]
      split <;> simp [Phase.rank]
  | leaving lock? result =>
      left
      cases lock? <;> simp [advance, Phase.rank]
  | done result => exact .inr ⟨rfl, .done result⟩

/-- Handing in the result of a load takes a lookup to a later phase if it is loading. -/
theorem loaded_cases (key : String) (result : Attempt (α × Lifetime)) (phase : Phase α) :
    (loaded key result phase).1.rank < phase.rank ∧
        (loaded key result phase).1.lock? = phase.lock? ∧ (∃ lock?, phase = .loading lock?) ∨
      (loaded key result phase).1 = phase ∧ ∀ lock?, phase ≠ .loading lock? := by
  cases phase with
  | loading lock? =>
      left
      refine ⟨?_, ?_, lock?, rfl⟩
      · simp only [loaded]
        split
        · split <;> simp [Phase.rank]
        · simp [Phase.rank]
        · simp [Phase.rank]
      · simp only [loaded]
        split
        · split <;> rfl
        · rfl
        · rfl
  | reading | sweeping | asking | queueing | waiting | rereading | resweeping | storing | leaving
    | done => exact .inr ⟨rfl, nofun⟩

/-! ## Alone with a key -/

namespace Locks

/-- The lock of a key has neither a holder nor a queue. -/
def Idle (l : Locks) (key : String) : Prop :=
  ∀ lock, l.get? key = some lock → ∃ references, l.made[lock]? = some { references }

/-- An idle lock is idle after a caller has looked it up. -/
theorem Idle.refer {l : Locks} {key : String} (hidle : l.Idle key) :
    (l.refer key).1.get? key = some (l.refer key).2 ∧ (l.refer key).1.Idle key := by
  unfold Locks.refer
  split
  · next lock hlock =>
    refine ⟨hlock, fun other hother => ?_⟩
    obtain rfl : lock = other := Option.some.inj (hlock.symm.trans hother)
    obtain ⟨references, hmade⟩ := hidle lock hlock
    refine ⟨references + 1, ?_⟩
    rw [getElem?_made_update, if_pos rfl, hmade]
    rfl
  · next hnone =>
    have hget :
        ({ made := l.made ++ [{ references := 2 }], table := (key, l.made.length) :: l.table } :
          Locks).get? key = some l.made.length := by
      simp [get?]
    refine ⟨hget, fun other hother => ?_⟩
    obtain rfl := Option.some.inj (hget.symm.trans hother)
    exact ⟨2, by simp⟩

/-- A lock without a queue is idle after its release, or was removed from the table. -/
theorem idle_release {l : Locks} {key : String} {lock who references : Nat}
    (hget : l.get? key = some lock)
    (hmade : l.made[lock]? = some { holder := some who, references }) :
    (l.release key lock).1.Idle key := by
  have hmade' : (l.update lock fun m => m.handOver.forget).made[lock]? =
      some { references := references - 1 } := by
    rw [getElem?_made_update, if_pos rfl, hmade]
    rfl
  show ((l.update lock fun m => m.handOver.forget).tidy key).Idle key
  unfold tidy
  rw [get?_update, hget]
  simp only
  split
  · intro other hother
    have hremoved : (l.table.filter fun entry => entry.1 != key).lookup key = none :=
      lookup_filter_self l.table key
    exact nomatch hremoved.symm.trans hother
  · intro other hother
    obtain rfl : lock = other := Option.some.inj (hget.symm.trans hother)
    exact ⟨_, hmade'⟩

end Locks

/-- A lookup is about to ask for a lock. -/
def Phase.asks : Phase α → Bool
  | queueing _ => true
  | _ => false

/-- The only turn after which a lookup is about to ask for a lock is the one that looks it up. -/
theorem asks_advance (codec : Codec α) (clockMs who : Nat) (key : String) (c : Cache)
    {phase : Phase α} (hasking : phase ≠ .asking) (hasks : phase.asks = false) :
    (c.advance codec clockMs who key phase).phase.asks = false := by
  have hmiss : (c.afterMiss : Phase α).asks = false := by
    unfold afterMiss
    split <;> rfl
  cases phase with
  | reading =>
      simp only [advance]
      split
      · rfl
      · exact hmiss
      · rfl
  | sweeping => exact hmiss
  | asking => exact absurd rfl hasking
  | queueing lock => cases hasks
  | waiting lock =>
      simp only [advance]
      split <;> rfl
  | rereading lock =>
      simp only [advance]
      split <;> rfl
  | storing lock? a ttl =>
      simp only [advance]
      split <;> rfl
  | leaving lock? result => cases lock? <;> rfl
  | resweeping | loading | done => rfl

/-- No caller other than `who`, whose lookup is in the given phase, holds or queues for the lock of
its key. -/
inductive Alone (who : Nat) (key : String) (l : Locks) (phase : Phase α) : Prop
  | apart (hlock : phase.lock? = none) (hidle : l.Idle key)
  | asking (lock : Nat) (hphase : phase = .queueing lock) (hget : l.get? key = some lock)
      (hidle : l.Idle key)
  | holding (lock references : Nat) (hasks : phase.asks = false) (hlock : phase.lock? = some lock)
      (hget : l.get? key = some lock)
      (hmade : l.made[lock]? = some { holder := some who, references })

namespace Alone

variable {who : Nat} {key : String} {l : Locks} {phase next : Phase α}

/-- A caller that keeps its reference, or has none, stays alone. -/
theorem keep (halone : Alone who key l phase) (hphase : phase.asks = false)
    (hnext : next.asks = false) (hlock : next.lock? = phase.lock?) : Alone who key l next := by
  cases halone with
  | apart hnone hidle => exact .apart (hlock.trans hnone) hidle
  | asking lock hasking hget hidle =>
      rw [hasking] at hphase
      exact nomatch hphase
  | holding lock references _ hsome hget hmade =>
      exact .holding lock references hnext (hlock.trans hsome) hget hmade

theorem refer (halone : Alone who key l phase) (hnone : phase.lock? = none) :
    Alone who key (l.refer key).1 (.queueing (l.refer key).2 : Phase α) := by
  cases halone with
  | apart _ hidle => exact .asking _ rfl hidle.refer.1 hidle.refer.2
  | asking lock hasking hget hidle =>
      rw [hasking] at hnone
      exact nomatch hnone
  | holding lock references _ hsome hget hmade => exact nomatch hnone.symm.trans hsome

theorem ask {lock : Nat} (halone : Alone who key l (.queueing lock : Phase α)) :
    Alone who key (l.ask lock who) (.waiting lock : Phase α) := by
  cases halone with
  | apart hnone hidle => exact nomatch hnone
  | asking other hasking hget hidle =>
      obtain rfl := Phase.queueing.inj hasking
      obtain ⟨references, hmade⟩ := hidle lock hget
      refine .holding lock references rfl rfl hget ?_
      rw [Locks.ask, Locks.getElem?_made_update, if_pos rfl, hmade]
      rfl
  | holding other references hphase => exact nomatch hphase

theorem release {lock : Nat} (halone : Alone who key l phase) (hheld : phase.held? = some lock) :
    (l.release key lock).1.Idle key := by
  have hrefers := Phase.lock?_of_held? hheld
  cases halone with
  | apart hnone hidle => exact nomatch hnone.symm.trans hrefers
  | asking other hasking hget hidle =>
      rw [hasking] at hheld
      exact nomatch hheld
  | holding other references _ hsome hget hmade =>
      obtain rfl : lock = other := Option.some.inj (hrefers.symm.trans hsome)
      exact Locks.idle_release hget hmade

theorem idle (halone : Alone who key l phase) (hnone : phase.lock? = none) : l.Idle key := by
  cases halone with
  | apart _ hidle => exact hidle
  | asking lock hasking hget hidle => exact hidle
  | holding lock references _ hsome hget hmade => exact nomatch hnone.symm.trans hsome

/-- A caller that is alone and waits for the lock is its holder. -/
theorem holder_of_waiting {lock : Nat} (halone : Alone who key l (.waiting lock : Phase α)) :
    l.holder? lock = some who := by
  cases halone with
  | apart hnone hidle => exact nomatch hnone
  | asking other hasking hget hidle => exact nomatch hasking
  | holding other references _ hsome hget hmade =>
      obtain rfl : lock = other := Option.some.inj hsome
      rw [Locks.holder?, hmade]
      rfl

theorem advance (codec : Codec α) (clockMs : Nat) {c : Cache}
    (halone : Alone who key c.locks phase) :
    Alone who key (c.advance codec clockMs who key phase).cache.locks
      (c.advance codec clockMs who key phase).phase := by
  by_cases hasking : phase = .asking
  · subst hasking
    exact halone.refer rfl
  by_cases hasks : phase.asks = true
  · cases phase with
    | queueing lock => exact halone.ask
    | reading | sweeping | asking | waiting | rereading | resweeping | loading | storing | leaving
      | done => exact nomatch hasks
  · -- From here on the locks stay as they are, unless the caller lets its own go.
    have hphase : phase.asks = false := by simpa using hasks
    have hnext := asks_advance codec clockMs who key c hasking hphase
    have hmove := lockMove_advance codec clockMs who key c phase
    generalize (c.advance codec clockMs who key phase).cache.locks = l' at hmove ⊢
    generalize (c.advance codec clockMs who key phase).phase = next at hmove hnext ⊢
    cases hmove with
    | keep _ hlock hheld => exact halone.keep hphase hnext hlock
    | refer hnone => exact nomatch hnext
    | ask lock hqueueing =>
        rw [hqueueing] at hphase
        exact nomatch hphase
    | release lock hheld _ hnone => exact .apart hnone (halone.release hheld)

theorem loaded (other : String) (result : Attempt (α × Lifetime)) (halone : Alone who key l phase) :
    Alone who key l (Cache.loaded other result phase).1 := by
  rcases loaded_cases other result phase with ⟨hrank, hlock, lock?, rfl⟩ | ⟨hsame, -⟩
  · refine halone.keep rfl ?_ hlock
    -- A lookup that is about to ask for a lock is in an earlier phase.
    cases hnext : (Cache.loaded other result (.loading lock? : Phase α)).1 with
    | queueing lock =>
        rw [hnext] at hrank
        exact absurd hrank (by simp [Phase.rank])
    | reading | sweeping | asking | waiting | rereading | resweeping | loading | storing | leaving
      | done => rfl
  · rw [hsame]
    exact halone

end Alone
end Cache
end SupplierGateway
