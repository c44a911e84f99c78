import SupplierGateway.Proofs.Cache.Progress

/-!
# Queues for flight locks

The callers that have asked for a lock are its holder and those in its queue.  A lock with a queue
has a holder.  So every caller in a queue waits for a caller that holds the lock, and no lock is
held by a caller that is done or was dropped.

* `Phase.asked?` — the lock for which a lookup has asked;
* `Lock.Manned` — the holder and the queue of a lock are the callers that asked for it, once each;
* `Manned` — all locks are;
* `Guarded` — the invariant of locks and callers as a whole;
* `Guarded.advance`, `Guarded.loaded` and `Guarded.keep` — turns of callers preserve it;
* `Guarded.drop` — so does the drop of a caller;
* `Guarded.exists_holder` — a lock for which a caller has asked is held by one that has.
-/

namespace SupplierGateway
namespace Cache

variable {α : Type}

/-- The lock for which a lookup has asked. -/
def Phase.asked? (phase : Phase α) : Option Nat := if phase.asks then none else phase.lock?

/-- The lock for which a caller has asked. -/
def Caller.asked? (c : Caller α) : Option Nat := c.phase?.bind Phase.asked?

theorem Phase.asked?_of_not_asks {phase : Phase α} (hasks : phase.asks = false) :
    phase.asked? = phase.lock? := by
  rw [asked?, hasks]
  rfl

/-- A lookup that has asked for a lock refers to it. -/
theorem Phase.lock?_of_asked? {phase : Phase α} {lock : Nat} (hasked : phase.asked? = some lock) :
    phase.lock? = some lock := by
  unfold asked? at hasked
  split at hasked
  · exact nomatch hasked
  · exact hasked

theorem Caller.lock?_of_asked? {c : Caller α} {lock : Nat} (hasked : c.asked? = some lock) :
    c.lock? = some lock := by
  obtain ⟨phase, hphase, hlock⟩ := Option.bind_eq_some_iff.mp hasked
  rw [Caller.lock?, hphase]
  exact Phase.lock?_of_asked? hlock

/-- Handing in the result of a load does not change the lock for which a lookup has asked. -/
theorem asked?_loaded (key : String) (result : Attempt (α × Lifetime)) (phase : Phase α) :
    (loaded key result phase).1.asked? = phase.asked? := by
  cases phase with
  | loading lock? =>
      simp only [loaded]
      split
      · split <;> rfl
      · rfl
      · rfl
  | reading | sweeping | asking | queueing | waiting | rereading | resweeping | storing | leaving
    | done => rfl

/-! ## One lock -/

namespace Lock

/-- The holder of a lock and its queue. -/
def members (m : Lock) : List Nat := m.holder.toList ++ m.queue

/-- The holder and the queue of a lock are the callers that asked for it, once each. -/
structure Manned (m : Lock) (asked : Nat → Prop) : Prop where
  members : ∀ who, who ∈ m.members ↔ asked who
  nodup : m.members.Nodup
  /-- A lock without a holder has no queue. -/
  held : m.holder = none → m.queue = []

namespace Manned

variable {m : Lock} {asked : Nat → Prop} {who : Nat}

theorem congr (hmanned : m.Manned asked) {asked' : Nat → Prop} (hsame : ∀ i, asked i ↔ asked' i) :
    m.Manned asked' :=
  ⟨fun i => (hmanned.members i).trans (hsame i), hmanned.nodup, hmanned.held⟩

/-- A new lock, for which no caller has asked. -/
theorem fresh (references : Nat) (hnobody : ∀ i, ¬ asked i) :
    ({ references } : Lock).Manned asked :=
  ⟨fun i => iff_of_false List.not_mem_nil (hnobody i), List.nodup_nil, fun _ => rfl⟩

/-- A lock for which a caller asked has a holder, which asked for it too. -/
theorem exists_holder (hmanned : m.Manned asked) (hasked : asked who) :
    ∃ holder, m.holder = some holder ∧ asked holder := by
  have hmember := (hmanned.members who).mpr hasked
  cases hholder : m.holder with
  | none =>
      rw [Lock.members, hholder, hmanned.held hholder] at hmember
      exact absurd hmember List.not_mem_nil
  | some holder =>
      refine ⟨holder, rfl, (hmanned.members holder).mp ?_⟩
      rw [Lock.members, hholder]
      exact List.mem_cons_self

theorem ask (hmanned : m.Manned asked) (hnew : ¬ asked who) :
    (m.ask who).Manned fun i => i = who ∨ asked i := by
  have hmembers : (m.ask who).members = m.members ++ [who] := by
    unfold Lock.ask
    split
    · next hholder => simp [Lock.members, hholder, hmanned.held hholder]
    · simp [Lock.members]
  refine ⟨fun i => ?_, ?_, ?_⟩
  · rw [hmembers, List.mem_append, List.mem_singleton, hmanned.members, or_comm]
  · rw [hmembers]
    exact List.nodup_append.mpr ⟨hmanned.nodup, List.nodup_cons.mpr ⟨List.not_mem_nil, .nil⟩, by
      rintro i hi _ hwho rfl
      exact hnew ((hmanned.members who).mp (List.mem_singleton.mp hwho ▸ hi))⟩
  · unfold Lock.ask
    split
    · exact nofun
    · next holder hholder => exact fun hnone => nomatch hholder.symm.trans hnone

/-- The holder releases the lock, which is handed to the first in the queue. -/
theorem handOver (hmanned : m.Manned asked) (hholder : m.holder = some who) :
    m.handOver.Manned fun i => i ≠ who ∧ asked i := by
  have hmembers : m.members = who :: m.handOver.members := by
    unfold Lock.members Lock.handOver
    rw [hholder]
    cases m.queue <;> rfl
  have hnodup := hmanned.nodup
  rw [hmembers, List.nodup_cons] at hnodup
  refine ⟨fun i => ?_, hnodup.2, fun hnone => ?_⟩
  · rw [← hmanned.members i, hmembers, List.mem_cons]
    constructor
    · intro hi
      exact ⟨fun hwho => hnodup.1 (hwho ▸ hi), .inr hi⟩
    · rintro ⟨hother, hi⟩
      exact hi.resolve_left hother
  · exact congrArg List.tail (List.head?_eq_none_iff.mp hnone)

/-- A caller leaves a lock, whether it holds it, queues for it, or has not asked for it yet. -/
theorem leave (hmanned : m.Manned asked) (who : Nat) :
    (m.leave who).Manned fun i => i ≠ who ∧ asked i := by
  unfold Lock.leave
  split
  · next hholder => exact hmanned.handOver hholder
  · next hnot =>
    obtain ⟨hin, hnodup, hheld⟩ := hmanned
    rw [Lock.members, List.nodup_append] at hnodup
    obtain ⟨hone, hqueue, hdisjoint⟩ := hnodup
    refine ⟨fun i => ?_, ?_, fun hnone => ?_⟩
    · rw [← hin i, Lock.members, Lock.members, List.mem_append, List.mem_append,
        hqueue.mem_erase_iff, and_or_left]
      refine or_congr_left (iff_and_self.mpr ?_)
      rintro hi rfl
      exact hnot (Option.mem_toList.mp hi)
    · rw [Lock.members, List.nodup_append]
      exact ⟨hone, hqueue.erase who, fun i hi j hj => hdisjoint i hi j (List.mem_of_mem_erase hj)⟩
    · change m.queue.erase who = []
      rw [hheld hnone]
      rfl

end Manned
end Lock

/-! ## All locks -/

/-- The invariant of the queues: the holder and the queue of every lock are the callers that have
asked for it. -/
def Manned (l : Locks) (callers : List (Caller α)) : Prop :=
  ∀ (lock : Nat) (m : Lock), l.made[lock]? = some m →
    m.Manned fun who => callers[who]?.bind Caller.asked? = some lock

namespace Manned

variable {l : Locks} {callers : List (Caller α)} {who : Nat} {c : Caller α}

theorem start (callers : List (Caller α)) : Manned {} callers :=
  fun _ _ hmade => nomatch hmade

/-- The callers that have asked for a lock after one of them changed its phase. -/
theorem asked_set (hget : callers[who]? = some c) (next : Caller α) (i lock : Nat) :
    (callers.set who next)[i]?.bind Caller.asked? = some lock ↔
      i = who ∧ next.asked? = some lock ∨
        i ≠ who ∧ callers[i]?.bind Caller.asked? = some lock := by
  by_cases hi : i = who
  · subst hi
    rw [List.getElem?_set_self (List.getElem?_eq_some_iff.mp hget).1]
    simp
  · rw [List.getElem?_set_ne (Ne.symm hi)]
    simp [hi]

/-- A caller changes its phase, and one lock changes accordingly. -/
theorem update (hmanned : Manned l callers) (hget : callers[who]? = some c) (next : Caller α)
    (lock : Nat) (f : Lock → Lock)
    (hothers : ∀ other, lock ≠ other → (next.asked? = some other ↔ c.asked? = some other))
    (hlock : ∀ m, m.Manned (fun i => callers[i]?.bind Caller.asked? = some lock) →
      l.made[lock]? = some m →
      (f m).Manned fun i => i = who ∧ next.asked? = some lock ∨
        i ≠ who ∧ callers[i]?.bind Caller.asked? = some lock) :
    Manned (l.update lock f) (callers.set who next) := by
  intro other m hmade
  rw [Locks.getElem?_made_update] at hmade
  split at hmade
  · next hsame =>
    subst hsame
    obtain ⟨old, hold, rfl⟩ := Option.map_eq_some_iff.mp hmade
    exact (hlock old (hmanned lock old hold) hold).congr fun i => (asked_set hget next i lock).symm
  · next hother =>
    refine (hmanned other m hmade).congr fun i => ?_
    rw [asked_set hget next i other, hothers other hother]
    by_cases hi : i = who
    · subst hi
      simp [hget]
    · simp [hi]

/-- A caller changes its phase without asking for a lock or releasing one. -/
theorem keep (hmanned : Manned l callers) (hget : callers[who]? = some c) (next : Caller α)
    (hasked : next.asked? = c.asked?) : Manned l (callers.set who next) := by
  intro lock m hmade
  refine (hmanned lock m hmade).congr fun i => ?_
  rw [asked_set hget next i lock, hasked]
  by_cases hi : i = who
  · subst hi
    simp [hget]
  · simp [hi]

/-- The invariant does not depend on the counts of references. -/
theorem of_references (hmanned : Manned l callers) (lock : Nat) (f : Lock → Lock)
    (hmembers : ∀ m, (f m).holder = m.holder ∧ (f m).queue = m.queue) :
    Manned (l.update lock f) callers := by
  intro other m hmade
  rw [Locks.getElem?_made_update] at hmade
  split at hmade
  · obtain ⟨old, hold, rfl⟩ := Option.map_eq_some_iff.mp hmade
    obtain ⟨hholder, hqueue⟩ := hmembers old
    obtain ⟨hin, hnodup, hheld⟩ := hmanned other old hold
    have hsame : (f old).members = old.members := by
      rw [Lock.members, Lock.members, hholder, hqueue]
    exact ⟨hsame ▸ hin, hsame ▸ hnodup, hholder ▸ hqueue ▸ hheld⟩
  · exact hmanned other m hmade

theorem tidy (hmanned : Manned l callers) (key : String) : Manned (l.tidy key) callers := by
  unfold Locks.tidy
  split
  · next lock _ =>
    split
    · exact hmanned.of_references lock Lock.forget fun m => ⟨rfl, rfl⟩
    · exact hmanned
  · exact hmanned

/-- A caller looks the lock of its key up, for which it has not asked yet. -/
theorem refer (hmanned : Manned l callers) (horder : Orderly l callers) (key : String) :
    Manned (l.refer key).1 callers := by
  unfold Locks.refer
  split
  · next lock _ => exact hmanned.of_references lock Lock.refer fun m => ⟨rfl, rfl⟩
  · intro lock m hmade
    rcases Nat.lt_or_ge lock l.made.length with hlt | hge
    · rw [List.getElem?_append_left hlt] at hmade
      exact hmanned lock m hmade
    · rw [List.getElem?_append_right hge] at hmade
      obtain rfl := List.mem_singleton.mp (List.mem_of_getElem? hmade)
      -- No caller has asked for a lock that did not exist before.
      refine .fresh 2 fun i hasked => ?_
      obtain ⟨d, hd, hlock⟩ := Option.bind_eq_some_iff.mp hasked
      have hrefers := Caller.lock?_of_asked? hlock
      exact absurd (horder.lt_length (List.mem_filterMap.mpr ⟨d, List.mem_of_getElem? hd, hrefers⟩))
        (Nat.not_lt_of_ge hge)

theorem ask (hmanned : Manned l callers) (hget : callers[who]? = some c) (next : Caller α)
    {lock : Nat} (hnone : c.asked? = none) (hasked : next.asked? = some lock) :
    Manned (l.ask lock who) (callers.set who next) := by
  refine hmanned.update hget next lock (fun m => m.ask who) ?_ ?_
  · intro other hother
    rw [hasked, hnone]
    simp [hother]
  · intro m hm _
    have hnew : ¬ callers[who]?.bind Caller.asked? = some lock := by
      rw [hget, Option.bind_some, hnone]
      exact (Option.some_ne_none lock).symm
    refine (hm.ask hnew).congr fun i => ?_
    by_cases hi : i = who
    · simp [hi, hasked]
    · simp [hi]

/-- The holder of a lock releases it. -/
theorem release (hmanned : Manned l callers) (hget : callers[who]? = some c) (next : Caller α)
    (key : String) {lock : Nat} (hasked : c.asked? = some lock) (hnone : next.asked? = none)
    (hholder : l.holder? lock = some who) :
    Manned (l.release key lock).1 (callers.set who next) := by
  refine tidy (hmanned.update hget next lock (fun m => m.handOver.forget) ?_ ?_) key
  · intro other hother
    rw [hasked, hnone]
    simp [hother]
  · intro m hm hmade
    have hholds : m.holder = some who := by
      rw [Locks.holder?, hmade] at hholder
      exact hholder
    obtain ⟨hin, hnodup, hheld⟩ := hm.handOver hholds
    exact (Lock.Manned.mk (m := m.handOver.forget) hin hnodup hheld).congr fun i => by simp [hnone]

/-- A caller leaves a lock that it may have asked for. -/
theorem leave (hmanned : Manned l callers) (hget : callers[who]? = some c) (next : Caller α)
    {lock : Nat} (hasked : ∀ other, c.asked? = some other → lock = other)
    (hnone : next.asked? = none) : Manned (l.leave lock who).1 (callers.set who next) := by
  refine hmanned.update hget next lock (fun m => (m.leave who).forget) ?_ ?_
  · intro other hother
    rw [hnone]
    exact iff_of_false nofun fun h => hother (hasked other h)
  · intro m hm _
    obtain ⟨hin, hnodup, hheld⟩ := hm.leave who
    exact (Lock.Manned.mk (m := (m.leave who).forget) hin hnodup hheld).congr fun i => by
      simp [hnone]

end Manned

/-! ## Callers that go on -/

/-- The invariant of the flight locks as a whole. -/
structure Guarded (l : Locks) (callers : List (Caller α)) : Prop where
  orderly : Orderly l callers
  manned : Manned l callers

namespace Guarded

variable {l : Locks} {callers : List (Caller α)} {who : Nat} {c : Caller α} {key : String}
  {phase : Phase α}

/-- Locks are guarded when there are none and no caller refers to one. -/
theorem start (hfresh : ∀ c ∈ callers, c.lock? = none) : Guarded {} callers :=
  ⟨.start hfresh, .start callers⟩

/-- A caller changes its phase and no lock. -/
theorem keep (hguarded : Guarded l callers) (hget : callers[who]? = some c) (next : Caller α)
    (hkey : next.key = c.key) (hlock : next.lock? = c.lock?) (hheld : next.held? = c.held?)
    (hasked : next.asked? = c.asked?) : Guarded l (callers.set who next) :=
  ⟨hguarded.orderly.keep hget next hkey hlock fun _ h => .inl (hheld ▸ h),
    hguarded.manned.keep hget next hasked⟩

/-- The result of a load is handed in. -/
theorem loaded (hguarded : Guarded l callers)
    (hget : callers[who]? = some { key, phase? := some phase }) (other : String)
    (result : Attempt (α × Lifetime)) :
    Guarded l (callers.set who { key, phase? := some (Cache.loaded other result phase).1 }) :=
  ⟨hguarded.orderly.move hget (lockMove_loaded who key other l result phase),
    hguarded.manned.keep hget _ (asked?_loaded other result phase)⟩

/-- A lookup takes a turn. -/
theorem advance (codec : Codec α) (clockMs : Nat) {cache : Cache}
    (hguarded : Guarded cache.locks callers)
    (hget : callers[who]? = some { key, phase? := some phase }) :
    Guarded (cache.advance codec clockMs who key phase).cache.locks
      (callers.set who
        { key, phase? := some (cache.advance codec clockMs who key phase).phase }) := by
  have hmove := lockMove_advance codec clockMs who key cache phase
  refine ⟨hguarded.orderly.move hget hmove, ?_⟩
  by_cases hasking : phase = .asking
  · subst hasking
    exact (hguarded.manned.refer hguarded.orderly key).keep hget _ rfl
  by_cases hasks : phase.asks = true
  · cases phase with
    | queueing lock => exact hguarded.manned.ask hget _ rfl rfl
    | reading | sweeping | asking | waiting | rereading | resweeping | loading | storing | leaving
      | done => exact nomatch hasks
  · -- From here on the locks stay as they are, unless the caller lets its own go.
    have hphase : phase.asks = false := by simpa using hasks
    have hnext := asks_advance codec clockMs who key cache hasking hphase
    generalize (cache.advance codec clockMs who key phase).cache.locks = l' at hmove ⊢
    generalize (cache.advance codec clockMs who key phase).phase = next at hmove hnext ⊢
    have hasked := Phase.asked?_of_not_asks hphase
    have hasked' := Phase.asked?_of_not_asks hnext
    cases hmove with
    | keep _ hlock _ =>
        exact hguarded.manned.keep hget _ (hasked'.trans (hlock.trans hasked.symm))
    | refer hnone => exact nomatch hnext
    | ask lock hqueueing =>
        rw [hqueueing] at hphase
        exact nomatch hphase
    | release lock hheld _ hnone =>
        exact hguarded.manned.release hget _ key (hasked.trans (Phase.lock?_of_held? hheld))
          (hasked'.trans hnone) (hguarded.orderly.holds who _ lock hget hheld)

/-- A lookup is dropped. -/
theorem drop {cache : Cache} (hguarded : Guarded cache.locks callers)
    (hget : callers[who]? = some { key, phase? := some phase }) :
    Guarded (cache.drop who key phase).1.locks (callers.set who { key, phase? := none }) := by
  refine ⟨hguarded.orderly.move hget (lockMove_drop who key cache phase), ?_⟩
  -- A lookup that does not wait for a lock either holds one or has not asked for any.
  have hholds : ∀ lock, phase.held? = some lock → phase.asks = false →
      Manned (cache.locks.release key lock).1 (callers.set who { key, phase? := none }) :=
    fun lock hheld hasks => hguarded.manned.release hget _ key
      ((Phase.asked?_of_not_asks hasks).trans (Phase.lock?_of_held? hheld)) rfl
      (hguarded.orderly.holds who _ lock hget hheld)
  have hfree : phase.asked? = none →
      Manned cache.locks (callers.set who { key, phase? := none }) :=
    fun hnone => hguarded.manned.keep hget _ hnone.symm
  cases phase with
  | queueing lock => exact hguarded.manned.leave hget _ (fun other hother => nomatch hother) rfl
  | waiting lock =>
      exact hguarded.manned.leave hget _ (fun other hother => Option.some.inj hother) rfl
  | rereading lock => exact hholds lock rfl rfl
  | resweeping lock => exact hholds lock rfl rfl
  | loading lock? =>
      cases lock? with
      | none => exact hfree rfl
      | some lock => exact hholds lock rfl rfl
  | storing lock? a ttl =>
      cases lock? with
      | none => exact hfree rfl
      | some lock => exact hholds lock rfl rfl
  | leaving lock? result =>
      cases lock? with
      | none => exact hfree rfl
      | some lock => exact hholds lock rfl rfl
  | reading | sweeping | asking | done => exact hfree rfl

/-- A lock that a caller has asked for is held by a caller that has asked for it. -/
theorem exists_holder (hguarded : Guarded l callers) (hget : callers[who]? = some c) {lock : Nat}
    (hasked : c.asked? = some lock) :
    ∃ holder d, l.holder? lock = some holder ∧ callers[holder]? = some d ∧
      d.asked? = some lock := by
  have hlt := hguarded.orderly.lt_length
    (List.mem_filterMap.mpr ⟨c, List.mem_of_getElem? hget, Caller.lock?_of_asked? hasked⟩)
  have hmade := List.getElem?_eq_getElem hlt
  have hasks : callers[who]?.bind Caller.asked? = some lock := by
    rw [hget]
    exact hasked
  obtain ⟨holder, hholder, hholds⟩ := (hguarded.manned lock _ hmade).exists_holder hasks
  obtain ⟨d, hd, hasked'⟩ := Option.bind_eq_some_iff.mp hholds
  refine ⟨holder, d, ?_, hd, hasked'⟩
  rw [Locks.holder?, hmade]
  exact hholder

end Guarded

end Cache
end SupplierGateway
