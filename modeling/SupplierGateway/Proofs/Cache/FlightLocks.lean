import SupplierGateway.Cache.Callers
import SupplierGateway.Proofs.Lists

/-!
# Flight locks are held by one caller each

A lock leaves the table when its only reference is that of the table.  This file shows that the
count of references therefore keeps all callers of one key at one lock.

* `LockMove` — the effects of a turn of a lookup, or of its drop, on the locks;
* `Orderly` — the invariant of locks and callers: the lock to which a caller refers is the lock of
  its key in the table, the count of references is the number of referrers, and a caller whose phase
  is one of a holder is the holder;
* `Orderly.move` — every move preserves the invariant;
* `Orderly.held_unique` — two callers of one key never hold its lock at once.
-/

namespace SupplierGateway
namespace Cache

variable {α : Type}

/-- The lock to which a lookup refers. -/
def Phase.lock? : Phase α → Option Nat
  | queueing lock | waiting lock | rereading lock | resweeping lock => some lock
  | loading lock? | storing lock? .. | leaving lock? _ => lock?
  | reading | sweeping | asking | done _ => none

/-- A lookup that holds a lock refers to it. -/
theorem Phase.lock?_of_held? {phase : Phase α} {lock : Nat} (hheld : phase.held? = some lock) :
    phase.lock? = some lock := by
  cases phase with
  | rereading | resweeping | loading | storing | leaving => exact hheld
  | reading | sweeping | asking | queueing | waiting | done => exact absurd hheld nofun

/-- The lock to which a caller refers. -/
def Caller.lock? (c : Caller α) : Option Nat := c.phase?.bind Phase.lock?

/-- The lock that a caller holds and knows that it holds. -/
def Caller.held? (c : Caller α) : Option Nat := c.phase?.bind Phase.held?

theorem Caller.lock?_of_held? {c : Caller α} {lock : Nat} (hheld : c.held? = some lock) :
    c.lock? = some lock := by
  obtain ⟨phase, hphase, hlock⟩ := Option.bind_eq_some_iff.mp hheld
  rw [Caller.lock?, hphase]
  exact Phase.lock?_of_held? hlock

/-! ## Locks after a turn -/

/-- The moves of caller `who`, whose lookup of a key is in a phase: the locks after the move, and
the phase after it unless the caller was dropped. -/
inductive LockMove (who : Nat) (key : String) (l : Locks) (phase : Phase α) :
    Locks → Option (Phase α) → Prop
  | keep (next : Option (Phase α)) (hlock : next.bind Phase.lock? = phase.lock?)
      (hheld : ∀ lock, next.bind Phase.held? = some lock →
        phase.held? = some lock ∨ l.holder? lock = some who) :
      LockMove who key l phase l next
  | refer (hlock : phase.lock? = none) :
      LockMove who key l phase (l.refer key).1 (some (.queueing (l.refer key).2))
  | ask (lock : Nat) (hphase : phase = .queueing lock) :
      LockMove who key l phase (l.ask lock who) (some (.waiting lock))
  | release (lock : Nat) (hheld : phase.held? = some lock) (next : Option (Phase α))
      (hnext : next.bind Phase.lock? = none) :
      LockMove who key l phase (l.release key lock).1 next
  | leave (lock : Nat) (hlock : phase.lock? = some lock) (hheld : phase.held? = none) :
      LockMove who key l phase (l.leave lock who).1 none

/-- A turn that does not change the locks or the lock that the lookup holds. -/
theorem LockMove.same {who : Nat} {key : String} {l : Locks} {phase next : Phase α}
    (hlock : next.lock? = phase.lock?) (hheld : next.held? = phase.held?) :
    LockMove who key l phase l (some next) :=
  .keep (some next) hlock fun _ h => .inl (hheld ▸ h)

theorem locks_storeText (c : Cache) (clockMs : Nat) (key : String) (text : Except String String)
    (ttl : Lifetime) : (c.storeText clockMs key text ttl).1.locks = c.locks := by
  unfold storeText
  split <;> rfl

/-- Every turn of a lookup is a move. -/
theorem lockMove_advance (codec : Codec α) (clockMs who : Nat) (key : String) (c : Cache)
    (phase : Phase α) :
    LockMove who key c.locks phase (c.advance codec clockMs who key phase).cache.locks
      (some (c.advance codec clockMs who key phase).phase) := by
  have hmiss : (c.afterMiss : Phase α).lock? = none ∧ (c.afterMiss : Phase α).held? = none := by
    unfold afterMiss
    split <;> exact ⟨rfl, rfl⟩
  cases phase with
  | reading =>
      simp only [advance]
      split
      · exact .same rfl rfl
      · exact .same hmiss.1 hmiss.2
      · exact .same rfl rfl
  | sweeping => exact .same hmiss.1 hmiss.2
  | asking => exact .refer rfl
  | queueing lock => exact .ask lock rfl
  | waiting lock =>
      simp only [advance]
      split
      · next hholder =>
        exact .keep (some (.rereading lock)) rfl fun n hn => .inr (Option.some.inj hn ▸ hholder)
      · exact .same rfl rfl
  | rereading lock =>
      simp only [advance]
      split <;> exact .same rfl rfl
  | resweeping lock => exact .same rfl rfl
  | loading lock? => exact .same rfl rfl
  | storing lock? a ttl =>
      have hlocks := locks_storeText c clockMs key (codec.encode a) ttl
      simp only [advance]
      split
      · next hstore => rw [hstore] at hlocks; rw [hlocks]; exact .same rfl rfl
      · next hstore => rw [hstore] at hlocks; rw [hlocks]; exact .same rfl rfl
      · next hstore => rw [hstore] at hlocks; rw [hlocks]; exact .same rfl rfl
  | leaving lock? result =>
      cases lock? with
      | none => exact .same rfl rfl
      | some lock => exact .release lock rfl _ rfl
  | done result => exact .same rfl rfl

/-- Handing in the result of a load is a move that does not change the locks. -/
theorem lockMove_loaded (who : Nat) (key other : String) (l : Locks)
    (result : Attempt (α × Lifetime)) (phase : Phase α) :
    LockMove who key l phase l (some (loaded other result phase).1) := by
  unfold loaded
  split
  · split
    · split <;> exact .same rfl rfl
    · exact .same rfl rfl
    · exact .same rfl rfl
  · exact .same rfl rfl

/-- Dropping a lookup is a move. -/
theorem lockMove_drop (who : Nat) (key : String) (c : Cache) (phase : Phase α) :
    LockMove who key c.locks phase (c.drop who key phase).1.locks none := by
  unfold drop
  split
  · next lock => exact .leave lock rfl rfl
  · next lock => exact .leave lock rfl rfl
  · next hqueueing hwaiting =>
    split
    · next lock hheld => exact .release lock hheld none rfl
    · next hheld =>
      refine .keep none ?_ nofun
      cases phase with
      | queueing lock => exact absurd rfl (hqueueing lock)
      | waiting lock => exact absurd rfl (hwaiting lock)
      | rereading | resweeping | loading | storing | leaving => exact hheld.symm
      | reading | sweeping | asking | done => rfl

/-! ## One lock under moves -/

namespace Locks

theorem getElem?_made_update (l : Locks) (lock : Nat) (f : Lock → Lock) (i : Nat) :
    (l.update lock f).made[i]? = if lock = i then l.made[i]?.map f else l.made[i]? := by
  rw [update, List.getElem?_modify]
  split <;> simp

@[simp] theorem get?_update (l : Locks) (lock : Nat) (f : Lock → Lock) (key : String) :
    (l.update lock f).get? key = l.get? key := rfl

/-- A holder holds a lock after a change of another lock, or of its own if the change keeps it. -/
theorem holder?_update {l : Locks} {lock : Nat} {f : Lock → Lock} {i who : Nat}
    (hholder : l.holder? i = some who)
    (hkeep : ∀ m, lock = i → m.holder = some who → (f m).holder = some who) :
    (l.update lock f).holder? i = some who := by
  obtain ⟨m, hmade, hm⟩ := Option.bind_eq_some_iff.mp hholder
  rw [holder?, getElem?_made_update, hmade]
  split
  · next hlock => exact hkeep m hlock hm
  · exact hm

end Locks

namespace Lock

/-- A lock that is held keeps its holder when another caller asks for it. -/
theorem holder_ask {m : Lock} {holder who : Nat} (hholder : m.holder = some holder) :
    (m.ask who).holder = some holder := by
  rw [ask, hholder]

@[simp] theorem references_ask (m : Lock) (who : Nat) : (m.ask who).references = m.references := by
  unfold ask
  split <;> rfl

@[simp] theorem references_handOver (m : Lock) : m.handOver.references = m.references := rfl

@[simp] theorem references_leave (m : Lock) (who : Nat) :
    (m.leave who).references = m.references := by
  unfold leave
  split <;> rfl

/-- A lock keeps its holder when another caller leaves. -/
theorem holder_leave {m : Lock} {holder who : Nat} (hholder : m.holder = some holder)
    (hother : holder ≠ who) : (m.leave who).holder = some holder := by
  have hnot : m.holder ≠ some who := fun h => hother (Option.some.inj (hholder ▸ h))
  rw [leave, if_neg hnot]
  exact hholder

end Lock

/-! ## Locks and callers in order -/

/-- The locks to which callers refer, each as often as a caller refers to it. -/
def referrers (callers : List (Caller α)) : List Nat := callers.filterMap Caller.lock?

/-- The invariant of the flight locks and the callers. -/
structure Orderly (l : Locks) (callers : List (Caller α)) : Prop where
  /-- A lock belongs to one key. -/
  distinct : ∀ key other lock, l.get? key = some lock → l.get? other = some lock → key = other
  /-- The references to a lock in the table are that of the table and those of the callers. -/
  counted : ∀ key lock, l.get? key = some lock →
    ∃ m, l.made[lock]? = some m ∧ m.references = 1 + (referrers callers).count lock
  /-- The lock to which a caller refers is still the lock of its key. -/
  referred : ∀ (who : Nat) (c : Caller α) lock, callers[who]? = some c → c.lock? = some lock →
    l.get? c.key = some lock
  /-- A caller whose phase is one of a holder is the holder. -/
  holds : ∀ (who : Nat) (c : Caller α) lock, callers[who]? = some c → c.held? = some lock →
    l.holder? lock = some who

namespace Orderly

variable {l : Locks} {callers : List (Caller α)} {who : Nat} {c : Caller α}

/-- The invariant holds when there are no locks and no caller refers to one. -/
theorem start {callers : List (Caller α)} (hfresh : ∀ c ∈ callers, c.lock? = none) :
    Orderly {} callers where
  distinct _ _ _ h := nomatch h
  counted _ _ h := nomatch h
  referred _ _ _ hget hlock := by
    rw [hfresh _ (List.mem_of_getElem? hget)] at hlock
    exact nomatch hlock
  holds _ _ _ hget hheld := by
    have hlock := Caller.lock?_of_held? hheld
    rw [hfresh _ (List.mem_of_getElem? hget)] at hlock
    exact nomatch hlock

theorem count_pos (hget : callers[who]? = some c) {lock : Nat} (hlock : c.lock? = some lock) :
    0 < (referrers callers).count lock :=
  List.count_pos_iff.mpr (List.mem_filterMap.mpr ⟨c, List.mem_of_getElem? hget, hlock⟩)

theorem lt_length (horder : Orderly l callers) {lock : Nat}
    (hlock : lock ∈ referrers callers) : lock < l.made.length := by
  obtain ⟨c, hc, hrefers⟩ := List.mem_filterMap.mp hlock
  obtain ⟨who, hget⟩ := List.getElem?_of_mem hc
  obtain ⟨m, hmade, -⟩ := horder.counted _ _ (horder.referred _ _ _ hget hrefers)
  exact (List.getElem?_eq_some_iff.mp hmade).1

/-- The invariant is kept when a caller changes its reference and one lock changes accordingly. -/
theorem update (horder : Orderly l callers) (hget : callers[who]? = some c) (next : Caller α)
    (hkey : next.key = c.key) (lock : Nat) (f : Lock → Lock)
    (hnext : ∀ other, next.lock? = some other → l.get? c.key = some other)
    (hothers : ∀ other, lock ≠ other → (next.lock? = some other ↔ c.lock? = some other))
    (hreferences : ∀ m, l.made[lock]? = some m → m.references = 1 + (referrers callers).count lock →
      (f m).references + c.lock?.toList.count lock = m.references + next.lock?.toList.count lock)
    (hholder : ∀ m i, i ≠ who → (∃ d, callers[i]? = some d ∧ d.held? = some lock) →
      m.holder = some i → (f m).holder = some i)
    (hheld : ∀ other, next.held? = some other → (l.update lock f).holder? other = some who) :
    Orderly (l.update lock f) (callers.set who next) where
  distinct := horder.distinct
  counted := by
    intro key other hother
    obtain ⟨m, hmade, hcount⟩ := horder.counted key other hother
    have htrade : ((callers.set who next).filterMap Caller.lock?).count other +
        c.lock?.toList.count other =
          (referrers callers).count other + next.lock?.toList.count other :=
      count_filterMap_set Caller.lock? hget next other
    rw [Locks.getElem?_made_update, hmade]
    by_cases hlock : lock = other
    · subst hlock
      have htrade' := hreferences m hmade hcount
      refine ⟨f m, by simp, ?_⟩
      rw [referrers]
      omega
    · refine ⟨m, by simp [hlock], ?_⟩
      have hsame : c.lock?.toList.count other = next.lock?.toList.count other := by
        have hiff := hothers other hlock
        cases hc : c.lock? <;> cases hn : next.lock? <;> grind
      rw [referrers]
      omega
  referred := by
    intro i d other hd hother
    rcases getElem?_set_cases hd with ⟨-, rfl⟩ | ⟨-, hd⟩
    · rw [hkey]
      exact hnext other hother
    · exact horder.referred i d other hd hother
  holds := by
    intro i d other hd hother
    rcases getElem?_set_cases hd with ⟨rfl, rfl⟩ | ⟨hi, hd⟩
    · exact hheld other hother
    · refine Locks.holder?_update (horder.holds i d other hd hother) ?_
      rintro m rfl hm
      exact hholder m i hi ⟨d, hd, hother⟩ hm

/-- Removing a lock without referrers from the table keeps the invariant. -/
theorem tidy (horder : Orderly l callers) (key : String) : Orderly (l.tidy key) callers := by
  unfold Locks.tidy
  split
  · next lock hlock =>
    split
    · next hsingle =>
      -- The table has the only reference, so that no caller has one.
      obtain ⟨m, hmade, hcount⟩ := horder.counted key lock hlock
      have hzero : (referrers callers).count lock = 0 := by
        rw [hmade] at hsingle
        have hm : m.references = 1 := Option.some.inj hsingle
        omega
      refine ⟨?_, ?_, ?_, ?_⟩
      · intro k other n hk hother
        exact horder.distinct k other n (lookup_of_lookup_filter hk).2
          (lookup_of_lookup_filter hother).2
      · intro k n hk
        obtain ⟨hother, hn⟩ := lookup_of_lookup_filter hk
        obtain ⟨m', hmade', hcount'⟩ := horder.counted k n hn
        have hdiffer : lock ≠ n := by
          rintro rfl
          exact hother (horder.distinct _ _ _ hn hlock)
        refine ⟨m', ?_, hcount'⟩
        rw [← hmade']
        exact (Locks.getElem?_made_update l lock Lock.forget n).trans (if_neg hdiffer)
      · intro i d n hd hn
        have hother : d.key ≠ key := by
          intro hkey
          have hsame := horder.referred i d n hd hn
          rw [hkey, hlock] at hsame
          have hpos := count_pos hd hn
          rw [← Option.some.inj hsame] at hpos
          omega
        exact (lookup_filter_of_ne l.table hother).trans (horder.referred i d n hd hn)
      · intro i d n hd hn
        exact Locks.holder?_update (horder.holds i d n hd hn) fun _ _ hm => hm
    · exact horder
  · exact horder

/-- A caller changes its phase and no lock. -/
theorem keep (horder : Orderly l callers) (hget : callers[who]? = some c) (next : Caller α)
    (hkey : next.key = c.key) (hlock : next.lock? = c.lock?)
    (hheld : ∀ lock, next.held? = some lock → c.held? = some lock ∨ l.holder? lock = some who) :
    Orderly l (callers.set who next) := by
  -- This is an update in which no lock changes.
  have hid : l.update 0 id = l := by rw [Locks.update, List.modify_id]
  rw [← hid]
  refine horder.update hget next hkey 0 id ?_ (fun _ _ => by rw [hlock]) (fun _ _ _ => by
    rw [hlock]; rfl) (fun _ _ _ _ hm => hm) ?_
  · intro other hother
    exact horder.referred who c other hget (hlock ▸ hother)
  · intro other hother
    rw [hid]
    exact (hheld other hother).elim (horder.holds who c other hget) id

/-- A lock is made for the key of a caller, which has none in the table. -/
theorem make (horder : Orderly l callers) (hget : callers[who]? = some c) (next : Caller α)
    (hkey : next.key = c.key) (hnone : c.lock? = none) (hunknown : l.get? c.key = none)
    (hlock : next.lock? = some l.made.length) (hheld : next.held? = none) :
    Orderly
      { made := l.made ++ [{ references := 2 }], table := (c.key, l.made.length) :: l.table }
      (callers.set who next) := by
  have hfresh : (referrers callers).count l.made.length = 0 := by
    rw [List.count_eq_zero]
    exact fun h => Nat.lt_irrefl _ (horder.lt_length h)
  have htrade : ∀ other, (referrers (callers.set who next)).count other =
      (referrers callers).count other + if l.made.length = other then 1 else 0 := by
    intro other
    have htrade := count_filterMap_set Caller.lock? hget next other
    rw [hlock, hnone] at htrade
    simpa [referrers, List.count_singleton, beq_iff_eq] using htrade
  have hin : ∀ key lock, l.get? key = some lock → lock < l.made.length := by
    intro key lock hlock
    obtain ⟨m, hmade, -⟩ := horder.counted key lock hlock
    exact (List.getElem?_eq_some_iff.mp hmade).1
  constructor
  case distinct =>
    intro key other lock hk ho
    rcases lookup_cons_iff.mp hk with ⟨rfl, rfl⟩ | ⟨-, hk⟩ <;>
      rcases lookup_cons_iff.mp ho with ⟨rfl, hl⟩ | ⟨-, ho⟩
    · rfl
    · exact absurd (hin _ _ ho) (Nat.lt_irrefl _)
    · exact absurd (hin _ _ hk) (hl ▸ Nat.lt_irrefl _)
    · exact horder.distinct key other lock hk ho
  case counted =>
    intro key lock hk
    rw [htrade]
    rcases lookup_cons_iff.mp hk with ⟨rfl, rfl⟩ | ⟨-, hk⟩
    · exact ⟨{ references := 2 }, by simp, by simp [hfresh]⟩
    · obtain ⟨m, hmade, hcount⟩ := horder.counted key lock hk
      have hlt := hin key lock hk
      refine ⟨m, ?_, ?_⟩
      · rw [List.getElem?_append_left hlt]
        exact hmade
      · rw [if_neg (Nat.ne_of_gt hlt)]
        exact hcount
  case referred =>
    intro i d lock hd hdlock
    rcases getElem?_set_cases hd with ⟨-, rfl⟩ | ⟨-, hd⟩
    · rw [hlock] at hdlock
      obtain rfl := Option.some.inj hdlock
      exact lookup_cons_iff.mpr (.inl ⟨hkey, rfl⟩)
    · have hold := horder.referred i d lock hd hdlock
      have hne : d.key ≠ c.key := by
        intro hk
        rw [hk, hunknown] at hold
        exact nomatch hold
      exact lookup_cons_iff.mpr (.inr ⟨hne, hold⟩)
  case holds =>
    intro i d lock hd hdheld
    rcases getElem?_set_cases hd with ⟨-, rfl⟩ | ⟨-, hd⟩
    · exact nomatch hheld.symm.trans hdheld
    · obtain ⟨m, hmade, hm⟩ := Option.bind_eq_some_iff.mp (horder.holds i d lock hd hdheld)
      have hlt := (List.getElem?_eq_some_iff.mp hmade).1
      rw [Locks.holder?, List.getElem?_append_left hlt, hmade]
      exact hm

/-- A caller looks the lock of its key up. -/
theorem refer (horder : Orderly l callers) (hget : callers[who]? = some c) (next : Caller α)
    (hkey : next.key = c.key) (hnone : c.lock? = none)
    (hlock : next.lock? = some (l.refer c.key).2) (hheld : next.held? = none) :
    Orderly (l.refer c.key).1 (callers.set who next) := by
  unfold Locks.refer at hlock ⊢
  split
  · next lock hknown =>
    simp only [hknown] at hlock
    refine horder.update hget next hkey lock Lock.refer ?_ ?_ ?_ (fun _ _ _ _ hm => hm) ?_
    · rw [hlock]
      rintro other ⟨⟩
      exact hknown
    · intro other hother
      rw [hlock, hnone]
      simp [hother]
    · intro m _ _
      rw [hlock, hnone]
      simp [Lock.refer]
    · rw [hheld]
      exact nofun
  · next hunknown =>
    simp only [hunknown] at hlock
    exact horder.make hget next hkey hnone hunknown hlock hheld

theorem ask (horder : Orderly l callers) (hget : callers[who]? = some c) (next : Caller α)
    (hkey : next.key = c.key) {lock : Nat} (hlock : c.lock? = some lock)
    (hsame : next.lock? = some lock) (hheld : next.held? = none) :
    Orderly (l.ask lock who) (callers.set who next) := by
  refine horder.update hget next hkey lock (fun m => m.ask who) ?_ ?_ ?_ ?_ ?_
  · rw [hsame, ← hlock]
    exact fun other hother => horder.referred who c other hget hother
  · exact fun _ _ => by rw [hsame, hlock]
  · intro m _ _
    simp [hsame, hlock]
  · intro m i _ _ hm
    exact Lock.holder_ask hm
  · rw [hheld]
    exact nofun

/-- Two callers that hold one lock are the same. -/
theorem holder_unique (horder : Orderly l callers) (hget : callers[who]? = some c) {other : Nat}
    {d : Caller α} (hother : callers[other]? = some d) {lock : Nat} (hheld : c.held? = some lock)
    (hheld' : d.held? = some lock) : other = who :=
  Option.some.inj ((horder.holds other d lock hother hheld').symm.trans
    (horder.holds who c lock hget hheld))

/-- A caller gives up its reference to a lock. -/
theorem forget (horder : Orderly l callers) (hget : callers[who]? = some c) (next : Caller α)
    (hkey : next.key = c.key) {lock : Nat} (hlock : c.lock? = some lock)
    (hnone : next.lock? = none) (f : Lock → Lock)
    (hreferences : ∀ m, (f m).references = m.references)
    (hholder : ∀ m i, i ≠ who → (∃ d, callers[i]? = some d ∧ d.held? = some lock) →
      m.holder = some i → (f m).holder = some i) :
    Orderly (l.update lock fun m => (f m).forget) (callers.set who next) := by
  refine horder.update hget next hkey lock (fun m => (f m).forget) ?_ ?_ ?_ hholder ?_
  · rw [hnone]
    exact nofun
  · intro other hother
    rw [hnone, hlock]
    simp [hother]
  · intro m _ hcount
    have hpos := count_pos hget hlock
    rw [hnone, hlock]
    simp only [Lock.forget, hreferences, Option.toList_some, Option.toList_none,
      List.count_singleton_self, List.count_nil]
    omega
  · intro other hother
    rw [Caller.lock?_of_held? hother] at hnone
    exact nomatch hnone

/-- A holder releases its lock. -/
theorem release (horder : Orderly l callers) (hget : callers[who]? = some c) (next : Caller α)
    (hkey : next.key = c.key) {lock : Nat} (hheld : c.held? = some lock)
    (hnone : next.lock? = none) :
    Orderly (l.release c.key lock).1 (callers.set who next) := by
  refine tidy ?_ c.key
  -- Another caller in a phase of a holder would be the same caller.
  refine horder.forget hget next hkey (Caller.lock?_of_held? hheld) hnone Lock.handOver
    (fun m => m.references_handOver) ?_
  rintro m i hi ⟨d, hd, hdheld⟩ -
  exact absurd (horder.holder_unique hget hd hheld hdheld) hi

/-- A caller leaves that queues for its lock, or to which the lock was handed since its last
turn. -/
theorem leave (horder : Orderly l callers) (hget : callers[who]? = some c) (next : Caller α)
    (hkey : next.key = c.key) {lock : Nat} (hlock : c.lock? = some lock)
    (hnone : next.lock? = none) :
    Orderly (l.leave lock who).1 (callers.set who next) :=
  horder.forget hget next hkey hlock hnone (fun m => m.leave who) (fun m => m.references_leave who)
    fun _ _ hi _ hm => Lock.holder_leave hm hi

/-- Every move of a caller preserves the invariant. -/
theorem move {key : String} {phase : Phase α} {l' : Locks} {next : Option (Phase α)}
    (horder : Orderly l callers) (hget : callers[who]? = some { key, phase? := some phase })
    (hmove : LockMove who key l phase l' next) :
    Orderly l' (callers.set who { key, phase? := next }) := by
  cases hmove with
  | keep _ hlock hheld => exact horder.keep hget { key, phase? := next } rfl hlock hheld
  | refer hlock =>
      exact horder.refer hget { key, phase? := some (.queueing (l.refer key).2) } rfl hlock rfl rfl
  | ask lock hphase =>
      subst hphase
      exact horder.ask hget { key, phase? := some (.waiting lock) } rfl rfl rfl rfl
  | release lock hheld _ hnext =>
      exact horder.release hget { key, phase? := next } rfl hheld hnext
  | leave lock hlock _ => exact horder.leave hget { key, phase? := none } rfl hlock rfl

end Orderly

end Cache
end SupplierGateway
