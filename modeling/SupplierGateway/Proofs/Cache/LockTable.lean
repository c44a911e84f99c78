import SupplierGateway.Proofs.Cache.SingleFlight

/-!
# Locks that stay in the table

A lock is in the table while a caller refers to it, and a holder that releases it removes it if no
other caller refers to it.  A caller that is dropped while it waits does not remove the lock.  If it
is the last that refers to the lock, the lock stays in the table until another caller of the key
releases it.

* `Callers.Refers` — a caller refers to the lock of a key;
* `Callers.Stranded` — the table has a lock to which no caller refers;
* `Callers.Forsakes` — the last caller that refers to a lock is dropped while it waits;
* `Guarded.stranded_step` — the locks without referrers after an event;
* `Callers.stranded_iff` — a lock is stranded iff it was forsaken and no caller refers to it since;
* `Callers.lock_strands` — a lock can be stranded when all callers are done or dropped.
-/

namespace SupplierGateway
namespace Cache

variable {α : Type}

/-! ## The table -/

namespace Locks

variable {l : Locks} {key other : String}

/-- Removing the lock of a key without referrers does not change the locks of other keys. -/
theorem get?_tidy_of_ne (hother : other ≠ key) : (l.tidy key).get? other = l.get? other := by
  unfold tidy
  split
  · split
    · exact lookup_filter_of_ne l.table hother
    · rfl
  · rfl

/-- A lock that is not removed has a reference besides that of the table. -/
theorem tidy_of_get? {lock : Nat} (hget : (l.tidy key).get? key = some lock) :
    l.tidy key = l ∧ l.made[lock]?.map Lock.references ≠ some 1 := by
  unfold tidy at hget ⊢
  split at hget
  · next found hfound =>
    split at hget
    · exact absurd rfl (lookup_of_lookup_filter hget).1
    · next hmany =>
      obtain rfl := Option.some.inj (hfound.symm.trans hget)
      exact ⟨if_neg hmany, hmany⟩
  · next hnone => exact nomatch hnone.symm.trans hget

/-- Looking up the lock of a key does not change the locks of other keys. -/
theorem get?_refer_of_ne (hother : other ≠ key) : (l.refer key).1.get? other = l.get? other := by
  unfold refer
  split
  · rfl
  · have hbeq : (other == key) = false := beq_eq_false_iff_ne.mpr hother
    show List.lookup other ((key, l.made.length) :: l.table) = _
    rw [List.lookup_cons, hbeq]
    rfl

end Locks

namespace Callers

/-! ## Referred and stranded locks -/

/-- A caller refers to the lock of a key: it is about to ask for it, waits for it or holds it. -/
def Refers (s : Callers α) (key : String) (who : Nat) : Prop :=
  ∃ c lock, s.callers[who]? = some c ∧ c.key = key ∧ c.lock? = some lock

/-- The table has a lock of the key, and no caller refers to it. -/
def Stranded (s : Callers α) (key : String) : Prop :=
  (s.cache.locks.get? key).isSome = true ∧ ∀ who, ¬ s.Refers key who

/-- A caller is dropped that asks or waits for the lock of the key, and no other caller refers to
the lock. -/
def Forsakes (s : Callers α) (e : Event α) (key : String) : Prop :=
  ∃ who c, e = .drop who ∧ s.callers[who]? = some c ∧ c.key = key ∧ c.lock?.isSome = true ∧
    c.held? = none ∧ ∀ other, s.Refers key other → other = who

variable {s : Callers α} {key : String} {e : Event α}

/-- The lock to which a caller refers is in the table. -/
theorem Guarded.get?_of_refers (hguarded : s.Guarded) {who : Nat} (hrefers : s.Refers key who) :
    (s.cache.locks.get? key).isSome = true := by
  obtain ⟨c, lock, hget, rfl, hlock⟩ := hrefers
  rw [hguarded.orderly.referred who c lock hget hlock]
  rfl

/-- A lock of the table to which no caller refers has one reference, that of the table. -/
theorem Guarded.references_of_unreferred (hguarded : s.Guarded) {lock : Nat}
    (hlock : s.cache.locks.get? key = some lock) (hnone : ∀ who, ¬ s.Refers key who) :
    s.cache.locks.made[lock]?.map Lock.references = some 1 := by
  obtain ⟨m, hmade, hcount⟩ := hguarded.orderly.counted key lock hlock
  have hzero : (referrers s.callers).count lock = 0 := by
    rw [List.count_eq_zero]
    intro hmem
    obtain ⟨c, hc, hrefers⟩ := List.mem_filterMap.mp hmem
    obtain ⟨who, hget⟩ := List.getElem?_of_mem hc
    have hkey : c.key = key :=
      hguarded.orderly.distinct _ _ lock (hguarded.orderly.referred who c lock hget hrefers) hlock
    exact hnone who ⟨c, lock, hget, hkey, hrefers⟩
  rw [hmade, Option.map_some, hcount, hzero]

/-! ## One event -/

/-- A caller has no phase only after it was dropped. -/
theorem drop_of_gone {who : Nat} {phase : Phase α}
    (hget : s.callers[who]? = some { key, phase? := some phase })
    (hgone : (s.step e).callers[who]? = some { key, phase? := none }) : e = .drop who := by
  have hset : ∀ {i : Nat} {k : String} {p : Phase α} (next : Phase α),
      s.callers[i]? = some { key := k, phase? := some p } →
      (s.setPhase i (some next)).callers[who]? ≠ some { key, phase? := none } := by
    intro i k p next hi hsome
    rw [s.callers_setPhase hi] at hsome
    rcases getElem?_set_cases hsome with ⟨-, hnew⟩ | ⟨-, hold⟩
    · cases hnew
    · cases hget.symm.trans hold
  have hsame : s.callers[who]? ≠ some { key, phase? := none } := by
    rw [hget]
    intro hsome
    cases hsome
  cases e with
  | advance i =>
      simp only [step, turn, advance] at hgone
      split at hgone
      · next hi => exact absurd hgone (hset _ hi)
      · exact absurd hgone hsame
  | loaded i result =>
      simp only [step, turn, endLoad] at hgone
      split at hgone
      · next hi => exact absurd hgone (hset _ hi)
      · exact absurd hgone hsame
  | drop i =>
      simp only [step, turn, drop] at hgone
      split at hgone
      · exact absurd hgone hsame
      · next k p _ hi =>
        have hsome : (s.setPhase i none).callers[who]? = some { key, phase? := none } := hgone
        rw [s.callers_setPhase hi] at hsome
        rcases getElem?_set_cases hsome with ⟨rfl, -⟩ | ⟨-, hold⟩
        · rfl
        · cases hget.symm.trans hold
      · exact absurd hgone hsame
  | wait | store | purge | clear | replace => exact absurd hgone hsame

/-- If no caller refers to the lock of a key after a move, the lock stays in the table unless the
moving caller held it. -/
theorem Guarded.entry_of_move (hafter : (s.step e).Guarded) {who : Nat} {k : String}
    {phase : Phase α} {next : Option (Phase α)} (hwho : who < s.callers.length)
    (hcallers : (s.step e).callers = s.callers.set who { key := k, phase? := next })
    (hmove : LockMove who k s.cache.locks phase (s.step e).cache.locks next)
    (hnone : ∀ i, ¬ (s.step e).Refers key i) :
    ((s.step e).cache.locks.get? key).isSome = true ↔
      (s.cache.locks.get? key).isSome = true ∧ (k = key → phase.held? = none) := by
  have hmoved : k = key → next.bind Phase.lock? = none := by
    rintro rfl
    refine Option.eq_none_iff_forall_ne_some.mpr fun lock hlock => ?_
    refine hnone who ⟨{ key := k, phase? := next }, lock, ?_, rfl, hlock⟩
    rw [hcallers, List.getElem?_set_self hwho]
  have hentry : ∀ lock, (s.step e).cache.locks.get? key = some lock →
      (s.step e).cache.locks.made[lock]?.map Lock.references = some 1 :=
    fun lock hlock => hafter.references_of_unreferred hlock hnone
  generalize (s.step e).cache.locks = l' at hmove hentry
  -- No caller refers to the lock afterwards, so a move after which the caller refers to a lock
  -- concerns another key.
  cases hmove with
  | keep _ hlock =>
      refine (and_iff_left fun hkey => ?_).symm
      refine Option.eq_none_iff_forall_ne_some.mpr fun lock hheld => ?_
      have hsome := hlock.trans (Phase.lock?_of_held? hheld)
      cases (hmoved hkey).symm.trans hsome
  | refer hlock =>
      have hother : key ≠ k := fun hkey => nomatch hmoved hkey.symm
      rw [Locks.get?_refer_of_ne hother]
      exact (and_iff_left fun hkey => absurd hkey.symm hother).symm
  | ask lock hphase =>
      have hother : key ≠ k := fun hkey => nomatch hmoved hkey.symm
      exact (and_iff_left fun hkey => absurd hkey.symm hother).symm
  | release lock hheld _ hnext =>
      by_cases hkey : k = key
      · subst hkey
        refine iff_of_false (fun hsome => ?_) fun ⟨_, hnot⟩ => nomatch hheld.symm.trans (hnot rfl)
        -- A lock that is still there would have a reference besides that of the table.
        obtain ⟨found, hfound⟩ := Option.isSome_iff_exists.mp hsome
        obtain ⟨hsame, hmany⟩ := Locks.tidy_of_get? hfound
        have hsingle := hentry found hfound
        rw [Locks.release, hsame] at hsingle
        exact hmany hsingle
      · rw [Locks.release, Locks.get?_tidy_of_ne (Ne.symm hkey)]
        exact (and_iff_left fun hsame => absurd hsame hkey).symm
  | leave lock hlock hheld => exact (and_iff_left fun _ => hheld).symm

/-- A caller that does not hold the lock to which it refers gives up its reference only when it is
dropped. -/
theorem gone_of_move {who : Nat} {k : String} {l l' : Locks} {phase : Phase α}
    {next : Option (Phase α)} (hmove : LockMove who k l phase l' next) {lock : Nat}
    (hlock : phase.lock? = some lock) (hheld : phase.held? = none)
    (hnext : next.bind Phase.lock? = none) : next = none := by
  cases hmove with
  | keep _ hsame => cases (hnext.symm.trans hsame).trans hlock
  | refer hnone => cases hnone.symm.trans hlock
  | ask n => cases hnext
  | release n hholds => cases hheld.symm.trans hholds
  | leave => rfl

/-- A caller that refers to the lock of a key after a move is the moving caller or did so before. -/
theorem refers_of_move {who : Nat} {k : String} {next : Option (Phase α)}
    (hcallers : (s.step e).callers = s.callers.set who { key := k, phase? := next }) {i : Nat}
    (hi : i ≠ who) : (s.step e).Refers key i ↔ s.Refers key i := by
  rw [Refers, Refers, hcallers, List.getElem?_set_ne (Ne.symm hi)]

/-- A lock is stranded after an event iff no caller refers to it then, and it was stranded before or
was forsaken. -/
theorem Guarded.stranded_step (hguarded : s.Guarded) (e : Event α) (key : String) :
    (s.step e).Stranded key ↔
      (∀ who, ¬ (s.step e).Refers key who) ∧ (s.Stranded key ∨ s.Forsakes e key) := by
  rw [Stranded, and_comm]
  refine and_congr_right fun hnone => ?_
  rcases s.step_cases e with
    ⟨hcallers, hlocks⟩ | ⟨who, k, phase, next, hget, hcallers, hmove, hnext⟩
  · have hsame : ∀ who, ¬ s.Refers key who := by
      intro who hrefers
      refine hnone who ?_
      rw [Refers, hcallers]
      exact hrefers
    rw [hlocks]
    constructor
    · exact fun hentry => .inl ⟨hentry, hsame⟩
    · rintro (hstranded | ⟨who, c, -, hget, hkey, hlock, -⟩)
      · exact hstranded.1
      · obtain ⟨lock, hlock⟩ := Option.isSome_iff_exists.mp hlock
        exact absurd ⟨c, lock, hget, hkey, hlock⟩ (hsame who)
  · have hwho := (List.getElem?_eq_some_iff.mp hget).1
    have hothers : ∀ i, i ≠ who → ¬ s.Refers key i := fun i hi hrefers =>
      hnone i ((refers_of_move hcallers hi).mpr hrefers)
    rw [Guarded.entry_of_move (hguarded.step e) hwho hcallers hmove hnone]
    constructor
    · rintro ⟨hentry, hheld⟩
      -- Either the caller was the last to refer to the lock, or no caller did.
      by_cases hrefers : s.Refers key who
      · obtain ⟨c, lock, hc, rfl, hlock⟩ := hrefers
        obtain rfl := Option.some.inj (hget.symm.trans hc)
        have hafter : (s.step e).callers[who]? = some { key := k, phase? := next } := by
          rw [hcallers, List.getElem?_set_self hwho]
        have hmoved : next.bind Phase.lock? = none :=
          Option.eq_none_iff_forall_ne_some.mpr fun n hn => hnone who ⟨_, n, hafter, rfl, hn⟩
        obtain rfl := gone_of_move hmove hlock (hheld rfl) hmoved
        refine .inr ⟨who, _, drop_of_gone hget hafter, hget, rfl,
          Option.isSome_iff_exists.mpr ⟨lock, hlock⟩, hheld rfl, fun i hi => ?_⟩
        exact Classical.byContradiction fun hother => hothers i hother hi
      · refine .inl ⟨hentry, fun i hi => ?_⟩
        by_cases hsame : i = who
        · exact hrefers (hsame ▸ hi)
        · exact hothers i hsame hi
    · rintro (⟨hentry, hunreferred⟩ | ⟨i, c, -, hi, rfl, hlock, hheld, -⟩)
      · refine ⟨hentry, fun hkey => Option.eq_none_iff_forall_ne_some.mpr fun lock hheld => ?_⟩
        exact hunreferred who ⟨_, lock, hget, hkey, Phase.lock?_of_held? hheld⟩
      · obtain ⟨lock, hlock⟩ := Option.isSome_iff_exists.mp hlock
        have hrefers : s.Refers c.key i := ⟨c, lock, hi, rfl, hlock⟩
        obtain rfl : i = who := Classical.byContradiction fun hother => hothers i hother hrefers
        obtain rfl := Option.some.inj (hget.symm.trans hi)
        exact ⟨hguarded.get?_of_refers hrefers, fun _ => hheld⟩

/-! ## All events -/

/-- With the last event of `earlier ++ [e]` the lock of a key was forsaken, and no caller refers to
it later. -/
structure LeftBehind (s : Callers α) (key : String) (earlier : List (Event α)) (e : Event α)
    (later : List (Event α)) : Prop where
  forsakes : (s.run earlier).Forsakes e key
  alone : ∀ prior, prior <+: later → ∀ who, ¬ (s.run (earlier ++ e :: prior)).Refers key who

theorem Guarded.stranded_run (hguarded : s.Guarded) (events : List (Event α)) (key : String) :
    (s.run events).Stranded key ↔
      (s.Stranded key ∧ ∀ prior, prior <+: events → ∀ who, ¬ (s.run prior).Refers key who) ∨
        ∃ earlier e later, events = earlier ++ e :: later ∧ s.LeftBehind key earlier e later := by
  -- Either the first event leaves the lock behind, until a caller refers to it again, or a later
  -- event does.
  induction events generalizing s with
  | nil =>
      constructor
      · refine fun hstranded => .inl ⟨hstranded, fun prior hprior => ?_⟩
        obtain rfl := List.prefix_nil.mp hprior
        exact hstranded.2
      · rintro (⟨hstranded, -⟩ | ⟨earlier, e, later, hsplit, -⟩)
        · exact hstranded
        · simp at hsplit
  | cons e events ih =>
      rw [run_cons, ih (hguarded.step e), hguarded.stranded_step]
      constructor
      · rintro (⟨⟨hnone, hbefore⟩, halone⟩ | ⟨earlier, f, later, rfl, hforsakes, halone⟩)
        · rcases hbefore with hstranded | hforsakes
          · refine .inl ⟨hstranded, fun prior hprior => ?_⟩
            rcases List.prefix_cons_iff.mp hprior with rfl | ⟨rest, rfl, hrest⟩
            · exact hstranded.2
            · exact halone rest hrest
          · exact .inr ⟨[], e, events, rfl, hforsakes, halone⟩
        · exact .inr ⟨e :: earlier, f, later, rfl, hforsakes, halone⟩
      · rintro (⟨hstranded, halone⟩ | ⟨earlier, f, later, hsplit, hforsakes, halone⟩)
        · have hlater : ∀ prior, prior <+: events → ∀ who, ¬ ((s.step e).run prior).Refers key who :=
            fun prior hprior => halone (e :: prior) (List.cons_prefix_cons.mpr ⟨rfl, hprior⟩)
          exact .inl ⟨⟨hlater [] List.nil_prefix, .inl hstranded⟩, hlater⟩
        · cases earlier with
          | nil =>
              obtain ⟨rfl, rfl⟩ := List.cons.inj hsplit
              exact .inl ⟨⟨halone [] List.nil_prefix, .inr hforsakes⟩, halone⟩
          | cons first earlier =>
              obtain ⟨rfl, rfl⟩ := List.cons.inj hsplit
              exact .inr ⟨earlier, f, later, rfl, hforsakes, halone⟩

/-- After any events, a lock is stranded iff the last caller that referred to it was dropped while
it asked or waited, and no other caller has referred to it since. -/
theorem stranded_iff (hfresh : s.Fresh) (events : List (Event α)) (key : String) :
    (s.run events).Stranded key ↔
      ∃ earlier e later, events = earlier ++ e :: later ∧ s.LeftBehind key earlier e later := by
  rw [hfresh.guarded.stranded_run]
  refine or_iff_right fun ⟨⟨hentry, _⟩, _⟩ => ?_
  rw [hfresh.locks] at hentry
  cases hentry

/-- If no lock was left behind, a lock is in the table iff a caller refers to it. -/
theorem entry_iff_refers (hfresh : s.Fresh) {events : List (Event α)} {key : String}
    (hkept : ∀ earlier e later, events = earlier ++ e :: later →
      ¬ (s.run earlier).Forsakes e key) :
    ((s.run events).cache.locks.get? key).isSome = true ↔ ∃ who, (s.run events).Refers key who := by
  constructor
  · intro hentry
    refine Classical.byContradiction fun hnone => ?_
    obtain ⟨earlier, e, later, hsplit, hleft⟩ :=
      (stranded_iff hfresh events key).mp ⟨hentry, fun who hrefers => hnone ⟨who, hrefers⟩⟩
    exact hkept earlier e later hsplit hleft.forsakes
  · exact fun ⟨who, hrefers⟩ => (hfresh.guarded.run events).get?_of_refers hrefers

/-- One caller loads and another waits for the lock.  Then both are dropped, the one that loads first,
so that the lock is handed to the other. -/
def bothDropped : List (Event Bool) :=
  List.replicate 5 (.advance 0) ++ List.replicate 3 (.advance 1) ++ [.drop 0, .drop 1]

/-- A lock can be stranded when all callers are dropped. -/
theorem lock_strands :
    twoCallers.Fresh ∧ (∀ c ∈ (twoCallers.run bothDropped).callers, c.phase? = none) ∧
      (twoCallers.run bothDropped).Stranded "k" := by
  have hgone : ∀ c ∈ (twoCallers.run bothDropped).callers, c.phase? = none := by decide
  refine ⟨⟨rfl, rfl, by simp [twoCallers]⟩, hgone, rfl, ?_⟩
  rintro who ⟨c, lock, hget, -, hlock⟩
  rw [Caller.lock?, hgone c (List.mem_of_getElem? hget)] at hlock
  cases hlock

end Callers

end Cache
end SupplierGateway
