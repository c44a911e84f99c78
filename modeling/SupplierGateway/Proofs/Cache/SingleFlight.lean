import Mathlib.Data.List.Induction
import SupplierGateway.Proofs.Cache.FlightLocks
import SupplierGateway.Proofs.Cache.Stored

/-!
# Single-flight

Of the callers that look up one key, at most one is at any moment between the start of its load and
the release of its lock, and while the stored value is alive no load of the key starts.

* `Callers.step_cases` — an event moves one caller or none;
* `Callers.Guarded` — the invariant of a cache with single-flight: locks and callers are orderly,
  and a caller that loads or stores holds a lock;
* `Callers.Settled` — the invariant after a load was stored: no caller is on the way to a load of
  the key, and the bytes under the key can be read;
* `Callers.single_flight` — both parts of the property.
-/

namespace SupplierGateway
namespace Cache

variable {α : Type}


theorem singleFlight_storeText (c : Cache) (clockMs : Nat) (key : String)
    (text : Except String String) (ttl : Lifetime) :
    (c.storeText clockMs key text ttl).1.singleFlight = c.singleFlight := by
  unfold storeText
  split <;> rfl

theorem singleFlight_advance (codec : Codec α) (clockMs who : Nat) (key : String) (c : Cache)
    (phase : Phase α) :
    (c.advance codec clockMs who key phase).cache.singleFlight = c.singleFlight := by
  cases phase with
  | reading =>
      simp only [advance]
      split <;> rfl
  | rereading lock =>
      simp only [advance]
      split <;> rfl
  | waiting lock =>
      simp only [advance]
      split <;> rfl
  | storing lock? a ttl =>
      have hstore := singleFlight_storeText c clockMs key (codec.encode a) ttl
      simp only [advance]
      split
      · next hstored => rw [hstored] at hstore; exact hstore
      · next hstored => rw [hstored] at hstore; exact hstore
      · next hstored => rw [hstored] at hstore; exact hstore
  | leaving lock? result => cases lock? <;> rfl
  | sweeping | resweeping | asking | queueing | loading | done => rfl

theorem singleFlight_drop (who : Nat) (key : String) (c : Cache) (phase : Phase α) :
    (c.drop who key phase).1.singleFlight = c.singleFlight := by
  unfold drop
  split
  · rfl
  · rfl
  · split <;> rfl

theorem backend_drop (who : Nat) (key : String) (c : Cache) (phase : Phase α) :
    (c.drop who key phase).1.backend = c.backend := by
  unfold drop
  split
  · rfl
  · rfl
  · split <;> rfl

namespace Callers

/-! ## The effect of an event -/

theorem callers_setPhase (s : Callers α) {who : Nat} {key : String} {phase? : Option (Phase α)}
    (hget : s.callers[who]? = some { key, phase? }) (next : Option (Phase α)) :
    (s.setPhase who next).callers = s.callers.set who { key, phase? := next } := by
  obtain ⟨hwho, hc⟩ := List.getElem?_eq_some_iff.mp hget
  rw [setPhase, List.modify_eq_set_getElem?, hget]
  rfl

@[simp] theorem codec_step (s : Callers α) (e : Event α) : (s.step e).codec = s.codec := by
  cases e with
  | advance who =>
      simp only [step, turn, advance]
      split <;> rfl
  | loaded who result =>
      simp only [step, turn, endLoad]
      split <;> rfl
  | drop who =>
      simp only [step, turn, drop]
      split <;> rfl
  | wait | store | purge | clear | replace => rfl

@[simp] theorem codec_run (s : Callers α) (events : List (Event α)) :
    (s.run events).codec = s.codec := by
  induction events generalizing s with
  | nil => rfl
  | cons e events ih => exact (ih (s.step e)).trans (s.codec_step e)

@[simp] theorem singleFlight_step (s : Callers α) (e : Event α) :
    (s.step e).cache.singleFlight = s.cache.singleFlight := by
  cases e with
  | advance who =>
      simp only [step, turn, advance]
      split
      · exact singleFlight_advance ..
      · rfl
  | loaded who result =>
      simp only [step, turn, endLoad]
      split <;> rfl
  | drop who =>
      simp only [step, turn, drop]
      split
      · rfl
      · exact singleFlight_drop ..
      · rfl
  | store key a ttl => exact singleFlight_storeText ..
  | wait | purge | clear | replace => rfl

/-- An event moves one caller, by a turn, the end of its load or its drop, or it changes neither
callers nor locks. -/
theorem step_cases (s : Callers α) (e : Event α) :
    ((s.step e).callers = s.callers ∧ (s.step e).cache.locks = s.cache.locks) ∨
    ∃ who key phase next,
      s.callers[who]? = some { key, phase? := some phase } ∧
      (s.step e).callers = s.callers.set who { key, phase? := next } ∧
      LockMove who key s.cache.locks phase (s.step e).cache.locks next ∧
      (next = some (s.cache.advance s.codec s.clockMs who key phase).phase ∨
        (∃ result, next = some (Cache.loaded key result phase).1) ∨ next = none) := by
  cases e with
  | advance who =>
      simp only [step, turn, advance]
      split
      · next key phase hget =>
        exact .inr ⟨who, key, phase, _, hget, s.callers_setPhase hget _,
          lockMove_advance s.codec s.clockMs who key s.cache phase, .inl rfl⟩
      · exact .inl ⟨rfl, rfl⟩
  | loaded who result =>
      simp only [step, turn, endLoad]
      split
      · next key phase hget =>
        exact .inr ⟨who, key, phase, _, hget, s.callers_setPhase hget _,
          lockMove_loaded who key key s.cache.locks result phase, .inr (.inl ⟨result, rfl⟩)⟩
      · exact .inl ⟨rfl, rfl⟩
  | drop who =>
      simp only [step, turn, drop]
      split
      · exact .inl ⟨rfl, rfl⟩
      · next key phase _ hget =>
        exact .inr ⟨who, key, phase, none, hget, s.callers_setPhase hget _,
          lockMove_drop who key s.cache phase, .inr (.inr rfl)⟩
      · exact .inl ⟨rfl, rfl⟩
  | store key a ttl => exact .inl ⟨rfl, locks_storeText ..⟩
  | wait | purge | clear | replace => exact .inl ⟨rfl, rfl⟩

/-! ## At most one caller of a key is in flight -/

/-- No caller has begun its lookup, and single-flight is on. -/
structure Fresh (s : Callers α) : Prop where
  singleFlight : s.cache.singleFlight = true
  locks : s.cache.locks = {}
  callers : ∀ c ∈ s.callers, c.phase? = some .reading

/-- A caller that loads or stores holds a lock. -/
def Locked (phase : Phase α) : Prop :=
  phase ≠ .loading none ∧ ∀ a ttl, phase ≠ .storing none a ttl

/-- The invariant of a cache with single-flight. -/
structure Guarded (s : Callers α) : Prop where
  singleFlight : s.cache.singleFlight = true
  orderly : Orderly s.cache.locks s.callers
  locked : ∀ (who : Nat) key phase, s.callers[who]? = some { key, phase? := some phase } →
    Locked phase

theorem Fresh.guarded {s : Callers α} (hfresh : s.Fresh) : s.Guarded where
  singleFlight := hfresh.singleFlight
  orderly := by
    rw [hfresh.locks]
    refine Orderly.start ?_
    intro c hc
    rw [Caller.lock?, hfresh.callers c hc]
    rfl
  locked who key phase hget := by
    have hreading := hfresh.callers _ (List.mem_of_getElem? hget)
    obtain rfl := Option.some.inj hreading
    simp [Locked]

/-- With single-flight no turn leads to a load without a lock. -/
theorem locked_advance {codec : Codec α} {clockMs who : Nat} {key : String} {c : Cache}
    (hsingle : c.singleFlight = true) {phase : Phase α} (hlocked : Locked phase) :
    Locked (c.advance codec clockMs who key phase).phase := by
  have hmiss : Locked (c.afterMiss : Phase α) := by
    rw [afterMiss, if_pos hsingle]
    simp [Locked]
  cases phase with
  | reading =>
      simp only [Cache.advance]
      split
      · simp [Locked]
      · exact hmiss
      · simp [Locked]
  | sweeping => exact hmiss
  | waiting lock =>
      simp only [Cache.advance]
      split <;> simp [Locked]
  | rereading lock =>
      simp only [Cache.advance]
      split <;> simp [Locked]
  | storing lock? a ttl =>
      simp only [Cache.advance]
      split <;> simp [Locked]
  | leaving lock? result => cases lock? <;> simp [Cache.advance, Locked]
  | loading lock? => exact hlocked
  | asking | queueing | resweeping | done => simp [Cache.advance, Locked]

/-- A load that ends leads to storing with the same lock, or not to storing. -/
theorem locked_loaded {key : String} {result : Attempt (α × Lifetime)} {phase : Phase α}
    (hlocked : Locked phase) : Locked (Cache.loaded key result phase).1 := by
  unfold Cache.loaded
  split
  · next lock? =>
    have hsome : lock? ≠ none := fun h => hlocked.1 (h ▸ rfl)
    split
    · split
      · exact ⟨nofun, nofun⟩
      · refine ⟨nofun, fun a ttl hphase => ?_⟩
        injection hphase with hlock
        exact hsome hlock
    · exact ⟨nofun, nofun⟩
    · exact ⟨nofun, nofun⟩
  · exact hlocked

theorem Guarded.step {s : Callers α} (hguarded : s.Guarded) (e : Event α) :
    (s.step e).Guarded := by
  have hsingle : (s.step e).cache.singleFlight = true :=
    (s.singleFlight_step e).trans hguarded.singleFlight
  rcases s.step_cases e with
    ⟨hcallers, hlocks⟩ | ⟨who, key, phase, next, hget, hcallers, hmove, hnext⟩
  · refine ⟨hsingle, ?_, ?_⟩
    · rw [hcallers, hlocks]
      exact hguarded.orderly
    · rw [hcallers]
      exact hguarded.locked
  · refine ⟨hsingle, ?_, ?_⟩
    · rw [hcallers]
      exact hguarded.orderly.move hget hmove
    · intro i k p hi
      rw [hcallers] at hi
      -- Only the caller that moved has another phase than before.
      rcases getElem?_set_cases hi with ⟨-, hnew⟩ | ⟨-, hold⟩
      · have hbefore := hguarded.locked who key phase hget
        obtain ⟨-, hp⟩ := Caller.mk.inj hnew
        rcases hnext with rfl | ⟨result, rfl⟩ | rfl
        · obtain rfl := Option.some.inj hp
          exact locked_advance hguarded.singleFlight hbefore
        · obtain rfl := Option.some.inj hp
          exact locked_loaded hbefore
        · exact nomatch hp
      · exact hguarded.locked i k p hold

theorem Guarded.run {s : Callers α} (hguarded : s.Guarded) (events : List (Event α)) :
    (s.run events).Guarded := by
  induction events generalizing s with
  | nil => exact hguarded
  | cons e events ih => exact ih (hguarded.step e)

/-- Between the start of its load and the release of its lock. -/
def InFlight : Phase α → Prop
  | .loading _ | .storing .. | .leaving (some _) _ => True
  | _ => False

/-- On the way to a load, without another read before it. -/
def Bound : Phase α → Prop
  | .resweeping _ | .loading _ | .storing .. => True
  | _ => False

/-- A caller that is in flight or on the way to a load holds a lock. -/
theorem held_of_locked {phase : Phase α} (hlocked : Locked phase)
    (hphase : InFlight phase ∨ Bound phase) : phase.held?.isSome := by
  cases phase with
  | loading lock? =>
      cases lock? with
      | none => exact absurd rfl hlocked.1
      | some lock => rfl
  | storing lock? a ttl =>
      cases lock? with
      | none => exact absurd rfl (hlocked.2 a ttl)
      | some lock => rfl
  | leaving lock? result =>
      cases lock? with
      | none => exact (hphase.elim id id).elim
      | some lock => rfl
  | resweeping lock => rfl
  | reading | sweeping | asking | queueing | waiting | rereading | done =>
      exact (hphase.elim id id).elim

/-- Of the callers of one key at most one holds its lock. -/
theorem Guarded.held_unique {s : Callers α} (hguarded : s.Guarded) {who other : Nat} {key : String}
    {phase phase' : Phase α} (hwho : s.callers[who]? = some { key, phase? := some phase })
    (hother : s.callers[other]? = some { key, phase? := some phase' })
    (hheld : phase.held?.isSome) (hheld' : phase'.held?.isSome) : other = who := by
  obtain ⟨lock, hlock⟩ := Option.isSome_iff_exists.mp hheld
  obtain ⟨lock', hlock'⟩ := Option.isSome_iff_exists.mp hheld'
  -- Both locks are the lock of the key, so they are one lock.
  have hkey := hguarded.orderly.referred who _ lock hwho (Phase.lock?_of_held? hlock)
  have hkey' := hguarded.orderly.referred other _ lock' hother (Phase.lock?_of_held? hlock')
  obtain rfl := Option.some.inj (hkey.symm.trans hkey')
  exact hguarded.orderly.holder_unique hwho hother hlock hlock'

/-! ## No load while the stored value is alive -/

/-- The invariant after a load was stored. -/
structure Settled (s : Callers α) (key : String) : Prop where
  singleFlight : s.cache.singleFlight = true
  /-- Every caller reads the key before it loads it. -/
  unbound : ∀ (who : Nat) phase, s.callers[who]? = some { key, phase? := some phase } →
    ¬ Bound phase
  readable : s.codec.Readable s.cache.backend key

/-- A turn does not lead to a load while the entry of the key is alive. -/
theorem unbound_advance {codec : Codec α} (hcodec : codec.Faithful) {clockMs who : Nat}
    {key : String} {c : Cache} (hsingle : c.singleFlight = true)
    (hreadable : codec.Readable c.backend key) (halive : c.backend.Alive clockMs key)
    {phase : Phase α} (hunbound : ¬ Bound phase) :
    ¬ Bound (c.advance codec clockMs who key phase).phase := by
  obtain ⟨a, entries, hglance⟩ := glance_of_alive hcodec hreadable halive
  cases phase with
  | reading =>
      simp only [Cache.advance, hglance]
      exact not_false
  | sweeping =>
      simp only [Cache.advance, afterMiss, if_pos hsingle]
      exact not_false
  | waiting lock =>
      simp only [Cache.advance]
      split <;> exact not_false
  | rereading lock =>
      simp only [Cache.advance, hglance]
      exact not_false
  | leaving lock? result => cases lock? <;> exact not_false
  | resweeping | loading | storing => exact absurd trivial hunbound
  | asking | queueing | done => exact not_false

theorem unbound_loaded {key : String} {result : Attempt (α × Lifetime)} {phase : Phase α}
    (hunbound : ¬ Bound phase) : ¬ Bound (Cache.loaded key result phase).1 := by
  unfold Cache.loaded
  split
  · exact absurd trivial hunbound
  · exact hunbound

/-- A store that replaces another one has only bytes under the key that were written as a value. -/
def Event.Spares (codec : Codec α) (key : String) : Event α → Prop
  | .replace backend => codec.Readable backend key
  | _ => True

/-- While the entry of the key is alive, no event leads to a load of the key. -/
theorem Settled.unbound_step {s : Callers α} {key : String} (hsettled : s.Settled key)
    (hcodec : s.codec.Faithful) (halive : s.cache.backend.Alive s.clockMs key) (e : Event α)
    {who : Nat} {phase : Phase α}
    (hwho : (s.step e).callers[who]? = some { key, phase? := some phase }) : ¬ Bound phase := by
  rcases s.step_cases e with ⟨hcallers, -⟩ | ⟨mover, k, before, next, hget, hcallers, -, hnext⟩
  · rw [hcallers] at hwho
    exact hsettled.unbound who phase hwho
  · rw [hcallers] at hwho
    rcases getElem?_set_cases hwho with ⟨rfl, hnew⟩ | ⟨-, hold⟩
    · obtain ⟨rfl, hp⟩ := Caller.mk.inj hnew
      have hbefore := hsettled.unbound who before hget
      rcases hnext with rfl | ⟨result, rfl⟩ | rfl
      · obtain rfl := Option.some.inj hp
        exact unbound_advance hcodec hsettled.singleFlight hsettled.readable halive hbefore
      · obtain rfl := Option.some.inj hp
        exact unbound_loaded hbefore
      · exact nomatch hp
    · exact hsettled.unbound who phase hold

/-- All bytes under the key can be read after an event. -/
theorem readable_step {s : Callers α} {key : String}
    (hreadable : s.codec.Readable s.cache.backend key) {e : Event α}
    (hspares : e.Spares s.codec key) : s.codec.Readable (s.step e).cache.backend key := by
  cases e with
  | advance who =>
      simp only [step, turn, advance]
      split
      · exact readable_advance hreadable _ _ _ _
      · exact hreadable
  | loaded who result =>
      simp only [step, turn, endLoad]
      split <;> exact hreadable
  | drop who =>
      simp only [step, turn, drop]
      split
      · exact hreadable
      · next key phase _ hget =>
        have hbackend := backend_drop who key s.cache phase
        exact hbackend ▸ hreadable
      · exact hreadable
  | store other a ttl => exact readable_storeText hreadable _ _ _ _
  | purge => exact fun entry hentry => hreadable entry (List.mem_filter.mp hentry).1
  | clear => exact fun entry hentry => nomatch hentry
  | replace backend => exact hspares
  | wait ms => exact hreadable

theorem Settled.step {s : Callers α} {key : String} (hsettled : s.Settled key)
    (hcodec : s.codec.Faithful) (halive : s.cache.backend.Alive s.clockMs key) {e : Event α}
    (hspares : e.Spares s.codec key) : (s.step e).Settled key where
  singleFlight := (s.singleFlight_step e).trans hsettled.singleFlight
  unbound _ _ hwho := hsettled.unbound_step hcodec halive e hwho
  readable := by
    rw [codec_step]
    exact readable_step hsettled.readable hspares

theorem Settled.run {s : Callers α} {key : String} (hsettled : s.Settled key)
    (hcodec : s.codec.Faithful) {events : List (Event α)}
    (hspares : ∀ e ∈ events, e.Spares s.codec key)
    (halive : ∀ prior, prior <+: events →
      (s.run prior).cache.backend.Alive (s.run prior).clockMs key) :
    (s.run events).Settled key := by
  induction events generalizing s with
  | nil => exact hsettled
  | cons e events ih =>
      have hnow : s.cache.backend.Alive s.clockMs key := halive [] List.nil_prefix
      have hnext := hsettled.step hcodec hnow (hspares e List.mem_cons_self)
      refine ih hnext ?_ ?_ ?_
      · rw [codec_step]
        exact hcodec
      · intro f hf
        rw [codec_step]
        exact hspares f (List.mem_cons_of_mem e hf)
      · intro prior hprior
        exact halive (e :: prior) (List.cons_prefix_cons.mpr ⟨rfl, hprior⟩)

/-- After a caller has stored a loaded value, no caller is on the way to a load of the key. -/
theorem Guarded.settled_of_stored {s : Callers α} (hguarded : s.Guarded) {who : Nat} {key : String}
    {lock? : Option Nat} {a : α} {ttl : Lifetime}
    (hget : s.callers[who]? = some { key, phase? := some (.storing lock? a ttl) })
    (hstored : (s.cache.storeText s.clockMs key (s.codec.encode a) ttl).2 = .ok ()) :
    (s.step (.advance who)).Settled key := by
  have hstore : s.cache.storeText s.clockMs key (s.codec.encode a) ttl =
      ((s.cache.storeText s.clockMs key (s.codec.encode a) ttl).1, .ok ()) := Prod.ext rfl hstored
  have hturn : s.cache.advance s.codec s.clockMs who key (.storing lock? a ttl) =
      { cache := (s.cache.storeText s.clockMs key (s.codec.encode a) ttl).1
        phase := .leaving lock? (.success a) } := by
    simp only [Cache.advance]
    rw [hstore]
  have hstep : s.step (.advance who) =
      { s.setPhase who (some (.leaving lock? (.success a))) with
        cache := (s.cache.storeText s.clockMs key (s.codec.encode a) ttl).1
        log := s.log ++ [] } := by
    simp only [Callers.step, turn, Callers.advance, hget, hturn]
  rw [hstep]
  refine ⟨?_, ?_, ?_⟩
  · exact (singleFlight_storeText ..).trans hguarded.singleFlight
  · intro other phase hother hbound
    simp only [s.callers_setPhase hget] at hother
    rcases getElem?_set_cases hother with ⟨-, hnew⟩ | ⟨hne, hold⟩
    · obtain ⟨-, hp⟩ := Caller.mk.inj hnew
      obtain rfl := Option.some.inj hp
      exact hbound
    · have hheld := held_of_locked (hguarded.locked who key _ hget) (.inr trivial)
      have hheld' := held_of_locked (hguarded.locked other key phase hold) (.inr hbound)
      exact hne (hguarded.held_unique hget hold hheld hheld')
  · exact readable_of_stored hstored

/-- A caller is loading the value of a key. -/
def Loads (s : Callers α) (key : String) (who : Nat) : Prop :=
  ∃ lock?, s.callers[who]? = some { key, phase? := some (.loading lock?) }

/-- With an event a caller starts to load the value of a key. -/
def StartsLoad (s : Callers α) (e : Event α) (key : String) : Prop :=
  ∃ who, ¬ s.Loads key who ∧ (s.step e).Loads key who

/-- Of the callers of a key at most one is at any moment between the start of its load and the
release of its lock.  Once one has stored a loaded value, no caller starts another load of the key
as long as the store can be read and the entry of the key has neither expired nor been removed. -/
theorem single_flight {s : Callers α} (hfresh : s.Fresh) (events : List (Event α)) (key : String) :
    (∀ (who other : Nat) (phase phase' : Phase α),
      (s.run events).callers[who]? = some { key, phase? := some phase } →
      (s.run events).callers[other]? = some { key, phase? := some phase' } →
      InFlight phase → InFlight phase' → other = who) ∧
    (s.codec.Faithful → ∀ (who : Nat) lock? a ttl,
      (s.run events).callers[who]? = some { key, phase? := some (.storing lock? a ttl) } →
      ((s.run events).cache.storeText (s.run events).clockMs key (s.codec.encode a) ttl).2 =
        .ok () →
      ∀ later, (∀ e ∈ later, e.Spares s.codec key) →
        (∀ prior, prior <+: later →
          ((s.run (events ++ .advance who :: prior)).cache.backend.Alive
            (s.run (events ++ .advance who :: prior)).clockMs key)) →
        ∀ e, ¬ (s.run (events ++ .advance who :: later)).StartsLoad e key) := by
  have hguarded := hfresh.guarded.run events
  constructor
  · intro who other phase phase' hwho hother hflight hflight'
    have hheld := held_of_locked (hguarded.locked who key phase hwho) (.inl hflight)
    have hheld' := held_of_locked (hguarded.locked other key phase' hother) (.inl hflight')
    exact hguarded.held_unique hwho hother hheld hheld'
  · intro hcodec who lock? a ttl hget hstored later hspares halive e
    -- The moment after the store is where the second invariant begins to hold.
    have hrun : ∀ more, s.run (events ++ .advance who :: more) =
        ((s.run events).step (.advance who)).run more := by
      intro more
      simp [run, List.foldl_append]
    have hcodec' : ((s.run events).step (.advance who)).codec = s.codec := by
      rw [codec_step, codec_run]
    have hsettled := hguarded.settled_of_stored hget (by rw [codec_run]; exact hstored)
    have hlater := hsettled.run (hcodec' ▸ hcodec) (hcodec' ▸ hspares) fun prior hprior =>
      hrun prior ▸ halive prior hprior
    rw [hrun]
    rintro ⟨other, -, lock?, hloads⟩
    refine hlater.unbound_step ?_ ?_ e hloads trivial
    · rw [codec_run, hcodec']
      exact hcodec
    · exact hrun later ▸ halive later List.prefix_rfl

/-- Two callers that are about to look up one key with a truth value. -/
def twoCallers : Callers Bool :=
  { codec := .ofJson .bool Json.Decoder.bool
    cache := { singleFlight := true }
    callers := [{ key := "k" }, { key := "k" }] }

/-- The first caller misses, takes the lock and loads. -/
def firstLoad : List (Event Bool) :=
  List.replicate 6 (.advance 0) ++ [.loaded 0 (.success (true, .ofSecs 60))]

/-- No load starts in the half minute after the first of two callers has stored a loaded value. -/
theorem no_load_after_half_a_minute :
    twoCallers.Fresh ∧
      ∀ e, ¬ (twoCallers.run (firstLoad ++ .advance 0 :: [.wait 30000])).StartsLoad e "k" := by
  have hfresh : twoCallers.Fresh := ⟨rfl, rfl, by simp [twoCallers]⟩
  have hfaithful : twoCallers.codec.Faithful := by
    rintro b text ⟨⟩
    cases b <;> decide +kernel
  have halive : ∀ prior, prior <+: [.wait 30000] →
      (twoCallers.run (firstLoad ++ .advance 0 :: prior)).cache.backend.Alive
        (twoCallers.run (firstLoad ++ .advance 0 :: prior)).clockMs "k" := by
    intro prior hprior
    rcases List.prefix_cons_iff.mp hprior with rfl | ⟨rest, rfl, hrest⟩
    · exact ⟨rfl, _, rfl, by decide⟩
    · rw [List.prefix_nil.mp hrest]
      exact ⟨rfl, _, rfl, by decide⟩
  have hget : (twoCallers.run firstLoad).callers[0]? =
      some { key := "k", phase? := some (.storing (some 0) true (.ofSecs 60)) } := rfl
  have hstored : ((twoCallers.run firstLoad).cache.storeText (twoCallers.run firstLoad).clockMs "k"
      (twoCallers.codec.encode true) (.ofSecs 60)).2 = .ok () := rfl
  have hspares : ∀ e ∈ [Event.wait 30000], e.Spares twoCallers.codec "k" := by
    intro e he
    rw [List.mem_singleton.mp he]
    exact trivial
  exact ⟨hfresh, (single_flight hfresh firstLoad "k").2 hfaithful 0 (some 0) true (.ofSecs 60)
    hget hstored [.wait 30000] hspares halive⟩

end Callers

end Cache
end SupplierGateway
