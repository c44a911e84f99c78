import SupplierGateway.Proofs.Cache.Progress
import SupplierGateway.Proofs.Cache.SingleFlight
import SupplierGateway.Proofs.Cache.Tidying

/-!
# The course of a call

A caller that looks up a key finds a value in the store, or loads one and may store it.  In any run
its result depends only on the entry that it read, or on the result with which its own load ended.

The history of a caller is a function of the events of a run: `loads` are the events with which it
began to load, and `handed` are the results with which its loads ended.

* `gather` — the concatenation of a list for each event of a run;
* `Callers.Found` — a caller read a value from an entry of its key;
* `Callers.Comes` — the ways in which a call obtains its result;
* `Callers.Course` — the invariant of a call, which relates its phase and its history;
* `Tracked.step` and `tracked_run` — every event preserves it;
* `storing_or_tidied` — the effect on the store of an event that concerns a caller.
-/

namespace SupplierGateway
namespace Cache

variable {α : Type}

/-! ## One turn -/

@[simp] theorem Backend.stores_sweep (b : Backend) (clockMs : Nat) (key : String) :
    (b.sweep clockMs key).stores = b.stores := by
  unfold Backend.sweep
  split
  · split <;> rfl
  · rfl

/-- A turn of a lookup that is not about to store a loaded value removes at most an expired entry
from the store. -/
theorem tidied_advance (codec : Codec α) (clockMs who : Nat) (key : String) (c : Cache)
    {phase : Phase α} (hphase : ∀ lock? a ttl, phase ≠ .storing lock? a ttl) :
    (c.advance codec clockMs who key phase).cache.backend.stores = c.backend.stores ∧
      Tidied clockMs c.backend (c.advance codec clockMs who key phase).cache.backend := by
  have hsame := Tidied.refl clockMs c.backend
  cases phase with
  | reading =>
      simp only [advance]
      split <;> exact ⟨rfl, hsame⟩
  | rereading lock =>
      simp only [advance]
      split <;> exact ⟨rfl, hsame⟩
  | waiting lock =>
      simp only [advance]
      split <;> exact ⟨rfl, hsame⟩
  | sweeping => exact ⟨c.backend.stores_sweep clockMs key, .sweep c.backend clockMs key⟩
  | resweeping lock => exact ⟨c.backend.stores_sweep clockMs key, .sweep c.backend clockMs key⟩
  | storing lock? a ttl => exact absurd rfl (hphase lock? a ttl)
  | leaving lock? result => cases lock? <;> exact ⟨rfl, hsame⟩
  | asking | queueing | loading | done => exact ⟨rfl, hsame⟩

/-- A lookup that has no value and does not load goes on without a value, begins to load, or leaves
with a value that it has read. -/
theorem advance_of_bare (codec : Codec α) (clockMs who : Nat) (key : String) (c : Cache)
    {phase : Phase α} (hbare : phase.isBare = true) (hphase : ∀ lock?, phase ≠ .loading lock?) :
    ((c.advance codec clockMs who key phase).phase.isBare = true ∧
        ∀ lock?, (c.advance codec clockMs who key phase).phase ≠ .loading lock?) ∨
      (∃ lock?, (c.advance codec clockMs who key phase).phase = .loading lock?) ∨
      ∃ lock? a, (c.advance codec clockMs who key phase).phase = .leaving lock? (.success a) ∧
        Usage.read { cache := c, clockMs } codec key = some a := by
  have hmiss : ((c.afterMiss : Phase α).isBare = true ∧
        ∀ lock?, (c.afterMiss : Phase α) ≠ .loading lock?) ∨
      ∃ lock?, (c.afterMiss : Phase α) = .loading lock? := by
    unfold afterMiss
    split
    · exact .inl ⟨rfl, by simp⟩
    · exact .inr ⟨none, rfl⟩
  cases phase with
  | reading =>
      simp only [advance]
      split
      · next a lines hglance =>
        exact .inr (.inr ⟨none, a, rfl, read_of_glance (s := { cache := c, clockMs }) hglance⟩)
      · exact hmiss.imp_right .inl
      · exact .inl ⟨rfl, by simp⟩
  | sweeping => exact hmiss.imp_right .inl
  | rereading lock =>
      simp only [advance]
      split
      · next a lines hglance =>
        exact .inr (.inr ⟨some lock, a, rfl, read_of_glance (s := { cache := c, clockMs }) hglance⟩)
      · exact .inr (.inl ⟨some lock, rfl⟩)
      · exact .inl ⟨rfl, by simp⟩
  | resweeping lock => exact .inr (.inl ⟨some lock, rfl⟩)
  | waiting lock =>
      simp only [advance]
      split <;> exact .inl ⟨rfl, by simp⟩
  | asking | queueing => exact .inl ⟨rfl, by simp [advance]⟩
  | loading lock? => exact absurd rfl (hphase lock?)
  | storing | leaving | done => cases hbare

/-- A lookup that stores a loaded value leaves with it, unless its expiry lies beyond the clock. -/
theorem advance_of_storing (codec : Codec α) (clockMs who : Nat) (key : String) (c : Cache)
    (lock? : Option Nat) (a : α) (ttl : Lifetime) :
    (c.advance codec clockMs who key (.storing lock? a ttl)).phase = .leaving lock? (.success a) ∨
      (c.advance codec clockMs who key (.storing lock? a ttl)).phase =
          .leaving lock? (.crash CacheError.beyondClock.message) ∧ BeyondClock clockMs ttl := by
  simp only [advance]
  split
  · exact .inl rfl
  · next hfault => exact .inr ⟨rfl, beyondClock_of_storeText hfault⟩
  · exact .inl rfl

namespace Callers

/-! ## The record of a run -/

/-- The lists that a function gives for the events of a run and the callers before each,
concatenated. -/
def gather {γ : Type} (f : Callers α → Event α → List γ) (s : Callers α) : List (Event α) → List γ
  | [] => []
  | e :: later => f s e ++ gather f (s.step e) later

theorem run_concat (s : Callers α) (events : List (Event α)) (e : Event α) :
    s.run (events ++ [e]) = (s.run events).step e :=
  List.foldl_concat ..

theorem gather_append {γ : Type} (f : Callers α → Event α → List γ) (s : Callers α)
    (earlier later : List (Event α)) :
    gather f s (earlier ++ later) = gather f s earlier ++ gather f (s.run earlier) later := by
  induction earlier generalizing s with
  | nil => rfl
  | cons e earlier ih => rw [List.cons_append, gather, gather, ih, List.append_assoc, run_cons]

/-- A caller is loading. -/
def isLoading (s : Callers α) (who : Nat) : Bool :=
  match s.phase? who with
  | some (.loading _) => true
  | _ => false

/-- The event, if a caller begins to load with it. -/
def beginning (who : Nat) (s : Callers α) (e : Event α) : List (Event α) :=
  if !s.isLoading who && (s.step e).isLoading who then [e] else []

/-- The result that an event hands in, if a caller has been loading it. -/
def ending (who : Nat) (s : Callers α) : Event α → List (Attempt (α × Lifetime))
  | .loaded i result => if i = who && s.isLoading who then [result] else []
  | _ => []

/-- The events of a run with which a caller begins to load. -/
def loads (s : Callers α) (who : Nat) (events : List (Event α)) : List (Event α) :=
  gather (beginning who) s events

/-- The results with which the loads of a caller end in a run. -/
def handed (s : Callers α) (who : Nat) (events : List (Event α)) :
    List (Attempt (α × Lifetime)) :=
  gather (ending who) s events

/-- At some turn of a caller the store had a live entry of the key, from whose bytes the value is
read. -/
def Found (s : Callers α) (who : Nat) (key : String) (events : List (Event α)) (a : α) : Prop :=
  ∃ earlier later, events = earlier ++ .advance who :: later ∧
    ∃ entry, (s.run earlier).cache.backend.get? key = some entry ∧
      clockNanos (s.run earlier).clockMs < entry.expiresAt ∧
      (readBytes s.codec key entry.bytes).1 = some a

/-- The ways in which a call obtains its result: it finds a value and does not load, or its load has
ended and the result is that of the load, except that the call crashes when the expiry of the loaded
value lies beyond the clock. -/
inductive Comes (s : Callers α) (who : Nat) (key : String) (events : List (Event α)) :
    Attempt α → Prop
  | found (a : α) (hloads : s.loads who events = []) (hhanded : s.handed who events = [])
      (hfound : s.Found who key events a) : Comes s who key events (.success a)
  | loaded (a : α) (ttl : Lifetime) (hloads : (s.loads who events).length = 1)
      (hhanded : s.handed who events = [.success (a, ttl)]) : Comes s who key events (.success a)
  | failed (f : Failure) (hloads : (s.loads who events).length = 1)
      (hhanded : s.handed who events = [.failure f]) : Comes s who key events (.failure f)
  | crashed (text : String) (hloads : (s.loads who events).length = 1)
      (hhanded : s.handed who events = [.crash text]) : Comes s who key events (.crash text)
  | beyond (a : α) (ttl : Lifetime) (hloads : (s.loads who events).length = 1)
      (hhanded : s.handed who events = [.success (a, ttl)])
      (hbeyond : BeyondClock (s.run events).clockMs ttl) :
      Comes s who key events (.crash CacheError.beyondClock.message)

/-- The invariant of a call: its phase, given its reads, its loads and their results so far. -/
inductive Course (s : Callers α) (who : Nat) (key : String) (events : List (Event α)) :
    Option (Phase α) → Prop
  | seeking (phase : Phase α) (hbare : phase.isBare = true)
      (hphase : ∀ lock?, phase ≠ .loading lock?) (hloads : s.loads who events = [])
      (hhanded : s.handed who events = []) : Course s who key events (some phase)
  | loading (lock? : Option Nat) (hloads : (s.loads who events).length = 1)
      (hhanded : s.handed who events = []) : Course s who key events (some (.loading lock?))
  | storing (lock? : Option Nat) (a : α) (ttl : Lifetime) (hlasts : ttl.isZero = false)
      (hloads : (s.loads who events).length = 1)
      (hhanded : s.handed who events = [.success (a, ttl)]) :
      Course s who key events (some (.storing lock? a ttl))
  | leaving (lock? : Option Nat) (result : Attempt α) (hcomes : s.Comes who key events result) :
      Course s who key events (some (.leaving lock? result))
  | done (result : Attempt α) (hcomes : s.Comes who key events result) :
      Course s who key events (some (.done result))
  | dropped (hloads : (s.loads who events).length ≤ 1)
      (hhanded : (s.handed who events).length ≤ 1) : Course s who key events none

/-- The phase of the caller and its history satisfy the invariant. -/
def Tracked (s : Callers α) (who : Nat) (key : String) (events : List (Event α)) : Prop :=
  ∃ phase?, (s.run events).callers[who]? = some { key, phase? } ∧ s.Course who key events phase?

variable {s : Callers α} {who : Nat} {key : String} {events : List (Event α)} {e : Event α}

/-! ## Events that concern a caller -/

/-- An event is a turn of a caller, the end of its load, or its drop. -/
def Event.By (who : Nat) : Event α → Prop
  | .advance i | .loaded i _ | .drop i => i = who
  | .wait _ | .store .. | .purge | .clear | .replace _ => False

theorem getElem?_setPhase_of_ne {i : Nat} (hne : i ≠ who) (next : Option (Phase α)) :
    (s.setPhase i next).callers[who]? = s.callers[who]? := by
  simp [setPhase, hne]

theorem getElem?_setPhase {phase? : Option (Phase α)} (hget : s.callers[who]? = some { key, phase? })
    (next : Option (Phase α)) :
    (s.setPhase who next).callers[who]? = some { key, phase? := next } := by
  rw [s.callers_setPhase hget, List.getElem?_set_self (List.getElem?_eq_some_iff.mp hget).1]

/-- An event that does not concern a caller does not change it. -/
theorem getElem?_step_of_not_by (hby : ¬ e.By who) : (s.step e).callers[who]? = s.callers[who]? := by
  cases e with
  | advance i =>
      simp only [step, turn, advance]
      split
      · exact getElem?_setPhase_of_ne hby _
      · rfl
  | loaded i result =>
      simp only [step, turn, endLoad]
      split
      · exact getElem?_setPhase_of_ne hby _
      · rfl
  | drop i =>
      simp only [step, turn, drop]
      split
      · rfl
      · exact getElem?_setPhase_of_ne hby _
      · rfl
  | wait | store | purge | clear | replace => rfl

theorem getElem?_step_advance {phase : Phase α}
    (hget : s.callers[who]? = some { key, phase? := some phase }) :
    (s.step (.advance who)).callers[who]? =
      some { key, phase? := some (s.cache.advance s.codec s.clockMs who key phase).phase } := by
  simp only [step, turn, advance, hget]
  exact getElem?_setPhase hget _

theorem getElem?_step_loaded {phase : Phase α}
    (hget : s.callers[who]? = some { key, phase? := some phase })
    (result : Attempt (α × Lifetime)) :
    (s.step (.loaded who result)).callers[who]? =
      some { key, phase? := some (Cache.loaded key result phase).1 } := by
  simp only [step, turn, endLoad, hget]
  exact getElem?_setPhase hget _

/-- A caller is dropped unless its call is done. -/
theorem getElem?_step_drop {phase : Phase α}
    (hget : s.callers[who]? = some { key, phase? := some phase }) :
    (s.step (.drop who)).callers[who]? = some { key, phase? := none } ∨
      (∃ result, phase = .done result) ∧ s.step (.drop who) = s := by
  simp only [step, turn, drop, hget]
  split
  · next hdone =>
    exact .inr ⟨⟨_, (Option.some.inj (Caller.mk.inj (Option.some.inj hdone)).2)⟩, rfl⟩
  · next k p _ hsome =>
    obtain ⟨rfl, hp⟩ := Caller.mk.inj (Option.some.inj hsome)
    exact .inl (getElem?_setPhase hget _)
  · next hnot => exact absurd rfl (hnot key phase)

/-- An event does not change a caller that was dropped. -/
theorem step_of_dropped (hget : s.callers[who]? = some { key, phase? := none }) (hby : e.By who) :
    s.step e = s := by
  cases e with
  | advance i =>
      obtain rfl : i = who := hby
      simp only [step, turn, advance, hget]
  | loaded i result =>
      obtain rfl : i = who := hby
      simp only [step, turn, endLoad, hget]
  | drop i =>
      obtain rfl : i = who := hby
      simp only [step, turn, drop, hget]
  | wait | store | purge | clear | replace => exact hby.elim

theorem isLoading_eq_true {lock? : Option Nat}
    (hget : s.callers[who]? = some { key, phase? := some (.loading lock?) }) :
    s.isLoading who = true := by
  rw [isLoading, Callers.phase?, hget]
  rfl

theorem isLoading_eq_false {phase? : Option (Phase α)}
    (hget : s.callers[who]? = some { key, phase? })
    (hnot : ∀ lock?, phase? ≠ some (.loading lock?)) : s.isLoading who = false := by
  rw [isLoading, Callers.phase?, hget]
  cases phase? with
  | none => rfl
  | some phase =>
      cases phase with
      | loading lock? => exact absurd rfl (hnot lock?)
      | reading | sweeping | asking | queueing | waiting | rereading | resweeping | storing | leaving
        | done => rfl

/-! ## The history after an event -/

theorem loads_concat (s : Callers α) (who : Nat) (events : List (Event α)) (e : Event α) :
    s.loads who (events ++ [e]) = s.loads who events ++ beginning who (s.run events) e := by
  simp [loads, gather_append, gather]

theorem handed_concat (s : Callers α) (who : Nat) (events : List (Event α)) (e : Event α) :
    s.handed who (events ++ [e]) = s.handed who events ++ ending who (s.run events) e := by
  simp [handed, gather_append, gather]

/-- No load begins with an event after which the caller does not load, or before which it does. -/
theorem beginning_eq_nil (hnot : s.isLoading who = true ∨ (s.step e).isLoading who = false) :
    beginning who s e = [] := by
  rcases hnot with hbefore | hafter
  · simp [beginning, hbefore]
  · simp [beginning, hafter]

theorem ending_eq_nil (hnot : s.isLoading who = false) : ending who s e = [] := by
  cases e <;> simp [ending, hnot]

theorem clockMs_le_step (s : Callers α) (e : Event α) : s.clockMs ≤ (s.step e).clockMs := by
  cases e with
  | advance i =>
      simp only [step, turn, advance]
      split <;> exact Nat.le_refl _
  | loaded i result =>
      simp only [step, turn, endLoad]
      split <;> exact Nat.le_refl _
  | drop i =>
      simp only [step, turn, drop]
      split <;> exact Nat.le_refl _
  | wait ms => exact Nat.le_add_right _ _
  | store | purge | clear | replace => exact Nat.le_refl _

/-- A read stays in the history when an event is appended. -/
theorem Found.concat {a : α} (hfound : s.Found who key events a) (e : Event α) :
    s.Found who key (events ++ [e]) a := by
  obtain ⟨earlier, later, rfl, hentry⟩ := hfound
  exact ⟨earlier, later ++ [e], by simp, hentry⟩

/-- The derivation of a result is kept by an event that adds nothing to the history of its
caller. -/
theorem Comes.concat {result : Attempt α} (hcomes : s.Comes who key events result)
    (hbegin : beginning who (s.run events) e = []) (hend : ending who (s.run events) e = []) :
    s.Comes who key (events ++ [e]) result := by
  have hloads : s.loads who (events ++ [e]) = s.loads who events := by simp [loads_concat, hbegin]
  have hhanded : s.handed who (events ++ [e]) = s.handed who events := by simp [handed_concat, hend]
  cases hcomes with
  | found a hnone hnot hfound => exact .found a (hloads ▸ hnone) (hhanded ▸ hnot) (hfound.concat e)
  | loaded a ttl hone hresult => exact .loaded a ttl (hloads ▸ hone) (hhanded ▸ hresult)
  | failed f hone hresult => exact .failed f (hloads ▸ hone) (hhanded ▸ hresult)
  | crashed text hone hresult => exact .crashed text (hloads ▸ hone) (hhanded ▸ hresult)
  | beyond a ttl hone hresult hbeyond =>
      refine .beyond a ttl (hloads ▸ hone) (hhanded ▸ hresult) (hbeyond.mono ?_)
      rw [run_concat]
      exact clockMs_le_step _ _

/-- The invariant is kept by an event that adds nothing to the history of the caller. -/
theorem Course.concat {phase? : Option (Phase α)} (hcourse : s.Course who key events phase?)
    (hbegin : beginning who (s.run events) e = []) (hend : ending who (s.run events) e = []) :
    s.Course who key (events ++ [e]) phase? := by
  have hloads : s.loads who (events ++ [e]) = s.loads who events := by simp [loads_concat, hbegin]
  have hhanded : s.handed who (events ++ [e]) = s.handed who events := by simp [handed_concat, hend]
  cases hcourse with
  | seeking phase hbare hphase hnone hnot =>
      exact .seeking phase hbare hphase (hloads ▸ hnone) (hhanded ▸ hnot)
  | loading lock? hone hnot => exact .loading lock? (hloads ▸ hone) (hhanded ▸ hnot)
  | storing lock? a ttl hlasts hone hresult =>
      exact .storing lock? a ttl hlasts (hloads ▸ hone) (hhanded ▸ hresult)
  | leaving lock? result hcomes => exact .leaving lock? result (hcomes.concat hbegin hend)
  | done result hcomes => exact .done result (hcomes.concat hbegin hend)
  | dropped hone hresult => exact .dropped (hloads ▸ hone) (hhanded ▸ hresult)

/-- A call loads once at most, and its load ends once at most. -/
theorem Course.once {phase? : Option (Phase α)} (hcourse : s.Course who key events phase?) :
    (s.loads who events).length ≤ 1 ∧ (s.handed who events).length ≤ 1 := by
  have hcomes : ∀ {result : Attempt α}, s.Comes who key events result →
      (s.loads who events).length ≤ 1 ∧ (s.handed who events).length ≤ 1 := by
    intro result hcomes
    cases hcomes <;> simp [*]
  cases hcourse with
  | seeking | loading | storing => simp [*]
  | leaving _ _ hresult | done _ hresult => exact hcomes hresult
  | dropped hloads hhanded => exact ⟨hloads, hhanded⟩

/-! ## The course of a call -/

/-- A turn of a caller that has no value and does not load. -/
theorem Course.advance_seeking {phase : Phase α} (hbare : phase.isBare = true)
    (hphase : ∀ lock?, phase ≠ .loading lock?) (hnone : s.loads who events = [])
    (hnot : s.handed who events = [])
    (hget : (s.run events).callers[who]? = some { key, phase? := some phase }) :
    s.Course who key (events ++ [.advance who])
      (some ((s.run events).cache.advance (s.run events).codec (s.run events).clockMs who key
        phase).phase) := by
  have hafter := getElem?_step_advance hget
  have hhanded : s.handed who (events ++ [.advance who]) = [] := by
    rw [handed_concat, hnot]
    rfl
  have hloads : beginning who (s.run events) (.advance who) = [] →
      s.loads who (events ++ [.advance who]) = [] := by
    intro hbegin
    rw [loads_concat, hnone, hbegin]
    rfl
  rcases advance_of_bare (s.run events).codec (s.run events).clockMs who key (s.run events).cache
    hbare hphase with ⟨hbare', hphase'⟩ | ⟨lock?, hload⟩ | ⟨lock?, a, hleave, hread⟩
  · refine .seeking _ hbare' hphase' (hloads (beginning_eq_nil (.inr ?_))) hhanded
    exact isLoading_eq_false hafter fun lock? h => hphase' lock? (Option.some.inj h)
  · rw [hload] at hafter ⊢
    have hbefore := isLoading_eq_false hget fun lock? h => hphase lock? (Option.some.inj h)
    refine .loading lock? ?_ hhanded
    simp [loads_concat, hnone, beginning, hbefore, isLoading_eq_true hafter]
  · rw [hleave] at hafter ⊢
    obtain ⟨-, entry, hentry, halive, hbytes⟩ := Usage.read_eq_some_iff.mp hread
    rw [codec_run] at hbytes
    refine .leaving lock? _ (.found a (hloads (beginning_eq_nil (.inr ?_))) hhanded
      ⟨events, [], rfl, entry, hentry, halive, hbytes⟩)
    exact isLoading_eq_false hafter (by simp)

/-- A turn of a caller that stores a loaded value. -/
theorem Course.advance_storing {lock? : Option Nat} {a : α} {ttl : Lifetime}
    (hone : (s.loads who events).length = 1) (hresult : s.handed who events = [.success (a, ttl)])
    (hget : (s.run events).callers[who]? = some { key, phase? := some (.storing lock? a ttl) }) :
    s.Course who key (events ++ [.advance who])
      (some ((s.run events).cache.advance (s.run events).codec (s.run events).clockMs who key
        (.storing lock? a ttl)).phase) := by
  have hafter := getElem?_step_advance hget
  have hhanded : s.handed who (events ++ [.advance who]) = [.success (a, ttl)] := by
    rw [handed_concat, hresult]
    rfl
  have hloads : ((s.run events).step (.advance who)).isLoading who = false →
      (s.loads who (events ++ [.advance who])).length = 1 := by
    intro hnot
    rw [loads_concat, beginning_eq_nil (.inr hnot), List.append_nil, hone]
  rcases advance_of_storing (s.run events).codec (s.run events).clockMs who key
    (s.run events).cache lock? a ttl with hleave | ⟨hleave, hbeyond⟩
  · rw [hleave] at hafter ⊢
    exact .leaving lock? _ (.loaded a ttl (hloads (isLoading_eq_false hafter (by simp))) hhanded)
  · rw [hleave] at hafter ⊢
    refine .leaving lock? _ (.beyond a ttl (hloads (isLoading_eq_false hafter (by simp))) hhanded
      (hbeyond.mono ?_))
    rw [run_concat]
    exact clockMs_le_step _ _

/-- A turn of the caller. -/
theorem Course.advance {phase : Phase α} (hcourse : s.Course who key events (some phase))
    (hget : (s.run events).callers[who]? = some { key, phase? := some phase }) :
    s.Course who key (events ++ [.advance who])
      (some ((s.run events).cache.advance (s.run events).codec (s.run events).clockMs who key
        phase).phase) := by
  have hafter := getElem?_step_advance hget
  cases hcourse with
  | seeking _ hbare hphase hnone hnot => exact .advance_seeking hbare hphase hnone hnot hget
  | loading lock? hone hnot =>
      exact (Course.loading lock? hone hnot).concat (beginning_eq_nil (.inl (isLoading_eq_true hget)))
        rfl
  | storing lock? a ttl _ hone hresult => exact .advance_storing hone hresult hget
  | leaving lock? result hcomes =>
      have hdone : ∀ c : Cache, (Cache.advance (s.run events).codec (s.run events).clockMs who key c
          (.leaving lock? result)).phase = .done result := fun c => by cases lock? <;> rfl
      rw [hdone] at hafter ⊢
      exact .done result (hcomes.concat
        (beginning_eq_nil (.inr (isLoading_eq_false hafter (by simp)))) rfl)
  | done result hcomes =>
      exact .done result (hcomes.concat
        (beginning_eq_nil (.inr (isLoading_eq_false hafter (by simp [Cache.advance])))) rfl)

/-- The load of the caller ends. -/
theorem Course.loaded {phase : Phase α} (hcourse : s.Course who key events (some phase))
    (hget : (s.run events).callers[who]? = some { key, phase? := some phase })
    (result : Attempt (α × Lifetime)) :
    s.Course who key (events ++ [.loaded who result])
      (some (Cache.loaded key result phase).1) := by
  have hafter := getElem?_step_loaded hget result
  by_cases hloading : ∃ lock?, phase = .loading lock?
  · obtain ⟨lock?, rfl⟩ := hloading
    have hbefore := isLoading_eq_true hget
    cases hcourse with
    | seeking _ _ hphase => exact absurd rfl (hphase lock?)
    | loading _ hone hnot =>
        have hloads : (s.loads who (events ++ [.loaded who result])).length = 1 := by
          rw [loads_concat, beginning_eq_nil (.inl hbefore), List.append_nil, hone]
        have hhanded : s.handed who (events ++ [.loaded who result]) = [result] := by
          simp [handed_concat, hnot, ending, hbefore]
        cases result with
        | success found =>
            obtain ⟨a, ttl⟩ := found
            cases hzero : ttl.isZero with
            | true =>
                simp only [Cache.loaded, hzero, if_true]
                exact .leaving lock? _ (.loaded a ttl hloads hhanded)
            | false =>
                simp only [Cache.loaded, hzero, Bool.false_eq_true, if_false]
                exact .storing lock? a ttl hzero hloads hhanded
        | failure f => exact .leaving lock? _ (.failed f hloads hhanded)
        | crash text => exact .leaving lock? _ (.crashed text hloads hhanded)
  · -- Nothing is handed in to a caller that does not load.
    have hsame : (Cache.loaded key result phase).1 = phase :=
      ((loaded_cases key result phase).resolve_left fun h => hloading h.2.2).1
    rw [hsame] at hafter ⊢
    have hnot : ∀ lock?, some phase ≠ some (.loading lock?) := fun lock? h =>
      hloading ⟨lock?, Option.some.inj h⟩
    exact hcourse.concat (beginning_eq_nil (.inr (isLoading_eq_false hafter hnot)))
      (ending_eq_nil (isLoading_eq_false hget hnot))

/-- The invariant is kept by an event that does not change the caller. -/
theorem Course.stay {phase? : Option (Phase α)} (hcourse : s.Course who key events phase?)
    (hget : (s.run events).callers[who]? = some { key, phase? })
    (hsame : ((s.run events).step e).callers[who]? = (s.run events).callers[who]?)
    (hend : ending who (s.run events) e = []) : s.Tracked who key (events ++ [e]) := by
  refine ⟨phase?, ?_, hcourse.concat (beginning_eq_nil ?_) hend⟩
  · rw [run_concat]
    exact hsame.trans hget
  · have hloading : ((s.run events).step e).isLoading who = (s.run events).isLoading who := by
      rw [isLoading, isLoading, Callers.phase?, Callers.phase?, hsame]
    rw [hloading]
    exact Bool.eq_false_or_eq_true _

/-- The caller is dropped, unless it is done. -/
theorem Course.drop {phase : Phase α} (hcourse : s.Course who key events (some phase))
    (hget : (s.run events).callers[who]? = some { key, phase? := some phase }) :
    s.Tracked who key (events ++ [.drop who]) := by
  rcases getElem?_step_drop hget with hgone | ⟨-, hsame⟩
  · have hbegin : beginning who (s.run events) (.drop who) = [] :=
      beginning_eq_nil (.inr (isLoading_eq_false hgone (by simp)))
    have hend : ending who (s.run events) (.drop who) = [] := rfl
    refine ⟨none, ?_, .dropped ?_ ?_⟩
    · rw [run_concat]
      exact hgone
    · rw [loads_concat, hbegin, List.append_nil]
      exact hcourse.once.1
    · rw [handed_concat, hend, List.append_nil]
      exact hcourse.once.2
  · exact hcourse.stay hget (by rw [hsame]) rfl

/-- Every event preserves the invariant. -/
theorem Tracked.step (htracked : s.Tracked who key events) (e : Event α) :
    s.Tracked who key (events ++ [e]) := by
  obtain ⟨phase?, hget, hcourse⟩ := htracked
  by_cases hby : e.By who
  · cases phase? with
    | none =>
        have hsame := step_of_dropped hget hby
        exact hcourse.stay hget (by rw [hsame]) (ending_eq_nil (isLoading_eq_false hget (by simp)))
    | some phase =>
        cases e with
        | advance i =>
            obtain rfl : i = who := hby
            refine ⟨_, ?_, hcourse.advance hget⟩
            rw [run_concat]
            exact getElem?_step_advance hget
        | loaded i result =>
            obtain rfl : i = who := hby
            refine ⟨_, ?_, hcourse.loaded hget result⟩
            rw [run_concat]
            exact getElem?_step_loaded hget result
        | drop i =>
            obtain rfl : i = who := hby
            exact hcourse.drop hget
        | wait | store | purge | clear | replace => exact hby.elim
  · refine hcourse.stay hget (getElem?_step_of_not_by hby) ?_
    cases e with
    | loaded i result =>
        have hother : i ≠ who := hby
        simp [ending, hother]
    | advance | drop | wait | store | purge | clear | replace => rfl

/-- The invariant holds after any events. -/
theorem tracked_run (hwho : s.callers[who]? = some { key }) (events : List (Event α)) :
    s.Tracked who key events := by
  induction events using List.reverseRecOn with
  | nil => exact ⟨some .reading, hwho, .seeking .reading rfl (by simp) rfl rfl⟩
  | append_singleton events e ih => exact ih.step e

/-! ## The store during a call -/

/-- An event that concerns a caller removes at most an expired entry from the store, unless the
caller is about to store a loaded value. -/
theorem storing_or_tidied (hby : e.By who) :
    (∃ key lock? a ttl, s.callers[who]? = some { key, phase? := some (.storing lock? a ttl) }) ∨
      (s.step e).cache.backend.stores = s.cache.backend.stores ∧
        Tidied s.clockMs s.cache.backend (s.step e).cache.backend := by
  have hsame := Tidied.refl s.clockMs s.cache.backend
  cases e with
  | advance i =>
      obtain rfl : i = who := hby
      simp only [step, turn, advance]
      split
      · next key phase hget =>
        by_cases hstoring : ∃ lock? a ttl, phase = .storing lock? a ttl
        · obtain ⟨lock?, a, ttl, rfl⟩ := hstoring
          exact .inl ⟨key, lock?, a, ttl, hget⟩
        · refine .inr (tidied_advance s.codec s.clockMs i key s.cache ?_)
          exact fun lock? a ttl h => hstoring ⟨lock?, a, ttl, h⟩
      · exact .inr ⟨rfl, hsame⟩
  | loaded i result =>
      simp only [step, turn, endLoad]
      split <;> exact .inr ⟨rfl, hsame⟩
  | drop i =>
      simp only [step, turn, drop]
      split
      · exact .inr ⟨rfl, hsame⟩
      · next key phase _ _ =>
        have hbackend := backend_drop i key s.cache phase
        rw [hbackend]
        exact .inr ⟨rfl, hsame⟩
      · exact .inr ⟨rfl, hsame⟩
  | wait | store | purge | clear | replace => exact hby.elim

end Callers
end Cache
end SupplierGateway
