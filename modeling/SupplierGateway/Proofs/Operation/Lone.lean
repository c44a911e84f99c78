import SupplierGateway.Proofs.Cache.Tidying
import SupplierGateway.Proofs.Operation.Lookups
import SupplierGateway.Proofs.Operation.Requests
import SupplierGateway.Proofs.Operation.Course

/-!
# The token of a lone task

While a task is alone in its world, no other task uses its cache.  The first read of the cache
therefore determines the source of the token: a token that is found then is used without a token
call, and if none is found then, none is found later, so that a token is asked for and stored.

* `World.lookedAt?` and `World.storedAt?` — the times at which a task first read its cache and
  stored a token;
* `Seeks` — the invariant of a task that has no answer yet;
* `LookupEnd` — the ways in which it obtains one;
* `Task.attends_move` — a move keeps the invariant, or the task has an answer after it;
* `Task.Spent` — a task that has an answer, or needs none, does not use its cache;
* `World.lookupEnd_of_result` — a lone task that has ended had an answer before.

Nothing is assumed about the entries of the cache, its refusals and the holders of its locks.
-/

namespace SupplierGateway

namespace Cache

variable {α : Type}

/-- The next turn of a lookup is its first. -/
def Phase.isReading : Phase α → Bool
  | reading => true
  | _ => false

/-- The next turn of a lookup is to store the loaded value. -/
def Phase.isStoring : Phase α → Bool
  | storing .. => true
  | _ => false

theorem not_isStoring_of_isBare {phase : Phase α} (hbare : phase.isBare = true) :
    phase.isStoring = false := by
  cases phase with
  | storing | leaving | done => exact nomatch hbare
  | _ => rfl

/-- The store after a text was stored does not depend on the locks. -/
theorem backend_storeText (c : Cache) (clockMs : Nat) (key : String) (text : Except String String)
    (ttl : Lifetime) :
    (storeText { backend := c.backend } clockMs key text ttl).1.backend =
      (c.storeText clockMs key text ttl).1.backend := by
  cases text <;> rfl

/-- The turn that stores a value has the value as result, unless its expiry lies beyond the
clock. -/
theorem advance_storing (codec : Codec α) (c : Cache) (clockMs who : Nat) (key : String)
    (lock? : Option Nat) (a : α) (ttl : Lifetime) :
    (c.advance codec clockMs who key (.storing lock? a ttl)).cache =
        (c.storeText clockMs key (codec.encode a) ttl).1 ∧
      ((c.advance codec clockMs who key (.storing lock? a ttl)).phase =
          .leaving lock? (.success a) ∨
        (c.advance codec clockMs who key (.storing lock? a ttl)).phase =
          .leaving lock? (.crash CacheError.beyondClock.message) ∧ BeyondClock clockMs ttl) := by
  simp only [advance]
  split
  · next hstored => exact ⟨by rw [hstored], .inl rfl⟩
  · next hstored => exact ⟨by rw [hstored], .inr ⟨rfl, beyondClock_of_storeText hstored⟩⟩
  · next hstored => exact ⟨by rw [hstored], .inl rfl⟩

end Cache

namespace Operation

open Audit (CallRecord)
open Cache (Backend CachedCredential Lifetime Tidied Usage)
open Call (Emission Exchange Pending Undertaken exchanges exchanges_self)
open Http (Request)
open Supplier (IssuedToken)

variable {β : Type}

/-! ## Turns of lookups -/

/-- A move of a task is a turn of its lookup at a phase of some kind. -/
def Task.takesTurn (t : Task β) (kind : Cache.Phase CachedCredential → Bool) (m : Move) : Bool :=
  m == .proceed && t.phase?.any kind

namespace World

/-- An event is a turn of the lookup of a task at a phase of some kind. -/
def takesTurn (w : World β) (who : Nat) (kind : Cache.Phase CachedCredential → Bool) :
    Event → Bool
  | .task other m => other == who && (w.tasks[who]?).any fun t => t.takesTurn kind m
  | .wait _ | .replace .. => false

/-- The time at which a task first takes a turn of its lookup at a phase of some kind, in the course
of events. -/
def turnAt? (who : Nat) (kind : Cache.Phase CachedCredential → Bool) :
    World β → List Event → Option Nat
  | _, [] => none
  | w, e :: events =>
      if w.takesTurn who kind e then some w.resources.clockMs
      else turnAt? who kind (w.step e) events

/-- The time at which a task first reads its cache. -/
def lookedAt? (w : World β) (who : Nat) (events : List Event) : Option Nat :=
  w.turnAt? who Cache.Phase.isReading events

/-- The time at which a task stores a token. -/
def storedAt? (w : World β) (who : Nat) (events : List Event) : Option Nat :=
  w.turnAt? who Cache.Phase.isStoring events

variable {w : World β} {who : Nat} {kind : Cache.Phase CachedCredential → Bool} {clockMs : Nat}

theorem turnAt?_append (w : World β) (who : Nat) (kind : Cache.Phase CachedCredential → Bool)
    (earlier later : List Event) :
    w.turnAt? who kind (earlier ++ later) =
      (w.turnAt? who kind earlier).or ((w.run earlier).turnAt? who kind later) := by
  induction earlier generalizing w with
  | nil => rfl
  | cons e earlier ih =>
      rw [List.cons_append, turnAt?, turnAt?]
      split
      · rfl
      · exact ih (w.step e)

theorem turnAt?_concat (w : World β) (who : Nat) (kind : Cache.Phase CachedCredential → Bool)
    (events : List Event) (e : Event) :
    w.turnAt? who kind (events ++ [e]) =
      (w.turnAt? who kind events).or
        (if (w.run events).takesTurn who kind e then some (w.run events).resources.clockMs
          else none) := by
  rw [turnAt?_append, turnAt?, turnAt?]

/-- The clock at a turn lies between the clocks before and after all events. -/
theorem clockMs_of_turnAt? {events : List Event}
    (hturn : w.turnAt? who kind events = some clockMs) :
    w.resources.clockMs ≤ clockMs ∧ clockMs ≤ (w.run events).resources.clockMs := by
  induction events generalizing w with
  | nil => exact nomatch hturn
  | cons e events ih =>
      rw [turnAt?] at hturn
      split at hturn
      · obtain rfl := Option.some.inj hturn
        exact ⟨Nat.le_refl _, w.clockMs_run_le (e :: events)⟩
      · obtain ⟨hafter, hbefore⟩ := ih hturn
        exact ⟨Nat.le_trans (w.clockMs_step_le e) hafter, hbefore⟩

theorem exchangesOf_append (w : World β) (who : Nat) (earlier later : List Event) :
    w.exchangesOf who (earlier ++ later) =
      w.exchangesOf who earlier ++ (w.run earlier).exchangesOf who later := by
  induction earlier generalizing w with
  | nil => rfl
  | cons e earlier ih =>
      rw [List.cons_append, exchangesOf, exchangesOf, ih, List.append_assoc]
      rfl

end World

/-! ## A task without an answer -/

/-- The key under which the token of an operation is kept. -/
def Context.tokenKey (c : Context) : String := Cache.key c.endpoint c.credential

/-- The store after a token was put under a key, unless storing failed. -/
def storedIn (b : Backend) (clockMs : Nat) (key : String) (t : IssuedToken) : Backend :=
  (Cache.storeText { backend := b } clockMs key (credentialCodec.encode (kept key t).1)
    (kept key t).2).1.backend

/-- A cache had no value to be read at the first read, and at most expired entries were removed from
it since. -/
structure Missed (c₀ : Cache) (key : String) (lookedMs clockMs : Nat) (b : Backend) : Prop where
  looked_le : lookedMs ≤ clockMs
  unread : Usage.read { cache := c₀, clockMs := lookedMs } credentialCodec key = none
  tidied : Tidied clockMs c₀.backend b

/-- A lone task has no answer yet: the time of its first read, its exchanges since, the store, the
run and the stage.  The cache was `c₀` in the beginning. -/
inductive Seeks (c₀ : Cache) (run : Run) (rest : Except Failure Unit → Script β) (clockMs : Nat) :
    Option Nat → List Exchange → Backend → Run → Stage β → Prop
  | ready : Seeks c₀ run rest clockMs none [] c₀.backend run (.ready (.authenticate rest))
  | reading :
      Seeks c₀ run rest clockMs none [] c₀.backend run (.authenticating .reading none rest)
  | missing {lookedMs : Nat} {b : Backend}
      (hmissed : Missed c₀ run.context.tokenKey lookedMs clockMs b)
      (lookup : Cache.Phase CachedCredential) (hbare : lookup.isBare = true) :
      Seeks c₀ run rest clockMs (some lookedMs) [] b run (.authenticating lookup none rest)
  | calling {lookedMs : Nat} {b : Backend}
      (hmissed : Missed c₀ run.context.tokenKey lookedMs clockMs b) (lock? : Option Nat)
      (token : TokenCall) (hledgers : token.child.ledgers = {}) (xs : List Exchange)
      (hbegun : Pending.Begun (run.pipeline .auth) run.tokenRequest xs token.call) :
      Seeks c₀ run rest clockMs (some lookedMs) xs b run
        (.authenticating (.loading lock?) (some token) rest)
  | storing {lookedMs : Nat} {b : Backend}
      (hmissed : Missed c₀ run.context.tokenKey lookedMs clockMs b) (lock? : Option Nat)
      (xs : List Exchange) (rs : List CallRecord) (t : IssuedToken)
      (hcall : Undertaken (run.pipeline .auth) readIssued run.tokenRequest xs rs (.success t))
      (hlasts : (Lifetime.ofSecs t.lifetimeSecs).isZero = false) :
      Seeks c₀ run rest clockMs (some lookedMs) xs b (run.addRecords rs)
        (.authenticating (.storing lock? (kept run.context.tokenKey t).1
          (kept run.context.tokenKey t).2) none rest)

/-- A lone task has an answer: the time at which it stored a token, its exchanges, the store, the
run and the answer. -/
inductive LookupEnd (c₀ : Cache) (run : Run) (lookedMs clockMs : Nat) :
    Option Nat → List Exchange → Backend → Run → Attempt CachedCredential → Prop
  | found (c : CachedCredential)
      (hread : Usage.read { cache := c₀, clockMs := lookedMs } credentialCodec
        run.context.tokenKey = some c) :
      LookupEnd c₀ run lookedMs clockMs none [] c₀.backend run (.success c)
  /-- A token without a lifetime is not stored. -/
  | unkept {b : Backend} (hmissed : Missed c₀ run.context.tokenKey lookedMs clockMs b)
      (xs : List Exchange) (rs : List CallRecord) (t : IssuedToken)
      (hcall : Undertaken (run.pipeline .auth) readIssued run.tokenRequest xs rs (.success t))
      (hzero : (Lifetime.ofSecs t.lifetimeSecs).isZero = true) :
      LookupEnd c₀ run lookedMs clockMs none xs b (run.addRecords rs)
        (.success (kept run.context.tokenKey t).1)
  | stored {storedMs : Nat} {b : Backend}
      (hmissed : Missed c₀ run.context.tokenKey lookedMs storedMs b) (xs : List Exchange)
      (rs : List CallRecord) (t : IssuedToken)
      (hcall : Undertaken (run.pipeline .auth) readIssued run.tokenRequest xs rs (.success t))
      (hlasts : (Lifetime.ofSecs t.lifetimeSecs).isZero = false) :
      LookupEnd c₀ run lookedMs clockMs (some storedMs) xs
        (storedIn b storedMs run.context.tokenKey t) (run.addRecords rs)
        (.success (kept run.context.tokenKey t).1)
  /-- The token would expire beyond the clock, so that storing it crashes. -/
  | unstorable {storedMs : Nat} {b b' : Backend}
      (hmissed : Missed c₀ run.context.tokenKey lookedMs storedMs b) (xs : List Exchange)
      (rs : List CallRecord) (t : IssuedToken)
      (hcall : Undertaken (run.pipeline .auth) readIssued run.tokenRequest xs rs (.success t))
      (hlasts : (Lifetime.ofSecs t.lifetimeSecs).isZero = false)
      (hbeyond : Cache.BeyondClock storedMs (.ofSecs t.lifetimeSecs)) :
      LookupEnd c₀ run lookedMs clockMs (some storedMs) xs b' (run.addRecords rs)
        (.crash Cache.CacheError.beyondClock.message)
  | refused {b : Backend} (hmissed : Missed c₀ run.context.tokenKey lookedMs clockMs b)
      (xs : List Exchange) (rs : List CallRecord) (f : Failure)
      (hcall : Undertaken (run.pipeline .auth) readIssued run.tokenRequest xs rs (.failure f)) :
      LookupEnd c₀ run lookedMs clockMs none xs b ((run.addRecords rs).recordError f) (.failure f)
  | crashed {b : Backend} (hmissed : Missed c₀ run.context.tokenKey lookedMs clockMs b)
      (xs : List Exchange) (rs : List CallRecord) (text : String)
      (hcall : Undertaken (run.pipeline .auth) readIssued run.tokenRequest xs rs (.crash text)) :
      LookupEnd c₀ run lookedMs clockMs none xs b run (.crash text)

/-- A lone task has no answer yet, or it has one and is about to release the lock. -/
inductive Attends (c₀ : Cache) (run : Run) (rest : Except Failure Unit → Script β) (clockMs : Nat) :
    Option Nat → Option Nat → List Exchange → Backend → Run → Stage β → Prop
  | seeking {lookedAt? : Option Nat} {xs : List Exchange} {b : Backend} {run' : Run}
      {stage : Stage β} (hseeks : Seeks c₀ run rest clockMs lookedAt? xs b run' stage) :
      Attends c₀ run rest clockMs lookedAt? none xs b run' stage
  | leaving {lookedMs : Nat} {storedAt? : Option Nat} {xs : List Exchange} {b : Backend}
      {run' : Run} (lock? : Option Nat) {a : Attempt CachedCredential}
      (hend : LookupEnd c₀ run lookedMs clockMs storedAt? xs b run' a) :
      Attends c₀ run rest clockMs (some lookedMs) storedAt? xs b run'
        (.authenticating (.leaving lock? a) none rest)

variable {c₀ : Cache} {run run' : Run} {rest : Except Failure Unit → Script β}
  {lookedMs clockMs : Nat} {lookedAt? : Option Nat} {xs : List Exchange} {b : Backend}
  {stage : Stage β}

theorem Attends.seeks_or_end {storedAt? : Option Nat}
    (hattends : Attends c₀ run rest clockMs lookedAt? storedAt? xs b run' stage) :
    storedAt? = none ∧ Seeks c₀ run rest clockMs lookedAt? xs b run' stage ∨
      ∃ lookedMs lock? a, lookedAt? = some lookedMs ∧
        stage = .authenticating (.leaving lock? a) none rest ∧
        LookupEnd c₀ run lookedMs clockMs storedAt? xs b run' a := by
  cases hattends with
  | seeking hseeks => exact .inl ⟨rfl, hseeks⟩
  | leaving lock? hend => exact .inr ⟨_, lock?, _, rfl, rfl, hend⟩

theorem Missed.later {key : String} (hmissed : Missed c₀ key lookedMs clockMs b) {clockMs' : Nat}
    (hlater : clockMs ≤ clockMs') : Missed c₀ key lookedMs clockMs' b :=
  ⟨Nat.le_trans hmissed.looked_le hlater, hmissed.unread, hmissed.tidied.later hlater⟩

/-- A cache that had no value to be read at first has none later. -/
theorem Missed.unread_now {key : String} {c : Cache}
    (hmissed : Missed c₀ key lookedMs clockMs c.backend) :
    Usage.read { cache := c, clockMs } credentialCodec key = none := by
  rw [Option.eq_none_iff_forall_ne_some]
  intro found hread
  exact nomatch hmissed.unread.symm.trans
    (hmissed.tidied.read_of_read (c := c₀) hmissed.looked_le hread)

/-- The invariant is kept as time passes. -/
theorem Seeks.later (hseeks : Seeks c₀ run rest clockMs lookedAt? xs b run' stage) {clockMs' : Nat}
    (hlater : clockMs ≤ clockMs') : Seeks c₀ run rest clockMs' lookedAt? xs b run' stage := by
  cases hseeks with
  | ready => exact .ready
  | reading => exact .reading
  | missing hmissed lookup hbare => exact .missing (hmissed.later hlater) lookup hbare
  | calling hmissed lock? token hledgers _ hbegun =>
      exact .calling (hmissed.later hlater) lock? token hledgers _ hbegun
  | storing hmissed lock? _ rs t hcall hlasts =>
      exact .storing (hmissed.later hlater) lock? _ rs t hcall hlasts

theorem Seeks.result?_eq_none {t : Task β}
    (hseeks : Seeks c₀ run rest clockMs lookedAt? xs b run' t.stage) : t.result? = none := by
  obtain ⟨run'', options, cache, stage⟩ := t
  cases hseeks <;> rfl

/-! ## Moves -/

namespace Task

variable {t : Task β} {r : Resources} {who : Nat}

/-- A task without an answer whose lookup moves to a phase without a value is still without an
answer.  It may have begun its token call. -/
theorem seeks_follow (haddress : r.transport.address = id)
    (hmissed : Missed c₀ t.run.context.tokenKey lookedMs clockMs (r.cache t.cache).backend)
    {lookup : Cache.Phase CachedCredential} (hbare : lookup.isBare = true) :
    Seeks c₀ t.run rest clockMs (some lookedMs)
      (exchanges r.transport (t.follow r who none rest lookup).resources.transport)
      ((t.follow r who none rest lookup).resources.cache t.cache).backend
      (t.follow r who none rest lookup).task.run (t.follow r who none rest lookup).task.stage := by
  have hstays : Seeks c₀ t.run rest clockMs (some lookedMs) (exchanges r.transport r.transport)
      (r.cache t.cache).backend t.run (.authenticating lookup none rest) := by
    rw [exchanges_self]
    exact .missing hmissed lookup hbare
  cases lookup with
  | loading lock? =>
      obtain ⟨hbegun, -, -, hrecords⟩ :=
        Pending.begun_begin (p := t.run.pipeline .auth) rfl r.clockMs haddress t.run.tokenRequest
      refine .calling hmissed lock? (t.beginToken r).2 ?_ _ hbegun
      -- A call that begins only logs.
      change ((Run.begin (t.run.context.derive .auth)).collect _).ledgers = {}
      rw [Run.collect_eq]
      exact congrArg Run.ledgers
        ((congrArg (Run.begin _).addRecords hrecords).trans (Run.addRecords_nil _))
  | waiting lock =>
      simp only [follow]
      split <;> exact hstays
  | reading | sweeping | asking | queueing | rereading | resweeping => exact hstays
  | storing | leaving | done => cases hbare

/-- A turn of a lookup that has no value, while the cache has no value to be read. -/
theorem seeks_lookUp (haddress : r.transport.address = id)
    (hmissed : Missed c₀ t.run.context.tokenKey lookedMs r.clockMs (r.cache t.cache).backend)
    {lookup : Cache.Phase CachedCredential} (hbare : lookup.isBare = true) :
    Seeks c₀ t.run rest r.clockMs (some lookedMs)
      (exchanges r.transport (t.lookUp r who none rest lookup).resources.transport)
      ((t.lookUp r who none rest lookup).resources.cache t.cache).backend
      (t.lookUp r who none rest lookup).task.run (t.lookUp r who none rest lookup).task.stage := by
  obtain ⟨hnext, htidied⟩ := Cache.advance_of_unread hmissed.unread_now who hbare
  have hcache : ((r.setCache t.cache (t.turn r who lookup).cache).tell
      (t.turn r who lookup).entries).cache t.cache = (t.turn r who lookup).cache := by
    simp [Resources.tell, Resources.cache_setCache]
  refine seeks_follow (r := (r.setCache t.cache (t.turn r who lookup).cache).tell
    (t.turn r who lookup).entries) haddress ?_ hnext
  rw [hcache]
  exact ⟨hmissed.looked_le, hmissed.unread, hmissed.tidied.trans htidied⟩

/-- A turn of a lookup after which it has an answer. -/
theorem lookUp_of_leaving (token : Option TokenCall) (rest : Except Failure Unit → Script β)
    {lookup : Cache.Phase CachedCredential} {lock? : Option Nat} {a : Attempt CachedCredential}
    (hphase : (t.turn r who lookup).phase = .leaving lock? a) :
    (t.lookUp r who token rest lookup).resources.transport = r.transport ∧
      (t.lookUp r who token rest lookup).resources.cache t.cache = (t.turn r who lookup).cache ∧
      (t.lookUp r who token rest lookup).task =
        { t with stage := .authenticating (.leaving lock? a) token rest } := by
  have hadvance : ((r.cache t.cache).advance credentialCodec r.clockMs who t.tokenKey lookup).phase =
      .leaving lock? a := hphase
  simp only [lookUp, hadvance, follow]
  exact ⟨rfl, if_pos rfl, trivial⟩

/-- The first turn of a lookup. -/
theorem attends_read (haddress : r.transport.address = id)
    (hbackend : (r.cache t.cache).backend = c₀.backend) :
    Attends c₀ t.run rest r.clockMs (some r.clockMs) none
      (exchanges r.transport (t.lookUp r who none rest .reading).resources.transport)
      ((t.lookUp r who none rest .reading).resources.cache t.cache).backend
      (t.lookUp r who none rest .reading).task.run
      (t.lookUp r who none rest .reading).task.stage := by
  cases hread : Usage.read { cache := c₀, clockMs := r.clockMs } credentialCodec
      t.run.context.tokenKey with
  | none =>
      refine .seeking (seeks_lookUp haddress ⟨Nat.le_refl _, hread, ?_⟩ rfl)
      rw [hbackend]
      exact .refl ..
  | some c =>
      have hnow : Usage.read { cache := r.cache t.cache, clockMs := r.clockMs } credentialCodec
          t.tokenKey = some c := by
        rw [← hread]
        simp only [Usage.read, Cache.glance, hbackend]
        rfl
      obtain ⟨hcache, hphase⟩ := Cache.advance_of_read hnow who
      obtain ⟨htransport, hafter, htask⟩ := lookUp_of_leaving none rest hphase
      rw [htransport, hafter, htask, exchanges_self, Task.turn, hcache, hbackend]
      exact .leaving none (.found c hread)

/-- The turn that stores the issued token. -/
theorem attends_store
    (hmissed : Missed c₀ run.context.tokenKey lookedMs r.clockMs (r.cache t.cache).backend)
    (hcontext : t.run.context = run.context) {lock? : Option Nat} {rs : List CallRecord}
    {issued : IssuedToken}
    (hcall : Undertaken (run.pipeline .auth) readIssued run.tokenRequest xs rs (.success issued))
    (hlasts : (Lifetime.ofSecs issued.lifetimeSecs).isZero = false)
    (hrun : t.run = run.addRecords rs) {lookup : Cache.Phase CachedCredential}
    (hlookup : lookup = .storing lock? (kept run.context.tokenKey issued).1
      (kept run.context.tokenKey issued).2) :
    Attends c₀ run rest r.clockMs (some lookedMs) (some r.clockMs)
      (xs ++ exchanges r.transport (t.lookUp r who none rest lookup).resources.transport)
      ((t.lookUp r who none rest lookup).resources.cache t.cache).backend
      (t.lookUp r who none rest lookup).task.run (t.lookUp r who none rest lookup).task.stage := by
  have hkey : t.tokenKey = run.context.tokenKey := by
    rw [Task.tokenKey, hcontext]
    rfl
  -- Either the store takes the token, or the moment when it expires is beyond the clock.
  rcases Cache.advance_storing credentialCodec (r.cache t.cache) r.clockMs who t.tokenKey lock?
    (kept run.context.tokenKey issued).1 (kept run.context.tokenKey issued).2 with
    ⟨hcache, hphase | ⟨hphase, hbeyond⟩⟩
  · rw [← hlookup] at hcache hphase
    obtain ⟨htransport, hafter, htask⟩ := lookUp_of_leaving none rest hphase
    rw [htransport, hafter, htask, exchanges_self, List.append_nil, Task.turn, hcache, hrun, hkey,
      ← Cache.backend_storeText]
    exact .leaving lock? (.stored hmissed xs rs issued hcall hlasts)
  · rw [← hlookup] at hphase
    obtain ⟨htransport, -, htask⟩ := lookUp_of_leaving none rest hphase
    rw [htransport, htask, exchanges_self, List.append_nil, hrun]
    exact .leaving lock? (.unstorable hmissed xs rs issued hcall hlasts hbeyond)

/-- The token call ends. -/
theorem attends_arriveToken
    (hmissed : Missed c₀ t.run.context.tokenKey lookedMs clockMs b) {lock? : Option Nat}
    {token : TokenCall} (hledgers : token.child.ledgers = {})
    (hbegun : Pending.Begun (t.run.pipeline .auth) t.run.tokenRequest xs token.call) :
    Attends c₀ t.run rest clockMs (some lookedMs) none xs b
      (t.arriveToken r token rest (.loading lock?)).task.run
      (t.arriveToken r token rest (.loading lock?)).task.stage := by
  have hcall := hbegun.settle readIssued r.clockMs
  have hsettle : token.call.settle (fun body => .ofExcept (Supplier.readToken body)) r.clockMs =
      token.call.settle readIssued r.clockMs := rfl
  unfold arriveToken
  rw [hsettle]
  cases hattempt : (token.call.settle readIssued r.clockMs).2 with
  | success issued =>
      rw [hattempt] at hcall
      simp only [hattempt, t.run.absorb_collect hledgers, Attempt.map, Attempt.bind, Cache.loaded]
      cases hzero : (kept t.tokenKey issued).2.isZero with
      | true => exact .leaving lock? (.unkept hmissed xs _ issued hcall hzero)
      | false => exact .seeking (.storing hmissed lock? xs _ issued hcall hzero)
  | failure f =>
      rw [hattempt] at hcall
      simp only [hattempt, t.run.absorb_recordError hledgers]
      exact .leaving lock? (.refused hmissed xs _ f hcall)
  | crash text =>
      rw [hattempt] at hcall
      simp only [hattempt]
      exact .leaving lock? (.crashed hmissed xs _ text hcall)

/-- After any move, a lone task has no answer yet, or has obtained one. -/
theorem attends_move (haddress : r.transport.address = id)
    (hcredential : run.context.credential.requiresToken = true)
    (hcontext : t.run.context = run.context)
    (hseeks : Seeks c₀ run rest r.clockMs lookedAt? xs (r.cache t.cache).backend t.run t.stage)
    (m : Move) :
    Attends c₀ run rest r.clockMs
      (lookedAt?.or (if t.takesTurn Cache.Phase.isReading m then some r.clockMs else none))
      (if t.takesTurn Cache.Phase.isStoring m then some r.clockMs else none)
      (xs ++ exchanges r.transport (t.move r who m).resources.transport)
      ((t.move r who m).resources.cache t.cache).backend (t.move r who m).task.run
      (t.move r who m).task.stage := by
  obtain ⟨run', options, cache, stage⟩ := t
  -- A move that is impossible in the stage changes nothing.
  have hstay : Attends c₀ run rest r.clockMs (lookedAt?.or none) none
      (xs ++ exchanges r.transport r.transport) (r.cache cache).backend run' stage := by
    rw [exchanges_self, List.append_nil, Option.or_none]
    exact .seeking hseeks
  generalize hb : (r.cache cache).backend = b at hseeks
  cases hseeks with
  | ready =>
      cases m with
      | proceed =>
          simp only [Task.move, carryOut]
          rw [if_pos hcredential]
          change Attends c₀ run' rest r.clockMs none none
            ([] ++ exchanges r.transport r.transport) (r.cache cache).backend run' _
          rw [exchanges_self, hb]
          exact .seeking .reading
      | arrive | take | begin | settle | giveUp | receive => exact hstay
  | reading =>
      cases m with
      | proceed => exact attends_read haddress hb
      | arrive | take | begin | settle | giveUp | receive => exact hstay
  | missing hmissed lookup hbare =>
      cases m with
      | proceed =>
          have hother : lookup.isStoring = false := Cache.not_isStoring_of_isBare hbare
          have hnot : Task.takesTurn
              ⟨run', options, cache, .authenticating lookup none rest⟩
              Cache.Phase.isStoring .proceed = false := hother
          rw [hnot]
          exact .seeking (seeks_lookUp haddress (hb ▸ hmissed) hbare)
      | arrive | take | begin | settle | giveUp | receive => exact hstay
  | calling hmissed lock? token hledgers _ hbegun =>
      cases m with
      | proceed =>
          change Attends c₀ run' rest r.clockMs _ none (xs ++ exchanges r.transport r.transport)
            ((r.setCache cache (r.cache cache)).cache cache).backend run' _
          rw [Resources.cache_setCache, if_pos rfl]
          exact hstay
      | arrive =>
          change Attends c₀ run' rest r.clockMs _ none (xs ++ exchanges r.transport r.transport)
            (r.cache cache).backend _ _
          rw [exchanges_self, List.append_nil, hb]
          exact attends_arriveToken hmissed hledgers hbegun
      | take | begin | settle | giveUp | receive => exact hstay
  | storing hmissed lock? _ rs issued hcall hlasts =>
      cases m with
      | proceed => exact attends_store (hb ▸ hmissed) hcontext hcall hlasts rfl rfl
      | arrive | take | begin | settle | giveUp | receive => exact hstay

end Task

/-! ## Spent tasks -/

namespace Task

/-- A task does not use its cache any more: it has an answer, or needs none. -/
def Spent (P : Phase → Request → Prop) (t : Task β) : Prop :=
  match t.stage with
  | .ready script => script.Asks P ∨ t.run.context.credential.requiresToken = false ∧
      ∃ rest, script = .authenticate rest ∧ ∀ a, (rest a).Asks P
  | .authenticating lookup token rest =>
      token = none ∧ (∃ lock? a, lookup = .leaving lock? a) ∧ ∀ a, (rest a).Asks P
  | .calling _ _ rest => ∀ a, (rest a).Asks P
  | .spreading _ rest => ∀ values, (rest values).Asks P
  | .done _ | .crashed _ => True

variable {t : Task β} {r : Resources} {who : Nat} {P : Phase → Request → Prop}

/-- A spent task takes no turn at which it reads or stores. -/
theorem Spent.takesTurn (hspent : t.Spent P) {kind : Cache.Phase CachedCredential → Bool}
    (hkind : ∀ lock? a, kind (.leaving lock? a) = false) (m : Move) :
    t.takesTurn kind m = false := by
  obtain ⟨run, options, cache, stage⟩ := t
  cases stage with
  | authenticating lookup token rest =>
      obtain ⟨-, ⟨lock?, a, rfl⟩, -⟩ := hspent
      have hnot : (m == Move.proceed && kind (.leaving lock? a)) = false := by
        rw [hkind, Bool.and_false]
      exact hnot
  | ready | calling | spreading | done | crashed => exact Bool.and_false _

/-- The store does not change when the lookup of a task releases its lock. -/
theorem backend_of_leaving {lookup : Cache.Phase CachedCredential} {lock? : Option Nat}
    {a : Attempt CachedCredential} (hlookup : lookup = .leaving lock? a) (number : Nat) :
    (((r.setCache t.cache (t.turn r who lookup).cache).cache number)).backend =
      (r.cache number).backend := by
  subst hlookup
  rw [Resources.cache_setCache]
  split
  · next hnumber =>
    subst hnumber
    cases lock? <;> rfl
  · rfl

/-- A move of a spent task does not change any store. -/
theorem Spent.backend (hspent : t.Spent P) (m : Move) (number : Nat) :
    ((t.move r who m).resources.cache number).backend = (r.cache number).backend := by
  have hmove := t.lookupMove_move r who m
  generalize (t.move r who m).resources.cache = caches, (t.move r who m).task.phase? = next
    at hmove
  have hleaving : ∀ lookup, t.phase? = some lookup → ∃ lock? a, lookup = .leaving lock? a := by
    intro lookup hphase
    obtain ⟨run, options, cache, stage⟩ := t
    cases stage with
    | authenticating lookup' token rest =>
        obtain ⟨-, hleaving, -⟩ := hspent
        exact Option.some.inj hphase ▸ hleaving
    | ready | calling | spreading | done | crashed => exact nomatch hphase
  cases hmove with
  | aside => rfl
  | loaded => rfl
  | turn lookup hphase _ _ =>
      obtain ⟨lock?, a, hlookup⟩ := hleaving lookup hphase
      exact backend_of_leaving hlookup number

theorem spent_carryOut {script : Script β}
    (hscript : script.Asks P ∨ t.run.context.credential.requiresToken = false ∧
      ∃ rest, script = .authenticate rest ∧ ∀ a, (rest a).Asks P) :
    (t.carryOut r script).task.Spent P := by
  rcases hscript with hasks | ⟨hcredential, rest, rfl, hrest⟩
  · cases hasks with
    | done b => trivial
    | report f entry rest hrest => exact .inl hrest
    | call phase request decode rest _ hrest => exact hrest
    | fanOut phase requests decode rest _ hrest => exact hrest
    | finish policy payload empty rest hrest => exact .inl (hrest _)
  · have hnot : ¬ t.run.context.credential.requiresToken = true := by
      rw [hcredential]
      exact Bool.false_ne_true
    rw [carryOut, if_neg hnot]
    exact .inl (hrest _)

/-- A spent task is spent after any move. -/
theorem Spent.move (hspent : t.Spent P) (m : Move) : (t.move r who m).task.Spent P := by
  obtain ⟨run, options, cache, stage⟩ := t
  cases stage with
  | ready script =>
      cases m with
      | proceed => exact spent_carryOut hspent
      | arrive | take | begin | settle | giveUp | receive => exact hspent
  | authenticating lookup token rest =>
      obtain ⟨rfl, ⟨lock?, a, rfl⟩, hrest⟩ := hspent
      cases m with
      | proceed => cases lock? <;> cases a <;> first | exact .inl (hrest _) | trivial
      | arrive | take | begin | settle | giveUp | receive => exact ⟨rfl, ⟨lock?, a, rfl⟩, hrest⟩
  | calling call decode rest =>
      cases m with
      | arrive =>
          simp only [Task.move, arriveCall]
          split
          · exact .inl (hspent _)
          · exact .inl (hspent _)
          · trivial
      | proceed | take | begin | settle | giveUp | receive => exact hspent
  | spreading spread rest =>
      cases m with
      | proceed =>
          simp only [Task.move]
          split
          · exact .inl (hspent _)
          · exact hspent
      | arrive | take | begin | settle | giveUp | receive => exact hspent
  | done b => cases m <;> trivial
  | crashed text => cases m <;> trivial

end Task

/-! ## A task that is alone in its world -/

namespace World

variable {w : World β} {t t₀ : Task β} {events : List Event} {P : Phase → Request → Prop}

theorem getElem?_of_lone (htasks : w.tasks = [t]) : w.tasks[0]? = some t := by
  rw [htasks]
  rfl

/-- In the world of a task that is alone with its stores, an event is a move of the task, or changes
the clock only. -/
theorem step_of_lone (htasks : w.tasks = [t]) {e : Event}
    (hquiet : ∀ number backend, e ≠ .replace number backend) :
    (∃ m, e = .task 0 m ∧ (w.step e).tasks = [(t.move w.resources 0 m).task] ∧
      (w.step e).resources = (t.move w.resources 0 m).resources) ∨
    e.isOf 0 = false ∧ (w.step e).tasks = [t] ∧
      (w.step e).resources.cache = w.resources.cache := by
  cases e with
  | task who m =>
      cases who with
      | zero =>
          refine .inl ⟨m, rfl, ?_, ?_⟩
          · rw [step_task_of_some (getElem?_of_lone htasks), htasks]
            rfl
          · rw [step_task_of_some (getElem?_of_lone htasks)]
      | succ other =>
          have hnone : w.tasks[other + 1]? = none := by rw [htasks]; rfl
          rw [step_task_of_none hnone]
          exact .inr ⟨rfl, htasks, rfl⟩
  | wait ms => exact .inr ⟨rfl, htasks, rfl⟩
  | replace number backend => exact absurd rfl (hquiet number backend)

theorem takesTurn_of_lone (htasks : w.tasks = [t]) (kind : Cache.Phase CachedCredential → Bool)
    (m : Move) : w.takesTurn 0 kind (.task 0 m) = t.takesTurn kind m := by
  simp [takesTurn, htasks]

theorem takesTurn_of_not_isOf {e : Event} {who : Nat} (hother : e.isOf who = false)
    (kind : Cache.Phase CachedCredential → Bool) : w.takesTurn who kind e = false := by
  cases e with
  | task other m =>
      have hne : (other == who) = false := hother
      rw [takesTurn, hne, Bool.false_and]
  | wait | replace => rfl

/-- A lone task that is spent neither reads nor stores, and the stores do not change. -/
theorem spent_run (htasks : w.tasks = [t]) (hspent : t.Spent P)
    (hquiet : ∀ number backend, Event.replace number backend ∉ events) :
    (∀ kind : Cache.Phase CachedCredential → Bool, (∀ lock? a, kind (.leaving lock? a) = false) →
      w.turnAt? 0 kind events = none) ∧
    ∀ number, ((w.run events).resources.cache number).backend =
      (w.resources.cache number).backend := by
  induction events generalizing w t with
  | nil => exact ⟨fun _ _ => rfl, fun _ => rfl⟩
  | cons e events ih =>
      have hlater : ∀ number backend, Event.replace number backend ∉ events :=
        fun number backend hmem => hquiet number backend (List.mem_cons_of_mem _ hmem)
      have hnow : ∀ number backend, e ≠ .replace number backend :=
        fun number backend he => hquiet number backend (he ▸ List.mem_cons_self)
      rcases step_of_lone htasks hnow with ⟨m, rfl, hafter, hresources⟩ | ⟨hother, hafter, hcaches⟩
      · obtain ⟨hturns, hstores⟩ := ih hafter (hspent.move m) hlater
        refine ⟨fun kind hkind => ?_, fun number => ?_⟩
        · rw [turnAt?, takesTurn_of_lone htasks, hspent.takesTurn hkind]
          exact hturns kind hkind
        · rw [run_cons, hstores, hresources]
          exact hspent.backend m number
      · obtain ⟨hturns, hstores⟩ := ih hafter hspent hlater
        refine ⟨fun kind hkind => ?_, fun number => ?_⟩
        · rw [turnAt?, takesTurn_of_not_isOf hother]
          exact hturns kind hkind
        · rw [run_cons, hstores, hcaches]

/-- After some events a lone task, which was `t₀` in the beginning, has no answer yet. -/
structure Seeking (w : World β) (t₀ : Task β) (rest : Except Failure Unit → Script β)
    (events : List Event) (t : Task β) : Prop where
  tasks : (w.run events).tasks = [t]
  fixed : t₀.Fixed t
  stored : w.storedAt? 0 events = none
  seeks : Seeks (w.resources.cache t₀.cache) t₀.run rest (w.run events).resources.clockMs
    (w.lookedAt? 0 events) (w.exchangesOf 0 events)
    ((w.run events).resources.cache t₀.cache).backend t.run t.stage

/-- After some events a lone task, which was `t₀` in the beginning, has an answer and is about to
release the lock. -/
structure Supplied (w : World β) (t₀ : Task β) (rest : Except Failure Unit → Script β)
    (events : List Event) (t : Task β) (lookedMs : Nat) (a : Attempt CachedCredential) : Prop where
  tasks : (w.run events).tasks = [t]
  fixed : t₀.Fixed t
  stage : ∃ lock?, t.stage = .authenticating (.leaving lock? a) none rest
  looked : w.lookedAt? 0 events = some lookedMs
  answer : LookupEnd (w.resources.cache t₀.cache) t₀.run lookedMs (w.run events).resources.clockMs
    (w.storedAt? 0 events) (w.exchangesOf 0 events)
    ((w.run events).resources.cache t₀.cache).backend t.run a

variable {rest : Except Failure Unit → Script β}

theorem turnAt?_concat_of_not_isOf {e : Event} {who : Nat} (hother : e.isOf who = false)
    (kind : Cache.Phase CachedCredential → Bool) :
    w.turnAt? who kind (events ++ [e]) = w.turnAt? who kind events := by
  rw [turnAt?_concat, takesTurn_of_not_isOf hother]
  exact Option.or_none

theorem turnAt?_concat_of_lone (htasks : (w.run events).tasks = [t])
    (kind : Cache.Phase CachedCredential → Bool) (m : Move) :
    w.turnAt? 0 kind (events ++ [.task 0 m]) =
      (w.turnAt? 0 kind events).or
        (if t.takesTurn kind m then some (w.run events).resources.clockMs else none) := by
  rw [turnAt?_concat, takesTurn_of_lone htasks]

/-- A task that has no answer yet makes a move. -/
theorem Seeking.attends (hseeking : w.Seeking t₀ rest events t)
    (haddress : w.resources.transport.address = id)
    (hcredential : t₀.run.context.credential.requiresToken = true) (m : Move) :
    Attends (w.resources.cache t₀.cache) t₀.run rest
      ((w.run events).step (.task 0 m)).resources.clockMs
      (w.lookedAt? 0 (events ++ [.task 0 m])) (w.storedAt? 0 (events ++ [.task 0 m]))
      (w.exchangesOf 0 (events ++ [.task 0 m]))
      (((w.run events).step (.task 0 m)).resources.cache t₀.cache).backend
      (t.move (w.run events).resources 0 m).task.run
      (t.move (w.run events).resources 0 m).task.stage := by
  obtain ⟨htasks, hfixed, hstored, hseeks⟩ := hseeking
  have hof : (Event.task 0 m).isOf 0 = true := rfl
  rw [lookedAt?, storedAt?, turnAt?_concat_of_lone htasks, turnAt?_concat_of_lone htasks,
    ← lookedAt?, ← storedAt?, hstored, Option.none_or, exchangesOf_concat, if_pos hof, exchanged,
    step_task_of_some (getElem?_of_lone htasks), Task.clockMs_move, ← hfixed.cache]
  rw [← hfixed.cache] at hseeks
  exact Task.attends_move (address_run haddress events) hcredential hfixed.context hseeks m

/-- A task that has no answer yet has none after an event either, or has obtained one. -/
theorem Seeking.concat (hseeking : w.Seeking t₀ rest events t)
    (haddress : w.resources.transport.address = id)
    (hcredential : t₀.run.context.credential.requiresToken = true) {e : Event}
    (hquiet : ∀ number backend, e ≠ .replace number backend) :
    (∃ t', w.Seeking t₀ rest (events ++ [e]) t') ∨
      ∃ t' lookedMs a, w.Supplied t₀ rest (events ++ [e]) t' lookedMs a := by
  have hstep := w.run_concat events e
  rcases step_of_lone hseeking.tasks hquiet with ⟨m, rfl, hafter, -⟩ | ⟨hother, hafter, hcaches⟩
  · rw [← hstep] at hafter
    have hfixed := hseeking.fixed.trans (t.fixed_move (w.run events).resources 0 m)
    have hattends := hseeking.attends haddress hcredential m
    rw [← hstep] at hattends
    rcases hattends.seeks_or_end with ⟨hnot, hnext⟩ | ⟨lookedMs, lock?, a, hread, hleaving, hend⟩
    · exact .inl ⟨_, hafter, hfixed, hnot, hnext⟩
    · exact .inr ⟨_, lookedMs, a, hafter, hfixed, ⟨lock?, hleaving⟩, hread, hend⟩
  · refine .inl ⟨t, hstep ▸ hafter, hseeking.fixed,
      (turnAt?_concat_of_not_isOf hother _).trans hseeking.stored, ?_⟩
    rw [lookedAt?, turnAt?_concat_of_not_isOf hother, ← lookedAt?, exchangesOf_concat, hother, hstep,
      hcaches, if_neg Bool.false_ne_true, List.append_nil]
    exact hseeking.seeks.later ((w.run events).clockMs_step_le e)

/-- At any moment a lone task has no answer yet, or it has obtained one at an earlier moment. -/
theorem seeking_or_supplied (htasks : w.tasks = [t₀])
    (hstage : t₀.stage = .ready (.authenticate rest))
    (haddress : w.resources.transport.address = id)
    (hcredential : t₀.run.context.credential.requiresToken = true)
    (hquiet : ∀ number backend, Event.replace number backend ∉ events) :
    (∃ t, w.Seeking t₀ rest events t) ∨
      ∃ earlier later t lookedMs a, events = earlier ++ later ∧
        w.Supplied t₀ rest earlier t lookedMs a := by
  induction events using List.reverseRecOn with
  | nil => exact .inl ⟨t₀, htasks, ⟨rfl, rfl, rfl⟩, rfl, hstage ▸ .ready⟩
  | append_singleton events e ih =>
      have hbefore : ∀ number backend, Event.replace number backend ∉ events :=
        fun number backend hmem => hquiet number backend (List.mem_append_left _ hmem)
      have hnow : ∀ number backend, e ≠ .replace number backend := fun number backend he =>
        hquiet number backend (List.mem_append_right _ (List.mem_singleton.mpr he.symm))
      rcases ih hbefore with ⟨t, hseeking⟩ | ⟨earlier, later, t, lookedMs, a, rfl, hsupplied⟩
      · rcases hseeking.concat haddress hcredential hnow with
          hstill | ⟨t', lookedMs, a, hsupplied⟩
        · exact .inl hstill
        · exact .inr ⟨_, [], t', lookedMs, a, (List.append_nil _).symm, hsupplied⟩
      · exact .inr ⟨earlier, later ++ [e], t, lookedMs, a, List.append_assoc .., hsupplied⟩

/-- A lone task that has ended had an answer before, and went on with it.  The store at the end is
the one that its lookup left. -/
theorem lookupEnd_of_result (htasks : w.tasks = [t₀])
    (hstage : t₀.stage = .ready (.authenticate rest))
    (haddress : w.resources.transport.address = id)
    (hcredential : t₀.run.context.credential.requiresToken = true) (hasks : ∀ a, (rest a).Asks P)
    (hquiet : ∀ number backend, Event.replace number backend ∉ events) {result : Except String β}
    (hresult : (w.run events).tasks[0]?.bind Task.result? = some result) :
    ∃ lookedMs clockMs tokens calls run a run', w.lookedAt? 0 events = some lookedMs ∧
      clockMs ≤ (w.run events).resources.clockMs ∧ w.exchangesOf 0 events = tokens ++ calls ∧
      LookupEnd (w.resources.cache t₀.cache) t₀.run lookedMs clockMs (w.storedAt? 0 events) tokens
        ((w.run events).resources.cache t₀.cache).backend run a ∧
      Task.Answered t₀.options (w.run events).resources.clockMs run rest calls run' result a := by
  rcases seeking_or_supplied htasks hstage haddress hcredential hquiet with
    ⟨t, hseeking⟩ | ⟨earlier, later, t, lookedMs, a, rfl, hsupplied⟩
  · rw [getElem?_of_lone hseeking.tasks] at hresult
    exact nomatch hseeking.seeks.result?_eq_none.symm.trans hresult
  · obtain ⟨lock?, hleaving⟩ := hsupplied.stage
    have hspent : t.Spent P := by
      rw [Task.Spent, hleaving]
      exact ⟨rfl, ⟨lock?, a, rfl⟩, hasks⟩
    have hlater : ∀ number backend, Event.replace number backend ∉ later :=
      fun number backend hmem => hquiet number backend (List.mem_append_right _ hmem)
    obtain ⟨hturns, hstores⟩ := spent_run hsupplied.tasks hspent hlater
    have hrun : w.run (earlier ++ later) = (w.run earlier).run later := List.foldl_append ..
    have hkinds : ∀ kind, (∀ lock? a, kind (.leaving lock? a) = false) →
        w.turnAt? 0 kind (earlier ++ later) = w.turnAt? 0 kind earlier := by
      intro kind hkind
      rw [turnAt?_append, hturns kind hkind, Option.or_none]
    obtain ⟨t', ht', hpath⟩ := path_run (address_run haddress earlier)
      (getElem?_of_lone hsupplied.tasks) later
    rw [hrun, ht'] at hresult
    have howes := Task.owes_of_path hpath hresult
    rw [Task.Owes, hleaving, hsupplied.fixed.options] at howes
    refine ⟨lookedMs, (w.run earlier).resources.clockMs, w.exchangesOf 0 earlier,
      (w.run earlier).exchangesOf 0 later, t.run, a, t'.run,
      (hkinds _ fun _ _ => rfl).trans hsupplied.looked, ?_, exchangesOf_append .., ?_, ?_⟩
    · exact hrun ▸ (w.run earlier).clockMs_run_le later
    · rw [hrun, hstores, storedAt?, hkinds _ fun _ _ => rfl]
      exact hsupplied.answer
    · rw [hrun]
      exact howes

end World

end Operation
end SupplierGateway
