import SupplierGateway.Proofs.Cache.CredentialText
import SupplierGateway.Proofs.Operation.Agreement
import SupplierGateway.Proofs.Operation.Lookups

/-!
# Cached tokens are genuine

When replies depend on the requests only, all operations that ask for a token of one client are
issued the same one.  A cache that was empty in the beginning has no other token of the client, if
the store behind it has no entries of its own: it may refuse to store or to fetch, lose entries,
restore entries that it had before, and give bytes that cannot be read.

* `Transport.Memoryless` — replies depend on the request only;
* `Context.tokenAnswer` — the result of a token call, and `Context.Issues` — the token;
* `World.StoresFail` — the ways in which stores may fail;
* `World.Genuine` — the invariant: credentials that are read from the cache have the token, and so
  do tasks;
* `World.genuine_run` — it holds after any events.
-/

namespace SupplierGateway

namespace Http

variable {t : Transport} {reply : Request → Reply}

/-- The reply to a request depends on the request only, and not on those before it. -/
def Transport.Memoryless (t : Transport) (reply : Request → Reply) : Prop :=
  ∀ (sent : List Request) (q : Request),
    ((sent.foldl (fun t q => (t.send q).1) t).send q).2 = reply q

theorem Transport.Memoryless.send (hmemoryless : t.Memoryless reply) (q : Request) :
    (t.send q).1.Memoryless reply :=
  fun sent => hmemoryless (q :: sent)

theorem Transport.Memoryless.reply_send (hmemoryless : t.Memoryless reply) (q : Request) :
    (t.send q).2 = reply q :=
  hmemoryless [] q

/-- A transport without routes is memoryless if its rule depends on the request only. -/
theorem Transport.memoryless_of_rule (reply : Request → Reply) :
    Transport.Memoryless { otherwise := fun _ => reply } reply := by
  have hsent : ∀ sent log : List Request,
      sent.foldl (fun t q => (t.send q).1) ({ otherwise := fun _ => reply, log } : Transport) =
        { otherwise := fun _ => reply, log := log ++ sent } := by
    intro sent
    induction sent with
    | nil => intro log; rw [List.append_nil]; rfl
    | cons q sent ih =>
        intro log
        rw [List.append_cons]
        exact ih (log ++ [q])
  intro sent q
  rw [hsent]
  rfl

end Http

namespace Cache

variable {α : Type}

/-- Every value that is read from the bytes satisfies a predicate. -/
def Codec.Genuine (codec : Codec α) (known : α → Prop) (bytes : List UInt8) : Prop :=
  ∀ key a, (readBytes codec key bytes).1 = some a → known a

end Cache

namespace Operation

open Cache (CachedCredential)
open Call (Exchange Undertaken exchanges)
open Http (Reply Request)
open Supplier (IssuedToken)

variable {β : Type} {reply : Request → Reply}

/-! ## The token of a client -/

namespace Context

/-- The result of a token call. -/
def tokenAnswer (reply : Request → Reply) (c : Context) : Attempt IssuedToken :=
  (Attempt.ofExcept (Supplier.token c.endpoint c.credential)).bind fun q =>
    let sent := (c.derive .auth).pipeline.outgoing q
    Exchange.comesTo readIssued { request := sent, reply := reply sent }

/-- A token is the one that a token call is issued. -/
def Issues (reply : Request → Reply) (c : Context) (token : String) : Prop :=
  ∃ t, c.tokenAnswer reply = .success t ∧ t.token = token

/-- The result of an exchange for a token is the one given by the replies. -/
theorem tokenAnswer_of_exchange {c : Context} {q : Request} {x : Exchange}
    (hrequest : Attempt.ofExcept (Supplier.token c.endpoint c.credential) = .success q)
    (hsent : x.request = (c.derive .auth).pipeline.outgoing q) (hreplied : x.RepliedBy reply) :
    c.tokenAnswer reply = x.comesTo readIssued := by
  have hx : x = { request := x.request, reply := reply x.request } :=
    hreplied.unique (y := { request := x.request, reply := reply x.request }) rfl rfl
  rw [tokenAnswer, hrequest, hx, hsent]
  rfl

/-- The result of a token call that was settled is the one given by the replies. -/
theorem tokenAnswer_of_undertaken {r : Run} {xs : List Exchange} {rs : List Audit.CallRecord}
    {a : Attempt IssuedToken}
    (hcall : Undertaken (r.pipeline .auth) readIssued r.tokenRequest xs rs a)
    (hreplied : ∀ x ∈ xs, x.RepliedBy reply) : r.context.tokenAnswer reply = a := by
  have hanswer : ∀ {f : Attempt Request}, r.tokenRequest = f →
      r.context.tokenAnswer reply = f.bind fun q =>
        Exchange.comesTo readIssued
          { request := (r.pipeline .auth).outgoing q
            reply := reply ((r.pipeline .auth).outgoing q) } := by
    rintro f rfl
    rfl
  generalize hrequest : r.tokenRequest = request at hcall
  cases hcall with
  | unsent f => exact hanswer hrequest
  | crashed text => exact hanswer hrequest
  | sent q x record hsent hrecord =>
      exact tokenAnswer_of_exchange hrequest hsent (hreplied x (List.mem_singleton_self x))

/-- The result of a token call does not depend on delays within its time limit. -/
theorem tokenAnswer_of_delayed {sends : Request → Prop} {reply' : Request → Reply}
    (hdelayed : Http.Delayed sends reply reply') {c : Context}
    (hsends : ∀ q, Supplier.token c.endpoint c.credential = .ok q →
      sends ((c.derive .auth).pipeline.outgoing q)) :
    c.tokenAnswer reply = c.tokenAnswer reply' := by
  rw [tokenAnswer, tokenAnswer]
  cases hrequest : Supplier.token c.endpoint c.credential with
  | error f => rfl
  | ok q =>
      exact congrArg (Call.decoded readIssued)
        (Exchange.delivery_eq_of_delayed hdelayed (x := { request := _, reply := _ })
          (y := { request := _, reply := _ }) (hsends q hrequest) rfl rfl rfl)

end Context

/-- A credential that was written is read back with its token. -/
theorem genuine_of_written {known : String → Prop} {c : CachedCredential} {text : String}
    (hwritten : credentialCodec.encode c = .ok text) (hknown : known c.token) :
    credentialCodec.Genuine (fun found => known found.token)
      (Compression.compress text.toUTF8.data.toList) := by
  intro key found hread
  obtain rfl := Except.ok.inj hwritten
  have hdecoded : credentialCodec.decode c.json.compact = some found :=
    (Cache.readBytes_compress credentialCodec key c.json.compact).symm.trans hread
  have htoken : found.token = c.token := by
    simp only [credentialCodec, Cache.Codec.ofJson] at hdecoded
    split at hdecoded
    · next a ha =>
      obtain rfl := Option.some.inj hdecoded
      exact CachedCredential.token_of_ofText ha
    · cases hdecoded
  exact htoken ▸ hknown

/-! ## Stores that fail -/

namespace World

/-- In the course of events the store behind a cache had bytes under a key. -/
def Held (w : World β) (events : List Event) (number : Nat) (key : String) (bytes : List UInt8) :
    Prop :=
  ∃ past entry, past <+: events ∧
    (key, entry) ∈ ((w.run past).resources.cache number).backend.entries ∧ entry.bytes = bytes

/-- The failures of stores that are admitted.  A store that replaces another one may refuse to store
or to fetch, and the bytes that it has under a key were there at an earlier moment, or cannot be
read. -/
def StoresFail (w : World β) (events : List Event) : Prop :=
  ∀ earlier number backend later, events = earlier ++ .replace number backend :: later →
    ∀ key entry, (key, entry) ∈ backend.entries →
      (∀ key, (Cache.readBytes credentialCodec key entry.bytes).1 = none) ∨
        w.Held earlier number key entry.bytes

/-- Events without a replacement of stores are admitted. -/
theorem storesFail_of_quiet (w : World β) {events : List Event}
    (hquiet : ∀ number backend, Event.replace number backend ∉ events) : w.StoresFail events := by
  rintro earlier number backend later rfl
  exact absurd (by simp) (hquiet number backend)

theorem StoresFail.of_concat {w : World β} {events : List Event} {e : Event}
    (hfail : w.StoresFail (events ++ [e])) : w.StoresFail events := by
  rintro earlier number backend later rfl
  exact hfail earlier number backend (later ++ [e]) (by simp)

/-! ## Stored tokens -/

/-- The invariant of a cache and the key of a client: credentials that are read under the key have
the token of the client, and so do the tasks that use the key. -/
structure Genuine (reply : Request → Reply) (number : Nat) (c : Context) (w : World β) : Prop where
  address : w.resources.transport.address = id
  memoryless : w.resources.transport.Memoryless reply
  kept : ∀ entry, (Cache.key c.endpoint c.credential, entry) ∈
      (w.resources.cache number).backend.entries →
    credentialCodec.Genuine (fun found => c.Issues reply found.token) entry.bytes
  tasks : ∀ t ∈ w.tasks, t.cache = number → t.tokenKey = Cache.key c.endpoint c.credential →
    t.run.context.tokenAnswer reply = c.tokenAnswer reply ∧
      t.Vouched (c.Issues reply) (Exchange.RepliedBy reply)

variable {number : Nat} {c : Context} {w : World β}

/-- The tokens that a task of the client learns by a move are that of the client. -/
theorem Genuine.learns (hgenuine : w.Genuine reply number c) {t : Task β} (ht : t ∈ w.tasks)
    (hcache : t.cache = number) (hkey : t.tokenKey = Cache.key c.endpoint c.credential) (who : Nat)
    (m : Move) :
    t.Learns w.resources who m (c.Issues reply) (Exchange.RepliedBy reply) (c.Issues reply)
      (Exchange.RepliedBy reply) where
  known_mono _ := id
  sent_mono _ := id
  found := by
    subst hcache
    intro lookup call? found lines _ _ _ hglance
    obtain ⟨entry, hentry, hread⟩ := Cache.entry_of_glance hglance
    exact hgenuine.kept entry (hkey ▸ hentry) _ _ hread
  issued := by
    intro x q issued hreplied hrequest hsent hcomesTo
    have hanswer := Context.tokenAnswer_of_exchange hrequest hsent hreplied
    rw [(hgenuine.tasks t ht hcache hkey).1] at hanswer
    exact ⟨issued, hanswer.trans hcomesTo, rfl⟩
  exchanged := by
    intro x hx
    obtain ⟨q, -, rfl⟩ := List.mem_map.mp hx
    exact hgenuine.memoryless.reply_send q

/-- A move of a task stores only credentials with the token. -/
theorem Genuine.kept_move (hgenuine : w.Genuine reply number c) {t : Task β} (ht : t ∈ w.tasks)
    (who : Nat) (m : Move) {entry : Cache.Entry}
    (hentry : (Cache.key c.endpoint c.credential, entry) ∈
      ((t.move w.resources who m).resources.cache number).backend.entries) :
    credentialCodec.Genuine (fun found => c.Issues reply found.token) entry.bytes := by
  have hmove := t.lookupMove_move w.resources who m
  generalize (t.move w.resources who m).resources.cache = caches,
    (t.move w.resources who m).task.phase? = next at hmove hentry
  cases hmove with
  | aside => exact hgenuine.kept entry hentry
  | loaded => exact hgenuine.kept entry hentry
  | turn lookup hphase _ _ =>
      by_cases hcache : number = t.cache
      · rw [Resources.cache_setCache, if_pos hcache] at hentry
        rcases Cache.mem_of_mem_advance hentry with
          hold | ⟨hkey, lock?, a, ttl, text, rfl, htext, hbytes⟩
        · exact hgenuine.kept entry (hcache ▸ hold)
        · -- The task stores what its token call was issued.
          obtain ⟨⟨lookup, call?⟩, hlookup, hfirst⟩ := Option.map_eq_some_iff.mp hphase
          obtain rfl : lookup = .storing lock? a ttl := hfirst
          have hvouched := (hgenuine.tasks t ht hcache.symm hkey.symm).2
          rw [hbytes]
          exact genuine_of_written htext ((hvouched.lookup _ _ hlookup).1 a rfl)
      · rw [Resources.cache_setCache, if_neg hcache] at hentry
        exact hgenuine.kept entry hentry

/-- An event that is no move of a task, and after which the bytes under the key are genuine, keeps
the invariant. -/
theorem Genuine.of_tasks_eq (hgenuine : w.Genuine reply number c) {w' : World β}
    (htransport : w'.resources.transport = w.resources.transport) (htasks : w'.tasks = w.tasks)
    (hkept : ∀ entry, (Cache.key c.endpoint c.credential, entry) ∈
        (w'.resources.cache number).backend.entries →
      credentialCodec.Genuine (fun found => c.Issues reply found.token) entry.bytes) :
    w'.Genuine reply number c where
  address := htransport ▸ hgenuine.address
  memoryless := htransport ▸ hgenuine.memoryless
  kept := hkept
  tasks := htasks ▸ hgenuine.tasks

theorem Genuine.task (hgenuine : w.Genuine reply number c) (who : Nat) (m : Move) :
    (w.step (.task who m)).Genuine reply number c := by
  cases hget : w.tasks[who]? with
  | none =>
      rw [step_task_of_none hget]
      exact hgenuine
  | some t =>
      have ht := List.mem_of_getElem? hget
      have hstep := step_task_of_some hget m
      refine ⟨address_step hgenuine.address _,
        transport_step (Q := (·.Memoryless reply)) (fun _ q hq => hq.send q) hgenuine.memoryless _,
        ?_, ?_⟩
      · rw [hstep]
        exact fun entry hentry => hgenuine.kept_move ht who m hentry
      · rw [hstep]
        intro t' ht' hcache hkey
        rcases List.mem_or_eq_of_mem_set ht' with hold | rfl
        · exact hgenuine.tasks t' hold hcache hkey
        · have hfixed := t.fixed_move w.resources who m
          rw [hfixed.cache] at hcache
          rw [hfixed.tokenKey] at hkey
          obtain ⟨hanswer, hvouched⟩ := hgenuine.tasks t ht hcache hkey
          exact ⟨hfixed.context ▸ hanswer,
            hvouched.move hgenuine.address (hgenuine.learns ht hcache hkey who m)⟩

/-- The invariant holds after any events with admitted failures of stores. -/
theorem genuine_run (hgenuine : w.Genuine reply number c) {events : List Event}
    (hfail : w.StoresFail events) {past : List Event} (hpast : past <+: events) :
    (w.run past).Genuine reply number c := by
  induction events using List.reverseRecOn generalizing past with
  | nil => exact List.prefix_nil.mp hpast ▸ hgenuine
  | append_singleton events e ih =>
      rcases List.prefix_concat_iff.mp hpast with rfl | hbefore
      · have hnow := ih hfail.of_concat List.prefix_rfl
        rw [run_concat]
        cases e with
        | task who m => exact hnow.task who m
        | wait ms => exact hnow.of_tasks_eq rfl rfl hnow.kept
        | replace other backend =>
            refine hnow.of_tasks_eq rfl rfl fun entry hentry => ?_
            by_cases hnumber : number = other
            · subst hnumber
              have hin : (Cache.key c.endpoint c.credential, entry) ∈ backend.entries := by
                simpa [step, turn, Resources.setCache] using hentry
              rcases hfail events number backend [] rfl _ entry hin with
                hunreadable | ⟨earlier, old, hearlier, hold, hbytes⟩
              · intro key found hread
                cases (hunreadable key).symm.trans hread
              · rw [← hbytes]
                exact (ih hfail.of_concat hearlier).kept old hold
            · refine hnow.kept entry ?_
              simpa [step, turn, Resources.setCache, hnumber] using hentry
      · exact ih hfail.of_concat hbefore

end World
end Operation
end SupplierGateway
