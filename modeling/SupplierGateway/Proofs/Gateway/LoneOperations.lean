import SupplierGateway.Proofs.Gateway.CacheTransparency
import SupplierGateway.Proofs.Operation.Lone

/-!
# Operations without others

While an operation is carried out, no other operation moves and no other user accesses its store.
Then the content of its cache at its first read and the replies determine its answer.

* `lone_end` — how an operation obtains a token, and how it goes on;
* `lone_without_token` — an operation that needs no token does not use its cache;
* `tokenAt` and `follows_of_lookupEnd` — over a transport whose replies depend on the requests only,
  the token at the first read determines how the operation goes on;
* `Solitude.agree_of_delayed` — the answer does not depend on latencies then.

Nothing is assumed about the content of the cache.
-/

namespace SupplierGateway
namespace Service

open Call (Exchange)
open Http (Reply Request Transport)
open Operation (Envelope Event LookupEnd Missed Resources Run Script Task World readIssued)

variable {r : Resources} {g : Gateway} {number : Nat} {s : Service} {events : List Event}
  {result : Except String (Envelope Payload)}

/-- An operation authenticates first, and then goes on to its main call or makes no call. -/
theorem script_eq (g : Gateway) (s : Service) :
    ∃ rest, s.script g = .authenticate rest ∧ (∀ a, (rest a).Asks (Asked g s)) ∧
      rest (.ok ()) = s.mainCall g ∧ ∀ f, rest (.error f) = s.close s.empty := by
  refine ⟨_, rfl, fun a => ?_, rfl, fun _ => rfl⟩
  cases a with
  | ok _ => exact asks_mainCall g s
  | error f => exact asks_close ..

/-- The end of an operation whose authentication has the given answer. -/
def GoesOn (g : Gateway) (s : Service) (latest : Nat) (run : Run) (calls : List Exchange)
    (result : Except String (Envelope Payload)) : Attempt Cache.CachedCredential → Prop
  | .success c => ∃ run', (s.mainCall g).Ends g.fanOut latest (run.authorize c.token) calls run' result
  | .failure _ => calls = [] ∧ result = .ok (run.envelope s.policy s.empty s.empty)
  | .crash text => calls = [] ∧ result = .error text

/-- An operation that needs a token and has ended had an answer of authentication before: from its
cache at its first read, or from a token call. -/
theorem lone_end (haddress : r.transport.address = id)
    (hrequired : g.credential.requiresToken = true)
    (hquiet : ∀ number backend, Event.replace number backend ∉ events)
    (hresult : ((opening r [(g, number, s)]).run events).tasks[0]?.bind Task.result? =
      some result) :
    ∃ lookedMs clockMs tokens calls run a,
      (opening r [(g, number, s)]).lookedAt? 0 events = some lookedMs ∧
      clockMs ≤ ((opening r [(g, number, s)]).run events).resources.clockMs ∧
      (opening r [(g, number, s)]).exchangesOf 0 events = tokens ++ calls ∧
      LookupEnd (r.cache number) (Run.begin (g.context s.phase)) lookedMs clockMs
        ((opening r [(g, number, s)]).storedAt? 0 events) tokens
        (((opening r [(g, number, s)]).run events).resources.cache number).backend run a ∧
      GoesOn g s ((opening r [(g, number, s)]).run events).resources.clockMs run calls result a := by
  obtain ⟨rest, hscript, hasks, hmain, hclosed⟩ := script_eq g s
  have htasks : (opening r [(g, number, s)]).tasks = [s.task g number] := rfl
  obtain ⟨lookedMs, clockMs, tokens, calls, run, a, run', hlooked, hclock, hsplit, hend, hanswered⟩ :=
    World.lookupEnd_of_result htasks (congrArg Operation.Stage.ready hscript) haddress hrequired
      hasks hquiet hresult
  refine ⟨lookedMs, clockMs, tokens, calls, run, a, hlooked, hclock, hsplit, hend, ?_⟩
  cases a with
  | success c => exact ⟨run', hmain ▸ hanswered⟩
  | failure f =>
      rw [Task.Answered, hclosed] at hanswered
      exact ends_close hanswered
  | crash text => exact ⟨hanswered.1, hanswered.2.2⟩

/-- An operation that needs no token does not use its cache. -/
theorem lone_without_token (hcredential : g.credential.requiresToken = false)
    (hquiet : ∀ number backend, Event.replace number backend ∉ events) :
    (opening r [(g, number, s)]).lookedAt? 0 events = none ∧
      (opening r [(g, number, s)]).storedAt? 0 events = none ∧
      ∀ n, (((opening r [(g, number, s)]).run events).resources.cache n).backend =
        (r.cache n).backend := by
  obtain ⟨rest, hscript, hasks, -⟩ := script_eq g s
  have hspent : (s.task g number).Spent (Asked g s) := .inr ⟨hcredential, rest, hscript, hasks⟩
  obtain ⟨hturns, hstores⟩ := World.spent_run (w := opening r [(g, number, s)]) rfl hspent hquiet
  exact ⟨hturns _ fun _ _ => rfl, hturns _ fun _ _ => rfl, hstores⟩

/-! ## Replies that depend on the requests only -/

variable {reply : Request → Reply} {c₀ : Cache} {lookedMs clockMs latest : Nat}
  {storedAt? : Option Nat} {tokens calls : List Exchange} {b : Cache.Backend} {run : Run}
  {a : Attempt Cache.CachedCredential}

/-- The token of an operation that reads its cache first when the clock shows the given
milliseconds. -/
def tokenAt (reply : Request → Reply) (g : Gateway) (c₀ : Cache) (lookedMs : Nat) :
    Attempt String :=
  match Cache.Usage.read { cache := c₀, clockMs := lookedMs } Operation.credentialCodec
      (Cache.key g.endpoint g.credential) with
  | some c => .success c.token
  | none => ((g.context .auth).tokenAnswer reply).map (·.token)

theorem tokenAt_of_missed
    (hmissed : Missed c₀ (Run.begin (g.context s.phase)).context.tokenKey lookedMs clockMs b)
    {rs : List Audit.CallRecord} {issued : Attempt Supplier.IssuedToken}
    (hcall : Call.Undertaken ((Run.begin (g.context s.phase)).pipeline .auth) readIssued
      (Run.begin (g.context s.phase)).tokenRequest tokens rs issued)
    (hreplied : ∀ x ∈ tokens, x.RepliedBy reply) :
    (g.context .auth).tokenAnswer reply = issued ∧
      tokenAt reply g c₀ lookedMs = issued.map (·.token) := by
  have hanswer : (g.context .auth).tokenAnswer reply = issued :=
    Operation.Context.tokenAnswer_of_undertaken hcall hreplied
  have hunread : Cache.Usage.read { cache := c₀, clockMs := lookedMs } Operation.credentialCodec
      (Cache.key g.endpoint g.credential) = none := hmissed.unread
  exact ⟨hanswer, by rw [tokenAt, hunread, hanswer]⟩

/-- The end of an operation that has a token, is refused one or crashes, up to the records of token
calls and times. -/
def Follows (g : Gateway) (s : Service) (latest : Nat) (calls : List Exchange)
    (result : Except String (Envelope Payload)) : Attempt String → Prop
  | .success token => ∃ after run',
      after.Alike ((Run.begin (g.context s.phase)).authorize token) ∧
        (s.mainCall g).Ends g.fanOut latest after calls run' result
  | .failure f => ∃ env, result = .ok env ∧ env.Alike (refusal s f)
  | .crash _ => False

/-- The token of an operation determines how it goes on. -/
theorem follows_of_lookupEnd (hrequired : g.credential.requiresToken = true)
    (hcalm : ∀ q, (reply q).Answers)
    (hend : LookupEnd c₀ (Run.begin (g.context s.phase)) lookedMs clockMs storedAt? tokens b run a)
    (hgoes : GoesOn g s latest run calls result a) (hreplied : ∀ x ∈ tokens, x.RepliedBy reply)
    (hclock : ∀ t storedMs, (g.context .auth).tokenAnswer reply = .success t →
      storedAt? = some storedMs → ¬ Cache.BeyondClock storedMs (.ofSecs t.lifetimeSecs)) :
    Follows g s latest calls result (tokenAt reply g c₀ lookedMs) := by
  have hissued : ∀ {rs : List Audit.CallRecord} {t : Supplier.IssuedToken},
      Call.Undertaken ((Run.begin (g.context s.phase)).pipeline .auth) readIssued
        (Run.begin (g.context s.phase)).tokenRequest tokens rs (.success t) →
      run = (Run.begin (g.context s.phase)).addRecords rs →
      a = .success (Operation.kept (Run.begin (g.context s.phase)).context.tokenKey t).1 →
        Follows g s latest calls result (.success t.token) := by
    rintro rs t hcall rfl rfl
    obtain ⟨run', hends⟩ := hgoes
    exact ⟨((Run.begin (g.context s.phase)).addRecords rs).authorize t.token, run',
      ⟨rfl, rfl, rfl, .of_eq (substance_of_tokenCall hrequired hcall)⟩, hends⟩
  cases hend with
  | found c hread =>
      have hread' : Cache.Usage.read { cache := c₀, clockMs := lookedMs }
          Operation.credentialCodec (Cache.key g.endpoint g.credential) = some c := hread
      rw [tokenAt, hread']
      obtain ⟨run', hends⟩ := hgoes
      exact ⟨_, run', ⟨rfl, rfl, rfl, .refl _⟩, hends⟩
  | unkept hmissed _ rs t hcall hzero =>
      rw [(tokenAt_of_missed hmissed hcall hreplied).2]
      exact hissued hcall rfl rfl
  | stored hmissed _ rs t hcall hlasts =>
      rw [(tokenAt_of_missed hmissed hcall hreplied).2]
      exact hissued hcall rfl rfl
  | unstorable hmissed _ rs t hcall hlasts hbeyond =>
      exact absurd hbeyond (hclock t _ (tokenAt_of_missed hmissed hcall hreplied).1 rfl)
  | refused hmissed _ rs f hcall =>
      rw [(tokenAt_of_missed hmissed hcall hreplied).2]
      obtain ⟨-, rfl⟩ := hgoes
      exact ⟨_, rfl, ite_self _, rfl, .of_eq (substance_of_tokenCall hrequired hcall)⟩
  | crashed hmissed _ rs text hcall =>
      -- Neither making the request for a token nor reading the reply crashes.
      exact absurd rfl (hcall.ne_crash (fun text => Attempt.ofExcept_ne_crash _ text)
        (fun body text => Attempt.ofExcept_ne_crash _ text)
        (fun x hx => Exchange.answered (hreplied x hx ▸ hcalm x.request)) text)

/-- An operation without others, over a transport whose replies depend on the requests only, with
its resources. -/
structure Solitude (reply : Request → Reply) (g : Gateway) (s : Service) where
  resources : Resources
  /-- The number of the cache that it uses. -/
  number : Nat
  address : resources.transport.address = id
  memoryless : resources.transport.Memoryless reply

namespace Solitude

/-- The world in which the operation begins. -/
def world (u : Solitude reply g s) : World (Envelope Payload) :=
  opening u.resources [(g, u.number, s)]

/-- The result of the operation, if it has one. -/
def result? (u : Solitude reply g s) (events : List Event) :
    Option (Except String (Envelope Payload)) :=
  (u.world.run events).tasks[0]?.bind Task.result?

/-- The cache that the operation uses. -/
def cache (u : Solitude reply g s) : Cache := u.resources.cache u.number

/-- The conditions on the events: no other user accesses the stores, and an issued token does not
expire beyond the clock. -/
structure Admits (u : Solitude reply g s) (events : List Event) : Prop where
  quiet : ∀ number backend, Event.replace number backend ∉ events
  lifetimes : ∀ t, (g.context .auth).tokenAnswer reply = .success t →
    ¬ Cache.BeyondClock (u.world.run events).resources.clockMs (.ofSecs t.lifetimeSecs)

variable {u : Solitude reply g s}

theorem replied (u : Solitude reply g s) (events : List Event) :
    ∀ x ∈ u.world.exchangesOf 0 events, x.RepliedBy reply :=
  World.forall_exchangesOf (Q := (·.Memoryless reply)) (fun _ q ht => ht.send q)
    (fun _ q ht => ht.reply_send q) u.memoryless 0 events

/-- The operation ends in a fair schedule, if no lock of its key was left behind. -/
theorem exists_result (u : Solitude reply g s)
    (hidle : u.cache.locks.Idle (Cache.key g.endpoint g.credential)) {schedule : Nat → Event}
    (hfair : u.world.Fair 0 schedule) :
    ∃ n result, u.result? ((List.range n).map schedule) = some result := by
  have hsolo : u.world.Solo (s.task g u.number) :=
    { tasks := rfl
      address := u.address
      unhindered := hidle }
  exact hsolo.ends_of_fair hfair

/-- An operation that needs no token goes on to its main call. -/
theorem ends_mainCall (hcredential : g.credential.requiresToken = false)
    (hresult : u.result? events = some result) :
    ∃ run', (s.mainCall g).Ends g.fanOut (u.world.run events).resources.clockMs
      (Run.begin (g.context s.phase)) (u.world.exchangesOf 0 events) run' result := by
  have horder : [(g, u.number, s)][0]? = some (g, u.number, s) := rfl
  obtain ⟨run', hends⟩ := ends_of_result u.address horder hresult
  have hnot : ∀ {P : Prop}, g.credential.requiresToken = true → P := fun hrequired =>
    absurd (hcredential.symm.trans hrequired) Bool.false_ne_true
  rw [script, Script.Ends] at hends
  obtain ⟨tokens, calls, a, after, hsplit, hauth, hend⟩ := hends
  cases hauth with
  | notRequired => exact ⟨run', hsplit ▸ hend⟩
  | cached hrequired | issued hrequired | refused hrequired | crashed hrequired
    | unstorable hrequired => exact hnot hrequired

/-- The token that the operation finds at its first read, or is issued, determines how it goes
on. -/
theorem follows (hcalm : ∀ q, (reply q).Answers) (hrequired : g.credential.requiresToken = true)
    (hadmits : u.Admits events) (hresult : u.result? events = some result) :
    ∃ lookedMs calls, u.world.lookedAt? 0 events = some lookedMs ∧
      (∀ x ∈ calls, x.RepliedBy reply) ∧
      Follows g s (u.world.run events).resources.clockMs calls result
        (tokenAt reply g u.cache lookedMs) := by
  obtain ⟨lookedMs, clockMs, tokens, calls, run, a, hlooked, -, hsplit, hend, hgoes⟩ :=
    lone_end u.address hrequired hadmits.quiet hresult
  have hreplied := u.replied events
  rw [world, hsplit] at hreplied
  obtain ⟨htokens, hcalls⟩ := List.forall_mem_append.mp hreplied
  refine ⟨lookedMs, calls, hlooked, hcalls,
    follows_of_lookupEnd hrequired hcalm hend hgoes htokens fun t storedMs hanswer hstored => ?_⟩
  -- An expiry that is within the clock at the end was so before.
  exact fun hbeyond =>
    hadmits.lifetimes t hanswer (hbeyond.mono (World.clockMs_of_turnAt? hstored).2)

theorem tokenAt_of_delayed {reply' : Request → Reply}
    (hdelayed : Http.Delayed (MaySend g s) reply reply') (c₀ : Cache) (lookedMs : Nat) :
    tokenAt reply g c₀ lookedMs = tokenAt reply' g c₀ lookedMs := by
  simp only [tokenAt, tokenAnswer_of_delayed hdelayed]

/-- The answer of an operation without others does not depend on latencies, as long as no reply is
in time in one run and late in the other, and the operation reads the same cache first at the same
time. -/
theorem agree_of_delayed {reply' : Request → Reply}
    (hdelayed : Http.Delayed (MaySend g s) reply reply') (hcalm : ∀ q, (reply q).Answers)
    (hslow : g.fanOut.failFast = false) (first : Solitude reply g s) (second : Solitude reply' g s)
    (hcache : first.cache = second.cache) {events events' : List Event}
    (hlook : first.world.lookedAt? 0 events = second.world.lookedAt? 0 events')
    (hfirst : first.Admits events) (hsecond : second.Admits events')
    {result result' : Except String (Envelope Payload)}
    (hresult : first.result? events = some result)
    (hresult' : second.result? events' = some result') :
    ∃ env env', result = .ok env ∧ result' = .ok env' ∧ env.Alike env' := by
  have hcalm' := hdelayed.answers hcalm
  -- From runs that are alike the main call ends in envelopes that are alike.
  have hmain : ∀ {latest latest' : Nat} {after after' run run' : Run} {calls calls' : List Exchange},
      after.context = g.context s.phase → after.Alike after' →
      (∀ x ∈ calls, x.RepliedBy reply) → (∀ x ∈ calls', x.RepliedBy reply') →
      (s.mainCall g).Ends g.fanOut latest after calls run result →
      (s.mainCall g).Ends g.fanOut latest' after' calls' run' result' →
        ∃ env env', result = .ok env ∧ result' = .ok env' ∧ env.Alike env' := by
    intro latest latest' after after' run run' calls calls' hcontext halike hcalls hcalls' hends
      hends'
    obtain ⟨env, rfl⟩ := (careful_mainCall g s).exists_result hends fun x hx =>
      Exchange.answered (hcalls x hx ▸ hcalm x.request)
    obtain ⟨env', rfl⟩ := (careful_mainCall g s).exists_result hends' fun x hx =>
      Exchange.answered (hcalls' x hx ▸ hcalm' x.request)
    exact ⟨env, env', rfl, rfl, mainCall_alike hdelayed hcalm hslow hcontext halike hends hends'
      hcalls hcalls'⟩
  cases hcredential : g.credential.requiresToken with
  | false =>
      obtain ⟨run, hends⟩ := ends_mainCall hcredential hresult
      obtain ⟨run', hends'⟩ := ends_mainCall hcredential hresult'
      exact hmain rfl ⟨rfl, rfl, rfl, .refl _⟩ (first.replied events) (second.replied events') hends
        hends'
  | true =>
      obtain ⟨lookedMs, calls, hlooked, hcalls, hfollows⟩ :=
        first.follows hcalm hcredential hfirst hresult
      obtain ⟨lookedMs', calls', hlooked', hcalls', hfollows'⟩ :=
        second.follows hcalm' hcredential hsecond hresult'
      obtain rfl : lookedMs = lookedMs' :=
        Option.some.inj (hlooked.symm.trans (hlook.trans hlooked'))
      rw [← hcache, ← tokenAt_of_delayed hdelayed] at hfollows'
      generalize tokenAt reply g first.cache lookedMs = token at hfollows hfollows'
      cases token with
      | success token =>
          obtain ⟨after, run, halike, hends⟩ := hfollows
          obtain ⟨after', run', halike', hends'⟩ := hfollows'
          exact hmain halike.context (halike.trans halike'.symm) hcalls hcalls' hends hends'
      | failure f =>
          obtain ⟨env, rfl, halike⟩ := hfollows
          obtain ⟨env', rfl, halike'⟩ := hfollows'
          exact ⟨env, env', rfl, rfl, halike.trans halike'.symm⟩
      | crash text => exact hfollows.elim

end Solitude

end Service
end SupplierGateway
