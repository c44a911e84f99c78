import SupplierGateway.Proofs.Gateway.AuthenticationGate
import SupplierGateway.Proofs.Operation.Genuine
import SupplierGateway.Proofs.Operation.Liveness

/-!
# Caches only save token calls

A cache saves an operation the token call, and has no other effect on its answer.  Over a transport
whose replies depend on the requests only, the answer is the same whether the operation finds a
token or asks for one, with or without single-flight, and for any failures of the stores behind the
caches.

* `admission`, `admitted` and `refusal` — the end of authentication as a function of the replies,
  and the run or the answer after it;
* `admitted_or_refused` — an operation goes on in that run or has that answer;
* `Setup` and `Setup.Admits` — the resources and the other operations, and the events with failing
  stores;
* `Setup.exists_result` — in every set-up the operation has a result at some moment;
* `Setup.agree` — in any two set-ups its answers are alike;
* `cache_only_optimises` — both properties;
* `contended_like_ordinary` — a cache that refuses to store and to fetch, and one that does not.

Times are not compared, since an operation that waits for a token begins its calls later.
-/

namespace SupplierGateway
namespace Service

open Call (Exchange)
open Http (Authorization Reply Request)
open Operation (Authenticates Envelope Event Resources Run Script Task World readIssued)

variable {reply : Request → Reply} {g : Gateway} {s : Service}

/-! ## Authentication -/

/-- The authorization of the requests that a gateway makes after authentication. -/
def admission (reply : Request → Reply) (g : Gateway) : Authorization :=
  if g.credential.requiresToken then
    match (g.context .auth).tokenAnswer reply with
    | .success t => .bearer t.token
    | .failure _ | .crash _ => .none
  else Operation.initialAuthorization g.credential

/-- The run of an operation that has passed authentication, without its records. -/
def admitted (reply : Request → Reply) (g : Gateway) (s : Service) : Run :=
  { Run.begin (g.context s.phase) with authorization := admission reply g }

/-- The answer of an operation that is refused a token, without its records. -/
def refusal (s : Service) (f : Failure) : Envelope Payload := { payload := s.empty, errors := [f] }

theorem admission_of_success (hrequired : g.credential.requiresToken = true)
    {t : Supplier.IssuedToken} (hanswer : (g.context .auth).tokenAnswer reply = .success t) :
    admission reply g = .bearer t.token := by
  rw [admission, if_pos hrequired, hanswer]

/-- A request that an operation may send: a token request, or one of its own kind.  It carries the
timeout of its phase. -/
inductive MaySend (g : Gateway) (s : Service) : Request → Prop
  | token (asked : Request) (hbuilt : Supplier.token g.endpoint g.credential = .ok asked) :
      MaySend g s ((g.context .auth).pipeline.outgoing asked)
  | main (phase : Phase) (z : Authorization) (asked sent : Request) (hasked : Asked g s phase asked)
      (hcarries : Http.Carries z asked sent)
      (htimeout : sent.timeoutMs = g.timeouts.resolve phase) : MaySend g s sent

/-- The end of a token call does not depend on its latency, as long as it is not abandoned. -/
theorem tokenAnswer_of_delayed {reply' : Request → Reply}
    (hdelayed : Http.Delayed (MaySend g s) reply reply') :
    (g.context .auth).tokenAnswer reply = (g.context .auth).tokenAnswer reply' :=
  Operation.Context.tokenAnswer_of_delayed hdelayed fun q => .token q

theorem admitted_of_delayed {reply' : Request → Reply}
    (hdelayed : Http.Delayed (MaySend g s) reply reply') :
    admitted reply g s = admitted reply' g s := by
  simp only [admitted, admission, tokenAnswer_of_delayed hdelayed]

variable {latest : Nat} {r' : Run} {xs : List Exchange} {result : Except String (Envelope Payload)}

/-- A token call leaves only the record of a token call. -/
theorem substance_of_tokenCall (hrequired : g.credential.requiresToken = true)
    {rs : List Audit.CallRecord} {a : Attempt Supplier.IssuedToken}
    (hcall : Call.Undertaken ((Run.begin (g.context s.phase)).pipeline .auth) readIssued
      (Run.begin (g.context s.phase)).tokenRequest xs rs a) : Audit.substance rs = [] := by
  obtain ⟨x, record, -, rfl, -, hrecord⟩ := tokenCall_sent hrequired hcall
  refine Audit.substance_of_auth fun r hr => ?_
  rw [List.mem_singleton.mp hr]
  exact hrecord.phase

/-- Authentication that succeeds ends in the run in which an operation goes on. -/
theorem alike_admitted {after : Run}
    (hauth : Authenticates latest (Run.begin (g.context s.phase)) xs (.success ()) after)
    (hreplied : ∀ x ∈ xs, x.RepliedBy reply)
    (hknown : ∀ token, after.authorization = .bearer token →
      (g.context .auth).Issues reply token) :
    after.Alike (admitted reply g s) ∧ ∀ f, g.credential.requiresToken = true →
      (g.context .auth).tokenAnswer reply ≠ .failure f := by
  have hne : ∀ {t f}, (g.context .auth).tokenAnswer reply = .success t →
      (g.context .auth).tokenAnswer reply ≠ .failure f :=
    fun hsuccess hfailure => nomatch hsuccess.symm.trans hfailure
  cases hauth with
  | notRequired hcredential =>
      have hnot : ¬ g.credential.requiresToken = true :=
        fun hrequired => Bool.false_ne_true (hcredential.symm.trans hrequired)
      refine ⟨⟨rfl, ?_, rfl, .refl _⟩, fun f hrequired => absurd hrequired hnot⟩
      exact (if_neg hnot).symm
  | cached hcredential c =>
      obtain ⟨t, hanswer, htoken⟩ := hknown c.token rfl
      refine ⟨⟨rfl, ?_, rfl, .refl _⟩, fun f _ => hne hanswer⟩
      exact (congrArg Authorization.bearer htoken).symm.trans
        (admission_of_success hcredential hanswer).symm
  | issued hcredential _ rs t hcall =>
      have hanswer : (g.context .auth).tokenAnswer reply = .success t :=
        Operation.Context.tokenAnswer_of_undertaken hcall hreplied
      refine ⟨⟨rfl, (admission_of_success hcredential hanswer).symm, rfl, .of_eq ?_⟩,
        fun f _ => hne hanswer⟩
      exact substance_of_tokenCall hcredential hcall

/-- The replies determine whether an operation passes authentication, and the run or the answer
after it. -/
theorem admitted_or_refused (hcalm : ∀ q, (reply q).Answers)
    (hends : (script g s).Ends g.fanOut latest (Run.begin (g.context s.phase)) xs r' result)
    (hreplied : ∀ x ∈ xs, x.RepliedBy reply)
    (hknown : ∀ token, r'.authorization = .bearer token → (g.context .auth).Issues reply token)
    (hclock : ∀ t, (g.context .auth).tokenAnswer reply = .success t →
      ¬ Cache.BeyondClock latest (.ofSecs t.lifetimeSecs)) :
    (∃ f env, g.credential.requiresToken = true ∧
      (g.context .auth).tokenAnswer reply = .failure f ∧ result = .ok env ∧
      env.Alike (refusal s f)) ∨
    (∀ f, g.credential.requiresToken = true →
      (g.context .auth).tokenAnswer reply ≠ .failure f) ∧
      ∃ after calls, after.Alike (admitted reply g s) ∧ (∀ x ∈ calls, x.RepliedBy reply) ∧
        (s.mainCall g).Ends g.fanOut latest after calls r' result := by
  rw [script, Script.Ends] at hends
  obtain ⟨tokens, calls, a, after, rfl, hauth, hend⟩ := hends
  obtain ⟨htokens, hcalls⟩ := List.forall_mem_append.mp hreplied
  cases a with
  | success _ =>
      obtain ⟨hsame, -⟩ := (asks_mainCall g s).requests hend
      obtain ⟨halike, hnot⟩ := alike_admitted hauth htokens fun token htoken =>
        hknown token (hsame.trans htoken)
      exact .inr ⟨hnot, after, calls, halike, hcalls, hend⟩
  | failure f =>
      obtain ⟨rfl, rfl⟩ := ends_close hend
      cases hauth with
      | refused hcredential _ rs _ hcall =>
          refine .inl ⟨f, _, hcredential,
            Operation.Context.tokenAnswer_of_undertaken hcall htokens, rfl, ?_⟩
          exact ⟨ite_self _, rfl, .of_eq (substance_of_tokenCall hcredential hcall)⟩
  | crash text =>
      -- No reply crashes, and a token that was issued can be stored.
      obtain ⟨-, -, x, t, rfl, hissued, hbeyond⟩ :=
        hauth.of_crash fun x hx => Exchange.answered (htokens x hx ▸ hcalm x.request)
      have hx := List.mem_singleton_self x
      obtain ⟨q, hrequest, hsent⟩ := hauth.requests.2 x hx
      have hanswer : (g.context .auth).tokenAnswer reply = .success t :=
        (Operation.Context.tokenAnswer_of_exchange hrequest hsent (htokens x hx)).trans hissued
      exact absurd hbeyond (hclock t hanswer)

/-- From runs that are alike the main call ends in envelopes that are alike, also when replies take
longer in one of them. -/
theorem mainCall_alike {reply' : Request → Reply}
    (hdelayed : Http.Delayed (MaySend g s) reply reply') (hcalm : ∀ q, (reply q).Answers)
    (hslow : g.fanOut.failFast = false) {latest latest' : Nat} {r r' after after' : Run}
    (hcontext : r.context = g.context s.phase) (halike : r.Alike r') {xs xs' : List Exchange}
    {env env' : Envelope Payload}
    (hends : (s.mainCall g).Ends g.fanOut latest r xs after (.ok env))
    (hends' : (s.mainCall g).Ends g.fanOut latest' r' xs' after' (.ok env'))
    (hxs : ∀ x ∈ xs, x.RepliedBy reply) (hxs' : ∀ x ∈ xs', x.RepliedBy reply') :
    env.Alike env' := by
  refine (closes_mainCall g s).alike hdelayed hcalm hslow (asks_mainCall g s) halike hends hends'
    (fun x hx => ⟨?_, hxs x hx⟩) hxs'
  obtain ⟨phase, asked, hasked, hcarries, htimeout⟩ := ((asks_mainCall g s).sends hends).2 x hx
  rw [hcontext] at htimeout
  exact .main phase _ asked _ hasked hcarries htimeout

/-! ## Set-ups -/

/-- A set-up of an operation: its resources, and the other operations that are carried out.  All
caches are empty in the beginning, with or without single-flight, and with stores that may
refuse. -/
structure Setup (reply : Request → Reply) (g : Gateway) (s : Service) where
  resources : Resources
  orders : List (Gateway × Nat × Service)
  /-- The number of the operation. -/
  who : Nat
  /-- The number of the cache that it uses. -/
  cache : Nat
  order : orders[who]? = some (g, cache, s)
  address : resources.transport.address = id
  memoryless : resources.transport.Memoryless reply
  empty : ∀ n, (resources.cache n).backend.entries = [] ∧ (resources.cache n).locks = {}
  /-- All operations that share the cache and the key are issued the same token, as those of one
  gateway are. -/
  shared : ∀ g' s', (g', cache, s') ∈ orders →
    Cache.key g'.endpoint g'.credential = Cache.key g.endpoint g.credential →
    (g'.context .auth).tokenAnswer reply = (g.context .auth).tokenAnswer reply

namespace Setup

/-- The world in which the operation begins. -/
def world (u : Setup reply g s) : World (Envelope Payload) := opening u.resources u.orders

/-- The result of the operation, if it has one. -/
def result? (u : Setup reply g s) (events : List Event) :
    Option (Except String (Envelope Payload)) :=
  (u.world.run events).tasks[u.who]?.bind Task.result?

/-- The conditions on the events: stores may fail, but have no entries of their own, and an issued
token does not expire beyond the clock. -/
structure Admits (u : Setup reply g s) (events : List Event) : Prop where
  stores : u.world.StoresFail events
  lifetimes : ∀ t, (g.context .auth).tokenAnswer reply = .success t →
    ¬ Cache.BeyondClock (u.world.run events).resources.clockMs (.ofSecs t.lifetimeSecs)

theorem genuine (u : Setup reply g s) : u.world.Genuine reply u.cache (g.context .auth) where
  address := by
    rw [world, transport_opening]
    exact u.address
  memoryless := by
    rw [world, transport_opening]
    exact u.memoryless
  kept entry hentry := by
    rw [world, cache_opening, (u.empty u.cache).1] at hentry
    exact absurd hentry List.not_mem_nil
  tasks t ht hcache hkey := by
    rw [world, tasks_opening] at ht
    obtain ⟨⟨g', cache', s'⟩, horder, rfl⟩ := List.mem_map.mp ht
    obtain rfl : cache' = u.cache := hcache
    exact ⟨u.shared g' s' horder hkey,
      Task.vouched_of_stage rfl fun token htoken => absurd htoken (initialAuthorization_ne _ token)⟩

variable {u : Setup reply g s} {events : List Event}

/-- Every exchange of the operation was replied to as its request says. -/
theorem replied (u : Setup reply g s) (events : List Event) :
    ∀ x ∈ u.world.exchangesOf u.who events, x.RepliedBy reply :=
  World.forall_exchangesOf (Q := (·.Memoryless reply)) (fun _ q ht => ht.send q)
    (fun _ q ht => ht.reply_send q) u.genuine.memoryless u.who events

/-- A token that the operation found or was issued is the one that its gateway is issued. -/
theorem issues_of_known (u : Setup reply g s) (hfail : u.world.StoresFail events) {token : String}
    (hknown : u.world.Found events u.who u.cache (Cache.key g.endpoint g.credential) token ∨
      u.world.Issued events u.who (Run.begin (g.context s.phase)) token) :
    (g.context .auth).Issues reply token := by
  rcases hknown with
    ⟨earlier, later, t, lookup, call?, c, lines, rfl, -, -, -, hglance, rfl⟩ |
    ⟨x, hx, q, t, hrequest, hsent, hcomesTo, rfl⟩
  · obtain ⟨entry, hentry, hread⟩ := Cache.entry_of_glance hglance
    exact (World.genuine_run u.genuine hfail (List.prefix_append earlier _)).kept entry hentry _ _
      hread
  · exact ⟨t, (Operation.Context.tokenAnswer_of_exchange hrequest hsent
      (u.replied events x hx)).trans hcomesTo, rfl⟩

/-- The result of the operation in a set-up is determined by the replies: the operation is refused a
token, or goes on in the run in which it is admitted. -/
theorem refused_or_admitted (u : Setup reply g s) (hcalm : ∀ q, (reply q).Answers)
    (hadmits : u.Admits events) {result : Except String (Envelope Payload)}
    (hresult : u.result? events = some result) :
    (∃ f env, g.credential.requiresToken = true ∧
      (g.context .auth).tokenAnswer reply = .failure f ∧ result = .ok env ∧
      env.Alike (refusal s f)) ∨
    (∀ f, g.credential.requiresToken = true →
      (g.context .auth).tokenAnswer reply ≠ .failure f) ∧
      ∃ after after' calls env, after.Alike (admitted reply g s) ∧
        (∀ x ∈ calls, x.RepliedBy reply) ∧ result = .ok env ∧
        (s.mainCall g).Ends g.fanOut (u.world.run events).resources.clockMs after calls after'
          (.ok env) := by
  obtain ⟨after', hends, hknown⟩ := ends_of_result_vouched u.address u.order hresult
  rcases admitted_or_refused hcalm hends (u.replied events)
      (fun token htoken => u.issues_of_known hadmits.stores (hknown token htoken))
      hadmits.lifetimes with hrefused | ⟨hnot, after, calls, halike, hcalls, hend⟩
  · exact .inl hrefused
  · obtain ⟨env, rfl⟩ := (careful_mainCall g s).exists_result hend fun x hx =>
      Exchange.answered (hcalls x hx ▸ hcalm x.request)
    exact .inr ⟨hnot, after, after', calls, env, halike, hcalls, rfl, hend⟩

/-- In any two set-ups the envelopes of the operation are alike, also when replies take longer in
one of them, as long as none is too late in one of them only. -/
theorem agree_of_delayed {reply' : Request → Reply}
    (hdelayed : Http.Delayed (MaySend g s) reply reply') (hcalm : ∀ q, (reply q).Answers)
    (hslow : g.fanOut.failFast = false) (first : Setup reply g s)
    (second : Setup reply' g s) {events events' : List Event} (hfirst : first.Admits events)
    (hsecond : second.Admits events') {result result' : Except String (Envelope Payload)}
    (hresult : first.result? events = some result)
    (hresult' : second.result? events' = some result') :
    ∃ env env', result = .ok env ∧ result' = .ok env' ∧ env.Alike env' := by
  have hsame := tokenAnswer_of_delayed hdelayed
  rcases first.refused_or_admitted hcalm hfirst hresult with
    ⟨f, env, hrequired, hanswer, rfl, halike⟩ |
    ⟨hnot, after, _, calls, env, halike, hcalls, rfl, hend⟩
  · rcases second.refused_or_admitted (hdelayed.answers hcalm) hsecond hresult' with
      ⟨f', env', -, hanswer', rfl, halike'⟩ | ⟨hnot', -⟩
    · obtain rfl := Attempt.failure.inj (hanswer.symm.trans (hsame.trans hanswer'))
      exact ⟨env, env', rfl, rfl, halike.trans halike'.symm⟩
    · exact absurd (hsame.symm.trans hanswer) (hnot' f hrequired)
  · rcases second.refused_or_admitted (hdelayed.answers hcalm) hsecond hresult' with
      ⟨f', env', hrequired, hanswer', -⟩ |
      ⟨-, after', _, calls', env', halike', hcalls', rfl, hend'⟩
    · exact absurd (hsame.trans hanswer') (hnot f' hrequired)
    · rw [← admitted_of_delayed hdelayed] at halike'
      exact ⟨env, env', rfl, rfl, mainCall_alike hdelayed hcalm hslow halike.context
        (halike.trans halike'.symm) hend hend' hcalls hcalls'⟩

/-- In any two set-ups the envelopes of the operation are alike. -/
theorem agree (hcalm : ∀ q, (reply q).Answers) (hslow : g.fanOut.failFast = false)
    (first second : Setup reply g s) {events events' : List Event} (hfirst : first.Admits events)
    (hsecond : second.Admits events') {result result' : Except String (Envelope Payload)}
    (hresult : first.result? events = some result)
    (hresult' : second.result? events' = some result') :
    ∃ env env', result = .ok env ∧ result' = .ok env' ∧ env.Alike env' :=
  first.agree_of_delayed (.refl _ reply) hcalm hslow second hfirst hsecond hresult hresult'

/-- The invariant of tasks that share caches holds in the beginning. -/
theorem clear (u : Setup reply g s) : u.world.Clear where
  address := u.genuine.address
  traced t ht := by
    rw [world, tasks_opening] at ht
    obtain ⟨order, -, rfl⟩ := List.mem_map.mp ht
    trivial
  guarded number := by
    rw [world, cache_opening, (u.empty number).2]
    refine .start fun c hc => ?_
    obtain ⟨t, ht, rfl⟩ := List.mem_map.mp hc
    rw [tasks_opening] at ht
    obtain ⟨order, -, rfl⟩ := List.mem_map.mp ht
    exact congrArg (Option.bind · Cache.Phase.lock?) (ite_self none)

/-- In a lively schedule the operation has a result at some moment. -/
theorem exists_result (u : Setup reply g s) {schedule : Nat → Event}
    (hlively : u.world.Lively schedule) :
    ∃ n result, u.result? ((List.range n).map schedule) = some result := by
  obtain ⟨n, hends⟩ := u.clear.all_end hlively
  have hlt : u.who < (u.world.after schedule n).tasks.length := by
    rw [World.after, World.length_tasks_run, world, tasks_opening, List.length_map]
    exact (List.getElem?_eq_some_iff.mp u.order).1
  obtain ⟨result, hresult⟩ := hends _ (List.getElem_mem hlt)
  refine ⟨n, result, ?_⟩
  show (u.world.after schedule n).tasks[u.who]?.bind Task.result? = some result
  rw [List.getElem?_eq_getElem hlt]
  exact hresult

end Setup

/-- The caches only save token calls.  Over a transport whose replies depend on the requests only
and do not crash, an operation has a result in every set-up at some moment of a lively schedule,
with or without single-flight, for any failures of the stores behind the caches and any other
operations.  In any two set-ups it answers with the same payload and the same errors, and with the
same records of calls other than token calls, up to their order and their times.  Lifetimes of
tokens must be within the range of the clock, and fail-fast must be off. -/
theorem cache_only_optimises (reply : Request → Reply) (hcalm : ∀ q, (reply q).Answers)
    (g : Gateway) (hslow : g.fanOut.failFast = false) (s : Service) :
    (∀ (u : Setup reply g s) schedule, u.world.Lively schedule →
      ∃ n result, u.result? ((List.range n).map schedule) = some result) ∧
    ∀ (first second : Setup reply g s) (events events' : List Event), first.Admits events →
      second.Admits events' → ∀ result result', first.result? events = some result →
      second.result? events' = some result' →
        ∃ env env', result = .ok env ∧ result' = .ok env' ∧ env.Alike env' := by
  refine ⟨fun u schedule hlively => u.exists_result hlively, ?_⟩
  intro first second events events' hfirst hsecond result result' hresult hresult'
  exact first.agree hcalm hslow second hfirst hsecond hresult hresult'

/-! ## Two set-ups -/

/-- A supplier that issues one token to all clients, and has one reply about every booking. -/
def steady (q : Request) : Reply :=
  .respond
    { status := 200
      body :=
        if q.method = .post then "\x7b\"access_token\":\"t\",\"expires_in\":300\x7d"
        else "\x7b\"reference\":\"B1\",\"status\":\"pending\"\x7d" }

/-- One operation, with a cache that stores and fetches. -/
def ordinary : Setup steady clientGateway (status "B1") where
  resources := { transport.otherwise := fun _ => steady }
  orders := [(clientGateway, 0, status "B1")]
  who := 0
  cache := 0
  order := rfl
  address := rfl
  memoryless := Http.Transport.memoryless_of_rule steady
  empty _ := ⟨rfl, rfl⟩
  shared := by simp

/-- The second of two operations under single-flight, with a cache that refuses to store and to
fetch. -/
def contended : Setup steady clientGateway (status "B1") where
  resources :=
    { transport.otherwise := fun _ => steady
      cache := fun _ =>
        { backend := { refusesStore := true, refusesFetch := true }, singleFlight := true } }
  orders := [(clientGateway, 0, status "B1"), (clientGateway, 0, status "B1")]
  who := 1
  cache := 0
  order := rfl
  address := rfl
  memoryless := Http.Transport.memoryless_of_rule steady
  empty _ := ⟨rfl, rfl⟩
  shared := by simp

/-- Both operations ask for the lock, and hold it one after the other. -/
def inTurn : List Event :=
  (List.replicate 4 [.task 0 .proceed, .task 1 .proceed]).flatten ++
    [0, 1].flatMap fun who =>
      [.proceed, .proceed, .arrive, .proceed, .proceed, .proceed, .arrive, .proceed,
        .proceed].map (.task who)

theorem admits_of_quiet (u : Setup steady clientGateway (status "B1")) {events : List Event}
    (hquiet : ∀ number backend, Event.replace number backend ∉ events)
    (hclock : (u.world.run events).resources.clockMs = 0) : u.Admits events where
  stores := World.storesFail_of_quiet _ hquiet
  lifetimes t hanswer := by
    have hlifetime : ((clientGateway.context .auth).tokenAnswer steady).map
        Supplier.IssuedToken.lifetimeSecs = .success 300 := by
      decide +kernel
    rw [hanswer] at hlifetime
    rw [hclock, Attempt.success.inj hlifetime, Cache.BeyondClock]
    decide

/-- The answers of the operation in the two set-ups are alike. -/
theorem contended_like_ordinary :
    (∃ schedule n result, contended.result? ((List.range n).map schedule) = some result) ∧
      ∃ env env', ordinary.result? tokenFirst = some (.ok env) ∧
        contended.result? inTurn = some (.ok env') ∧ env.Alike env' := by
  obtain ⟨hends, hagree⟩ :=
    cache_only_optimises steady (fun q => ⟨_, rfl⟩) clientGateway rfl (status "B1")
  constructor
  · obtain ⟨schedule, hlively⟩ := contended.world.exists_lively
    exact ⟨schedule, hends contended schedule hlively⟩
  · have hordinary : (ordinary.result? tokenFirst).isSome = true := by decide +kernel
    have hcontended : (contended.result? inTurn).isSome = true := by decide +kernel
    obtain ⟨result, hresult⟩ := Option.isSome_iff_exists.mp hordinary
    obtain ⟨result', hresult'⟩ := Option.isSome_iff_exists.mp hcontended
    obtain ⟨env, env', rfl, rfl, halike⟩ := hagree ordinary contended tokenFirst inTurn
      (admits_of_quiet ordinary (by simp [tokenFirst]) (by decide +kernel))
      (admits_of_quiet contended (by simp [inTurn]) (by decide +kernel)) result result' hresult
      hresult'
    exact ⟨env, env', hresult, hresult', halike⟩

end Service
end SupplierGateway
