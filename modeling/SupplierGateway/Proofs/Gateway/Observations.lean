import SupplierGateway.Proofs.Gateway.LoneOperations

/-!
# Operations one after another

Operations are carried out one after another and share a cache.  Any time may pass before and during
each of them.  An operation is observed by its exchanges, by the times at which it reads and writes
its cache, and by its result; there are four ways in which it obtains a token or is refused one.

* `Episode`, `Observation` and `observations` — operations in a row, and their observations;
* `Observation.issued?` — the token that was issued to an operation;
* `Observation.Proceeds` — an operation carries out its main call with a token;
* `Obtains` — the ways in which an operation obtains a token;
* `Observation.obtains_of_lookupEnd` — an operation on its own does so in one of these ways.
-/

namespace SupplierGateway
namespace Service

open Cache (Backend BeyondClock CachedCredential Lifetime Usage)
open Call (Exchange)
open Operation (Envelope Event LookupEnd Missed Resources Run Script Task World credentialCodec
  kept readIssued storedIn)
open Supplier (IssuedToken)

/-! ## Operations in a row -/

/-- An operation in a row, with the pause before it and the events during it. -/
structure Episode where
  gateway : Gateway
  service : Service
  /-- The time that passes before the operation begins. -/
  pauseMs : Nat := 0
  events : List Event

/-- The observation of an operation: its exchanges, the times at which it first read its cache and
stored a token, and its result. -/
structure Observation where
  gateway : Gateway
  service : Service
  exchanges : List Exchange
  lookedAt? : Option Nat
  storedAt? : Option Nat
  result? : Option (Except String (Envelope Payload))

namespace Episode

/-- The world in which the operation begins, with the cache of the given number. -/
def world (number : Nat) (r : Resources) (e : Episode) : World (Envelope Payload) :=
  opening { r with clockMs := r.clockMs + e.pauseMs } [(e.gateway, number, e.service)]

/-- The resources after the operation. -/
def after (number : Nat) (r : Resources) (e : Episode) : Resources :=
  ((e.world number r).run e.events).resources

/-- The observation of the operation. -/
def observation (number : Nat) (r : Resources) (e : Episode) : Observation where
  gateway := e.gateway
  service := e.service
  exchanges := (e.world number r).exchangesOf 0 e.events
  lookedAt? := (e.world number r).lookedAt? 0 e.events
  storedAt? := (e.world number r).storedAt? 0 e.events
  result? := ((e.world number r).run e.events).tasks[0]?.bind Task.result?

end Episode

/-- The observations of operations that are carried out one after another. -/
def observations (number : Nat) : Resources → List Episode → List Observation
  | _, [] => []
  | r, e :: es => e.observation number r :: observations number (e.after number r) es

/-- The token that is the result of a token call, if it is one. -/
def tokenOf? : Attempt IssuedToken → Option IssuedToken
  | .success t => some t
  | .failure _ | .crash _ => none

/-- The token that is issued in an exchange. -/
def issuedBy? (x : Exchange) : Option IssuedToken := tokenOf? (x.comesTo readIssued)

/-- A request bears a token. -/
def Bears (token : String) (x : Exchange) : Prop :=
  x.request.headers.get? "authorization" = some ("Bearer " ++ token)

namespace Observation

/-- The key under which the operation keeps its token. -/
def key (o : Observation) : String := Cache.key o.gateway.endpoint o.gateway.credential

/-- The exchanges with the token address. -/
def tokenCalls (o : Observation) : List Exchange :=
  o.exchanges.filter fun x => x.request.url = tokenUrl o.gateway

/-- The exchanges with other addresses. -/
def mainCalls (o : Observation) : List Exchange :=
  o.exchanges.filter fun x => x.request.url ≠ tokenUrl o.gateway

/-- The token that was issued to the operation. -/
def issued? (o : Observation) : Option IssuedToken := o.tokenCalls.findSome? issuedBy?

/-- The main call of the operation ended, authorized by some token. -/
def Proceeds (o : Observation) : Prop :=
  ∃ latest run run' result token, run.context = o.gateway.context o.service.phase ∧
    run.authorization = .bearer token ∧ o.result? = some result ∧
    (o.service.mainCall o.gateway).Ends o.gateway.fanOut latest run o.mainCalls run' result

end Observation

theorem isZero_ofSecs (secs : UInt64) : (Lifetime.ofSecs secs).isZero = true ↔ secs = 0 := by
  simp [Lifetime.isZero, Lifetime.ofSecs]

/-! ## How an operation obtains a token -/

/-- The main requests of the operation bear a token, and the main call ends. -/
structure Observation.Uses (o : Observation) (token : String) : Prop where
  bears : ∀ x ∈ o.mainCalls, Bears token x
  proceeds : o.Proceeds

/-- The ways in which an operation that needs a token obtains one or is refused one.  Its cache was
`c₀` at first, and the store is `b` in the end, when the clock shows the given milliseconds. -/
inductive Obtains (c₀ : Cache) (b : Backend) (clockMs : Nat) (o : Observation) : Prop
  | found (lookedMs : Nat) (hlooked : o.lookedAt? = some lookedMs) (c : CachedCredential)
      (hread : Usage.read { cache := c₀, clockMs := lookedMs } credentialCodec o.key = some c)
      (hnone : o.tokenCalls = []) (hstored : o.storedAt? = none) (hsame : b = c₀.backend)
      (huses : o.Uses c.token)
  /-- A token without a lifetime is used and not stored. -/
  | unkept (lookedMs : Nat) (hlooked : o.lookedAt? = some lookedMs)
      (hmissed : Missed c₀ o.key lookedMs clockMs b) (t : IssuedToken)
      (hissued : o.tokenCalls.map issuedBy? = [some t]) (hzero : t.lifetimeSecs = 0)
      (hstored : o.storedAt? = none) (huses : o.Uses t.token)
  | stored (lookedMs storedMs : Nat) (b' : Backend) (hlooked : o.lookedAt? = some lookedMs)
      (hmissed : Missed c₀ o.key lookedMs storedMs b') (hclock : storedMs ≤ clockMs)
      (t : IssuedToken) (hissued : o.tokenCalls.map issuedBy? = [some t])
      (hlasts : t.lifetimeSecs ≠ 0) (hstored : o.storedAt? = some storedMs)
      (hkept : b = storedIn b' storedMs o.key t) (huses : o.Uses t.token)
  | refused (lookedMs : Nat) (hlooked : o.lookedAt? = some lookedMs)
      (hmissed : Missed c₀ o.key lookedMs clockMs b) (hissued : o.tokenCalls.map issuedBy? = [none])
      (hstored : o.storedAt? = none) (hmain : o.mainCalls = [])

namespace Observation

variable {o : Observation} {tokens calls : List Exchange} {rs : List Audit.CallRecord}
  {latest : Nat} {a : Attempt IssuedToken} {result : Except String (Envelope Payload)}

/-- The exchanges are split by the address to which they were sent. -/
theorem calls_of_split (hsplit : o.exchanges = tokens ++ calls)
    (htokens : ∀ x ∈ tokens, x.request.url = tokenUrl o.gateway)
    (hcalls : ∀ x ∈ calls, x.request.url ≠ tokenUrl o.gateway) :
    o.tokenCalls = tokens ∧ o.mainCalls = calls := by
  constructor
  · rw [tokenCalls, hsplit, List.filter_append, List.filter_eq_self.mpr, List.filter_eq_nil_iff.mpr,
      List.append_nil]
    · simpa using hcalls
    · simpa using htokens
  · rw [mainCalls, hsplit, List.filter_append, List.filter_eq_nil_iff.mpr, List.filter_eq_self.mpr,
      List.nil_append]
    · simpa using hcalls
    · simpa using htokens

/-- A token call is one exchange with the token address. -/
theorem calls_of_undertaken (hrequired : o.gateway.credential.requiresToken = true)
    (hsplit : o.exchanges = tokens ++ calls)
    (hcalls : ∀ x ∈ calls, x.request.url ≠ tokenUrl o.gateway)
    (hcall : Call.Undertaken ((Run.begin (o.gateway.context o.service.phase)).pipeline .auth)
      readIssued (Run.begin (o.gateway.context o.service.phase)).tokenRequest tokens rs a) :
    o.tokenCalls.map issuedBy? = [tokenOf? a] ∧ o.mainCalls = calls := by
  obtain ⟨x, record, rfl, -, rfl, -⟩ := tokenCall_sent hrequired hcall
  obtain ⟨q, hq, hsent⟩ := hcall.requests.2 x (List.mem_singleton.mpr rfl)
  have hurl : x.request.url = q.url := hsent ▸ rfl
  have htoken := hurl.trans (token_request (ok_of_ofExcept hq)).1
  obtain ⟨hasked, hmain⟩ :=
    calls_of_split hsplit (fun y hy => List.mem_singleton.mp hy ▸ htoken) hcalls
  exact ⟨by rw [hasked, List.map_singleton, issuedBy?], hmain⟩

/-- The requests of a main call are sent to other addresses, and bear the token of the run. -/
theorem sent_of_ends {run run' : Run} {token : String}
    (hends : (o.service.mainCall o.gateway).Ends o.gateway.fanOut latest (run.authorize token) calls
      run' result) :
    ∀ x ∈ calls, x.request.url ≠ tokenUrl o.gateway ∧ Bears token x := by
  intro x hx
  obtain ⟨phase, q, hasked, hcarries⟩ :=
    ((asks_mainCall o.gateway o.service).requests hends).2 x hx
  exact ⟨hcarries.url ▸ hasked.url_ne, hcarries.authorized _ _ rfl⟩

/-- An operation whose main call ended after it was authorized by a token uses the token. -/
theorem uses_of_ends {run run' : Run} {token : String} (hmain : o.mainCalls = calls)
    (hcontext : run.context = o.gateway.context o.service.phase)
    (hends : (o.service.mainCall o.gateway).Ends o.gateway.fanOut latest (run.authorize token) calls
      run' result)
    (hresult : o.result? = some result) : o.Uses token where
  bears := hmain ▸ fun x hx => (sent_of_ends hends x hx).2
  proceeds :=
    ⟨latest, run.authorize token, run', result, token, hcontext, rfl, hresult, hmain ▸ hends⟩

/-- An operation that was issued a token uses it. -/
theorem uses_of_issued {t : IssuedToken} (hrequired : o.gateway.credential.requiresToken = true)
    (hsplit : o.exchanges = tokens ++ calls)
    (hcall : Call.Undertaken ((Run.begin (o.gateway.context o.service.phase)).pipeline .auth)
      readIssued (Run.begin (o.gateway.context o.service.phase)).tokenRequest tokens rs
      (.success t))
    (hgoes : GoesOn o.gateway o.service latest
      ((Run.begin (o.gateway.context o.service.phase)).addRecords rs) calls result
      (.success (kept o.key t).1))
    (hresult : o.result? = some result) :
    o.tokenCalls.map issuedBy? = [some t] ∧ o.Uses t.token := by
  obtain ⟨run', hends⟩ := hgoes
  obtain ⟨hissued, hmain⟩ :=
    calls_of_undertaken hrequired hsplit (fun x hx => (sent_of_ends hends x hx).1) hcall
  exact ⟨hissued, uses_of_ends hmain rfl hends hresult⟩

theorem issued?_of_asked {t? : Option IssuedToken} (hissued : o.tokenCalls.map issuedBy? = [t?]) :
    o.issued? = t? := by
  obtain ⟨x, rest, htokens, rfl, hrest⟩ := List.map_eq_cons_iff.mp hissued
  obtain rfl := List.map_eq_nil_iff.mp hrest
  rw [issued?, htokens, List.findSome?_singleton]

theorem issued?_of_not_asked (hnone : o.tokenCalls = []) : o.issued? = none := by
  rw [issued?, hnone, List.findSome?_nil]

/-- An operation that has a result has obtained a token or was refused one. -/
theorem obtains_of_lookupEnd {c₀ : Cache} {b : Backend} {lookedMs clockMs : Nat} {run : Run}
    {found : Attempt CachedCredential} (hrequired : o.gateway.credential.requiresToken = true)
    (hlooked : o.lookedAt? = some lookedMs) (hsplit : o.exchanges = tokens ++ calls)
    (hresult : o.result? = some result)
    (hend : LookupEnd c₀ (Run.begin (o.gateway.context o.service.phase)) lookedMs clockMs
      o.storedAt? tokens b run found)
    (hgoes : GoesOn o.gateway o.service latest run calls result found) (hlater : clockMs ≤ latest)
    (hstores : ∀ storedMs, o.storedAt? = some storedMs → storedMs ≤ latest)
    (hclock : ∀ t storedMs, o.issued? = some t → o.storedAt? = some storedMs →
      ¬ BeyondClock storedMs (.ofSecs t.lifetimeSecs)) : Obtains c₀ b latest o := by
  generalize hstored : o.storedAt? = storedAt? at hend
  cases hend with
  | found c hread =>
      obtain ⟨run', hends⟩ := hgoes
      obtain ⟨hnone, hmain⟩ := calls_of_split hsplit (List.forall_mem_nil _)
        fun x hx => (sent_of_ends hends x hx).1
      exact .found lookedMs hlooked c hread hnone hstored rfl (uses_of_ends hmain rfl hends hresult)
  | unkept hmissed _ rs t hcall hzero =>
      obtain ⟨hissued, huses⟩ := uses_of_issued hrequired hsplit hcall hgoes hresult
      exact .unkept lookedMs hlooked (hmissed.later hlater) t hissued ((isZero_ofSecs _).mp hzero)
        hstored huses
  | stored hmissed _ rs t hcall hlasts =>
      obtain ⟨hissued, huses⟩ := uses_of_issued hrequired hsplit hcall hgoes hresult
      have hnonzero : t.lifetimeSecs ≠ 0 := by
        rw [ne_eq, ← isZero_ofSecs, hlasts]
        exact Bool.false_ne_true
      exact .stored lookedMs _ _ hlooked hmissed (hstores _ hstored) t hissued hnonzero hstored rfl
        huses
  | unstorable hmissed _ rs t hcall hlasts hbeyond =>
      obtain ⟨rfl, -⟩ := hgoes
      have hissued := (calls_of_undertaken hrequired hsplit (List.forall_mem_nil _) hcall).1
      exact absurd hbeyond (hclock t _ (issued?_of_asked hissued) hstored)
  | refused hmissed _ rs f hcall =>
      obtain ⟨rfl, -⟩ := hgoes
      obtain ⟨hissued, hmain⟩ := calls_of_undertaken hrequired hsplit (List.forall_mem_nil _) hcall
      exact .refused lookedMs hlooked (hmissed.later hlater) hissued hstored hmain
  | crashed hmissed _ rs text hcall =>
      obtain ⟨rfl, -⟩ := hgoes
      obtain ⟨hissued, hmain⟩ := calls_of_undertaken hrequired hsplit (List.forall_mem_nil _) hcall
      exact .refused lookedMs hlooked (hmissed.later hlater) hissued hstored hmain

end Observation

end Service
end SupplierGateway
