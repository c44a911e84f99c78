import SupplierGateway.Proofs.Gateway.Answers
import SupplierGateway.Proofs.Operation.Requests
import SupplierGateway.Proofs.Operation.Tokens

/-!
# Authentication comes first

An operation authenticates first.  A gateway without credentials or with a key makes no call for
that; a gateway with a client's identity makes at most one, and none if it finds a token in its
cache.  When authentication fails no other request is sent, and the answer has its failure.
Otherwise all requests bear the token or the key, and the token request bears neither.

* `Asked` and `asks_mainCall` — the requests of the operations after authentication;
* `Authorizes` and `Stopped` — the source of the authorization of an operation, and its end without
  one;
* `Gate` and `Gated` — the ways in which authentication ends, with the exchanges and the answer;
* `passes_or_stops` — an operation passes authentication, or it stops there;
* `authentication_gate` — operations of all kinds are gated, in any interleaving.
-/

namespace SupplierGateway
namespace Service

open Call (Exchange)
open Http (Authorization Carries Request)
open Operation (Authenticates Envelope Event Resources Run Script Task World readIssued)

variable {g : Gateway} {s : Service}

/-! ## Requests after authentication -/

/-- The requests that an operation may make after authentication, with their phases. -/
inductive Asked (g : Gateway) : Service → Phase → Request → Prop
  | page (n : UInt32) : Asked g locations .locations (Supplier.locations g.endpoint n)
  | availability (r : Rental.RateRequest) :
      Asked g (rates r) .rates (Supplier.availability g.endpoint r)
  | quote (r : Rental.RateRequest) (c : Rental.VehicleCandidate) :
      Asked g (rates r) .quote (Supplier.quote g.endpoint r c)
  | booking (r : Rental.BookingRequest) : Asked g (book r) .booking (Supplier.booking g.endpoint r)
  | status (reference : String) (q : Request)
      (hbuilt : Supplier.bookingStatus g.endpoint reference = .ok q) :
      Asked g (status reference) .bookingStatus q
  | cancel (reference : String) (q : Request)
      (hbuilt : Supplier.cancel g.endpoint reference = .ok q) : Asked g (cancel reference) .cancel q

/-- An operation that ends with a payload makes no request. -/
theorem asks_close {P : Phase → Request → Prop} (s : Service) (payload : Payload) :
    (s.close payload).Asks P :=
  .finish _ _ _ _ fun env => .done env

theorem asks_afterFirstPage (g : Gateway) (first : Rental.LocationPage) :
    (afterFirstPage g first).Asks (Asked g locations) := by
  unfold afterFirstPage
  split
  · exact .report _ _ _ (asks_close ..)
  · split
    · exact asks_close ..
    · refine .fanOut _ _ _ _ (fun q hq => ?_) fun pages => asks_close ..
      obtain ⟨n, -, hn⟩ := List.mem_map.mp hq
      exact Attempt.success.inj hn ▸ .page n

theorem asks_afterAvailability (g : Gateway) (r : Rental.RateRequest)
    (candidates : List Rental.VehicleCandidate) :
    (afterAvailability g r candidates).Asks (Asked g (rates r)) := by
  unfold afterAvailability
  split
  · exact asks_close ..
  · refine .fanOut _ _ _ _ (fun q hq => ?_) fun quotes => asks_close ..
    obtain ⟨c, -, hc⟩ := List.mem_map.mp hq
    exact Attempt.success.inj hc ▸ .quote r c

theorem ok_of_ofExcept {α : Type} {built : Except Failure α} {a : α}
    (h : Attempt.ofExcept built = .success a) : built = .ok a := by
  cases built with
  | ok found => exact congrArg _ (Attempt.success.inj h)
  | error f => exact nomatch h

/-- After authentication an operation makes requests of its own kind only. -/
theorem asks_mainCall (g : Gateway) (s : Service) : (s.mainCall g).Asks (Asked g s) := by
  cases s with
  | locations =>
      refine .call _ _ _ _ (fun q hq => Attempt.success.inj hq ▸ .page 1) fun first => ?_
      cases first with
      | none => exact asks_close ..
      | some first => exact asks_afterFirstPage g first
  | rates r =>
      exact .call _ _ _ _ (fun q hq => Attempt.success.inj hq ▸ .availability r)
        fun candidates => asks_afterAvailability ..
  | book r =>
      exact .call _ _ _ _ (fun q hq => Attempt.success.inj hq ▸ .booking r) fun c => asks_close ..
  | status reference =>
      exact .call _ _ _ _ (fun q hq => .status reference q (ok_of_ofExcept hq))
        fun c => asks_close ..
  | cancel reference =>
      exact .call _ _ _ _ (fun q hq => .cancel reference q (ok_of_ofExcept hq))
        fun c => asks_close ..

/-! ## Addresses -/

/-- The address at which tokens are issued. -/
def tokenUrl (g : Gateway) : String := g.endpoint.url "/auth/token"

/-- A path that begins differently from that for tokens has another address. -/
theorem url_ne_tokenUrl (g : Gateway) {path : String}
    (hpath : path.toList.take 3 ≠ ['/', 'a', 'u']) : g.endpoint.url path ≠ tokenUrl g := by
  intro hsame
  have hchars := congrArg String.toList hsame
  rw [tokenUrl, Endpoint.url, Endpoint.url, String.toList_append, String.toList_append] at hchars
  rw [List.append_cancel_left hchars] at hpath
  exact hpath (by decide)

/-- The requests of operations are not sent to the address for tokens. -/
theorem Asked.url_ne {phase : Phase} {q : Request} (hasked : Asked g s phase q) :
    q.url ≠ tokenUrl g := by
  have habout : ∀ {method : Http.Method} {reference : String} {q : Request},
      Supplier.aboutBooking method g.endpoint reference = .ok q → q.url ≠ tokenUrl g := by
    intro method reference q hbuilt
    obtain ⟨-, -, hurl⟩ := Supplier.aboutBooking_ok hbuilt
    rw [hurl]
    exact url_ne_tokenUrl g (by simp [String.toList_append])
  cases hasked with
  | page n => exact url_ne_tokenUrl g (by simp [String.toList_append])
  | availability r => exact url_ne_tokenUrl g (by decide)
  | quote r c => exact url_ne_tokenUrl g (by decide)
  | booking r => exact url_ne_tokenUrl g (by decide)
  | status reference q hbuilt => exact habout hbuilt
  | cancel reference q hbuilt => exact habout hbuilt

/-- A token request is sent to the address for tokens, and has two headers that are not for
authorization. -/
theorem token_request {q : Request} (hbuilt : Supplier.token g.endpoint g.credential = .ok q) :
    q.url = tokenUrl g ∧ ∀ name, name ≠ "accept" → name ≠ "content-type" →
      q.headers.get? name = none := by
  cases hcredential : g.credential with
  | none | apiKey => rw [hcredential] at hbuilt; exact nomatch hbuilt
  | client id secret =>
      rw [hcredential] at hbuilt
      obtain rfl := Except.ok.inj hbuilt
      have hcontentType : Text.lower "content-type" = "content-type" := by decide
      have haccepts : Text.lower "accept" = "accept" := by decide
      refine ⟨rfl, fun name haccept hcontent => ?_⟩
      change (((Http.Headers.empty.insert (Text.lower "accept") _).insert
        (Text.lower "content-type") _).get? name) = none
      rw [hcontentType, haccepts, Http.Headers.get?_insert, Http.Headers.get?_insert,
        if_neg hcontent, if_neg haccept]
      rfl

/-! ## The gate -/

/-- The source of the authorization of an operation, given its exchanges before. -/
inductive Authorizes (w : World (Envelope Payload)) (events : List Event) (who cache : Nat)
    (g : Gateway) : List Exchange → Authorization → Prop
  | bare (hcredential : g.credential = .none) : Authorizes w events who cache g [] .none
  | key (name value : String) (hcredential : g.credential = .apiKey name value) :
      Authorizes w events who cache g [] (.header name value)
  /-- The operation found a token under its key in the cache. -/
  | cached (hcredential : g.credential.requiresToken = true) (token : String)
      (hfound : w.Found events who cache (Cache.key g.endpoint g.credential) token) :
      Authorizes w events who cache g [] (.bearer token)
  | issued (hcredential : g.credential.requiresToken = true) (x : Exchange)
      (t : Supplier.IssuedToken) (hissued : x.comesTo readIssued = .success t) :
      Authorizes w events who cache g [x] (.bearer t.token)

/-- The ways in which an operation stops at authentication, given its exchanges for a token. -/
inductive Stopped (g : Gateway) (s : Service) (latest : Nat) :
    List Exchange → Except String (Envelope Payload) → Prop
  /-- The answer has the failure and the record of the token call only. -/
  | refused (x : Exchange) (f : Failure) (record : Audit.CallRecord)
      (hrefused : x.comesTo readIssued = .failure f)
      (hrecord : x.RecordedAs (g.context .auth).pipeline.context record)
      (hphase : record.phase = .auth) :
      Stopped g s latest [x]
        (.ok { payload := s.empty, supplierRequests := [record], errors := [f] })
  | crashed (x : Exchange) (text : String) (hcrash : x.comesTo readIssued = .crash text) :
      Stopped g s latest [x] (.error text)
  /-- The token would expire beyond the clock. -/
  | unstorable (x : Exchange) (t : Supplier.IssuedToken)
      (hissued : x.comesTo readIssued = .success t)
      (hbeyond : Cache.BeyondClock latest (.ofSecs t.lifetimeSecs)) :
      Stopped g s latest [x] (.error Cache.CacheError.beyondClock.message)

/-- The ways in which authentication ends, given the exchanges for a token and those after it: all
later requests bear the authorization, or there are none. -/
inductive Gate (w : World (Envelope Payload)) (events : List Event) (who cache : Nat) (g : Gateway)
    (s : Service) : List Exchange → List Exchange → Except String (Envelope Payload) → Prop
  | passed (tokens calls : List Exchange) (result : Except String (Envelope Payload))
      (z : Authorization) (hauthorizes : Authorizes w events who cache g tokens z)
      (hcalls : ∀ x ∈ calls, ∃ phase q, Asked g s phase q ∧ Carries z q x.request) :
      Gate w events who cache g s tokens calls result
  | stopped (tokens : List Exchange) (result : Except String (Envelope Payload))
      (hstopped : Stopped g s (w.run events).resources.clockMs tokens result) :
      Gate w events who cache g s tokens [] result

/-- An operation is gated, given its exchanges for a token, its exchanges after that, and its
result. -/
structure Gated (w : World (Envelope Payload)) (events : List Event) (who cache : Nat) (g : Gateway)
    (s : Service) (tokens calls : List Exchange) (result : Except String (Envelope Payload)) :
    Prop where
  /-- Without credentials or with a key there is no token request. -/
  not_required : g.credential.requiresToken = false → tokens = []
  at_most_one : tokens.length ≤ 1
  /-- The token request bears neither a token nor a key. -/
  unauthorized : ∀ x ∈ tokens, x.request.url = tokenUrl g ∧
    ∀ name, name ≠ "accept" → name ≠ "content-type" → x.request.headers.get? name = none
  /-- No other request is sent to the address for tokens. -/
  elsewhere : ∀ x ∈ calls, x.request.url ≠ tokenUrl g
  gate : Gate w events who cache g s tokens calls result

variable {w : World (Envelope Payload)} {events : List Event} {who cache latest : Nat}
  {xs : List Exchange} {after : Run}

/-- A call for a token that is required has one exchange, and leaves one record. -/
theorem tokenCall_sent {phase : Phase} (hrequired : g.credential.requiresToken = true)
    {rs : List Audit.CallRecord} {a : Attempt Supplier.IssuedToken}
    (hcall : Call.Undertaken ((Run.begin (g.context phase)).pipeline .auth) readIssued
      (Run.begin (g.context phase)).tokenRequest xs rs a) :
    ∃ x record, xs = [x] ∧ rs = [record] ∧ a = x.comesTo readIssued ∧
      x.RecordedAs (g.context .auth).pipeline.context record := by
  have hrequest : ∃ q, (Run.begin (g.context phase)).tokenRequest = .success q := by
    change ∃ q, Attempt.ofExcept (Supplier.token g.endpoint g.credential) = .success q
    cases hcredential : g.credential with
    | none | apiKey => rw [hcredential] at hrequired; exact nomatch hrequired
    | client id secret => exact ⟨_, rfl⟩
  obtain ⟨q, hq⟩ := hrequest
  rw [hq] at hcall
  cases hcall with
  | sent _ x record hsent hrecord => exact ⟨x, record, rfl, rfl, rfl, hrecord⟩

/-- An operation that needs no token is authorized by its credentials. -/
theorem authorizes_initial (hcredential : g.credential.requiresToken = false) :
    Authorizes w events who cache g [] (Operation.initialAuthorization g.credential) := by
  cases h : g.credential with
  | none => exact .bare h
  | apiKey header value => exact .key header value h
  | client id secret => rw [h] at hcredential; exact nomatch hcredential

theorem initialAuthorization_ne (c : Credential) (token : String) :
    Operation.initialAuthorization c ≠ .bearer token := by
  cases c <;> exact nofun

/-- Without a token request no token was issued. -/
theorem not_issued {z : Authorization}
    (hcalls : ∀ x ∈ w.exchangesOf who events, ∃ phase q, Asked g s phase q ∧ Carries z q x.request)
    {token : String} : ¬ w.Issued events who (Run.begin (g.context s.phase)) token := by
  rintro ⟨x, hx, q, issued, hq, hsent, -⟩
  obtain ⟨phase, asked, hasked, hcarries⟩ := hcalls x hx
  refine hasked.url_ne ?_
  rw [← hcarries.url, hsent]
  exact (token_request (ok_of_ofExcept hq)).1

/-- When every bearer token was found or issued, an operation passes authentication without a
failure, or it stops there. -/
theorem passes_or_stops {r' : Run} {result : Except String (Envelope Payload)}
    (hends : (script g s).Ends g.fanOut (w.run events).resources.clockMs
      (Run.begin (g.context s.phase)) (w.exchangesOf who events) r' result)
    (hknown : ∀ token, r'.authorization = .bearer token →
      w.Found events who cache (Cache.key g.endpoint g.credential) token ∨
        w.Issued events who (Run.begin (g.context s.phase)) token) :
    ∃ tokens calls, w.exchangesOf who events = tokens ++ calls ∧ TokenExchanges g tokens ∧
      (g.credential.requiresToken = false → tokens = []) ∧
      ((∃ after, after.context = g.context s.phase ∧ after.ledgers.errors.entries = [] ∧
          Authorizes w events who cache g tokens after.authorization ∧
          (s.mainCall g).Ends g.fanOut (w.run events).resources.clockMs after calls r' result) ∨
        calls = [] ∧ Stopped g s (w.run events).resources.clockMs tokens result) := by
  rw [script, Script.Ends] at hends
  obtain ⟨tokens, calls, a, after, hsplit, hauth, hend⟩ := hends
  have htokens := tokenExchanges_of_authenticates hauth
  have hrequired : g.credential.requiresToken = true → g.credential.requiresToken = false →
      tokens = [] :=
    fun hyes hno => absurd (hno.symm.trans hyes) Bool.false_ne_true
  refine ⟨tokens, calls, hsplit, htokens, ?_⟩
  cases a with
  | success _ =>
      obtain ⟨hsame, hcalls⟩ := (asks_mainCall g s).requests hend
      obtain ⟨hcontext, herrors⟩ := hauth.of_success
      have hclean : after.ledgers.errors.entries = [] := by
        rw [herrors]
        rfl
      cases hauth with
      | notRequired hcredential =>
          exact ⟨fun _ => rfl, .inl ⟨_, hcontext, hclean, authorizes_initial hcredential, hend⟩⟩
      | cached hcredential c =>
          rw [List.nil_append] at hsplit
          have hfound := (hknown c.token hsame).resolve_right (not_issued (hsplit ▸ hcalls))
          exact ⟨fun _ => rfl,
            .inl ⟨_, hcontext, hclean, .cached hcredential c.token hfound, hend⟩⟩
      | issued hcredential _ rs t hcall =>
          obtain ⟨x, record, rfl, -, hissued, -⟩ := tokenCall_sent hcredential hcall
          exact ⟨hrequired hcredential,
            .inl ⟨_, hcontext, hclean, .issued hcredential x t hissued.symm, hend⟩⟩
  | failure f =>
      obtain ⟨rfl, rfl⟩ := ends_close hend
      cases hauth with
      | refused hcredential _ rs _ hcall =>
          obtain ⟨x, record, rfl, rfl, hrefused, hrecord⟩ := tokenCall_sent hcredential hcall
          refine ⟨hrequired hcredential, .inr ⟨rfl, ?_⟩⟩
          have hanswer : Stopped g s (w.run events).resources.clockMs [x]
              (.ok { payload := s.empty, supplierRequests := [record], errors := [f] }) :=
            .refused x f record hrefused.symm hrecord hrecord.phase
          cases s <;> exact hanswer
  | crash text =>
      obtain ⟨rfl, -, rfl⟩ := hend
      cases hauth with
      | crashed hcredential _ rs _ hcall =>
          obtain ⟨x, record, rfl, -, hcrash, -⟩ := tokenCall_sent hcredential hcall
          exact ⟨hrequired hcredential, .inr ⟨rfl, .crashed x text hcrash.symm⟩⟩
      | unstorable hcredential _ rs t hcall hbeyond =>
          obtain ⟨x, record, rfl, -, hissued, -⟩ := tokenCall_sent hcredential hcall
          exact ⟨hrequired hcredential, .inr ⟨rfl, .unstorable x t hissued.symm hbeyond⟩⟩

/-- The result of an operation is an end of its script, and its tokens were found or issued. -/
theorem ends_of_result_vouched {r : Resources} (haddress : r.transport.address = id)
    {orders : List (Gateway × Nat × Service)} {events : List Event} {who : Nat} {g : Gateway}
    {cache : Nat} {s : Service} (horder : orders[who]? = some (g, cache, s))
    {result : Except String (Envelope Payload)}
    (hresult : ((opening r orders).run events).tasks[who]?.bind Task.result? = some result) :
    ∃ r', (s.script g).Ends g.fanOut ((opening r orders).run events).resources.clockMs
        (Run.begin (g.context s.phase)) ((opening r orders).exchangesOf who events) r' result ∧
      ∀ token, r'.authorization = .bearer token →
        (opening r orders).Found events who cache (Cache.key g.endpoint g.credential) token ∨
          (opening r orders).Issued events who (Run.begin (g.context s.phase)) token := by
  have hget : (opening r orders).tasks[who]? = some (s.task g cache) := by
    rw [tasks_opening, List.getElem?_map, horder]
    rfl
  have haddress' : (opening r orders).resources.transport.address = id := by
    rw [transport_opening]
    exact haddress
  have hbare : ∀ token, (s.task g cache).run.authorization ≠ .bearer token :=
    initialAuthorization_ne g.credential
  obtain ⟨t, ht, hpath⟩ := World.path_run haddress' hget events
  obtain ⟨t', ht', -, hvouched⟩ := World.vouched_run haddress' hget rfl hbare events
  obtain rfl := Option.some.inj (ht.symm.trans ht')
  rw [ht] at hresult
  exact ⟨t.run, Task.ends_of_path hpath hresult, hvouched.authorization⟩

/-- For any supplier and any caches, and in any interleaving with other operations, an operation
that ends is gated. -/
theorem authentication_gate (r : Resources) (haddress : r.transport.address = id)
    (orders : List (Gateway × Nat × Service)) (events : List Event) (who : Nat) (g : Gateway)
    (cache : Nat) (s : Service) (horder : orders[who]? = some (g, cache, s))
    (result : Except String (Envelope Payload))
    (hresult : ((opening r orders).run events).tasks[who]?.bind Task.result? = some result) :
    ∃ tokens calls, (opening r orders).exchangesOf who events = tokens ++ calls ∧
      Gated (opening r orders) events who cache g s tokens calls result := by
  obtain ⟨r', hends, hknown⟩ := ends_of_result_vouched haddress horder hresult
  obtain ⟨tokens, calls, hsplit, ⟨honce, hrequests⟩, hnone, hgoes⟩ := passes_or_stops hends hknown
  have hbare : ∀ x ∈ tokens, x.request.url = tokenUrl g ∧
      ∀ name, name ≠ "accept" → name ≠ "content-type" → x.request.headers.get? name = none := by
    intro x hx
    obtain ⟨q, hbuilt, hsent⟩ := hrequests x hx
    obtain ⟨hurl, hheaders⟩ := token_request hbuilt
    rw [hsent]
    exact ⟨hurl, hheaders⟩
  refine ⟨tokens, calls, hsplit, ?_⟩
  rcases hgoes with ⟨after, -, -, hauthorizes, hend⟩ | ⟨rfl, hstopped⟩
  · obtain ⟨-, hcalls⟩ := (asks_mainCall g s).requests hend
    have helsewhere : ∀ x ∈ calls, x.request.url ≠ tokenUrl g := by
      intro x hx
      obtain ⟨phase, q, hasked, hcarries⟩ := hcalls x hx
      exact hcarries.url ▸ hasked.url_ne
    exact ⟨hnone, honce, hbare, helsewhere, .passed tokens calls result _ hauthorizes hcalls⟩
  · exact ⟨hnone, honce, hbare, List.forall_mem_nil _, .stopped tokens result hstopped⟩

/-- The token request bears no authorization, and the one for the state of a booking bears the token
that was issued. -/
theorem booking_status_bears_token :
    ((opening (issuing "300") [(clientGateway, 0, status "B1")]).exchangesOf 0 tokenFirst).map
      (fun x => (x.request.url, x.request.headers.get? "authorization")) =
        [("https://supplier.example/auth/token", none),
          ("https://supplier.example/bookings/B1", some "Bearer t")] ∧
    ∃ result tokens calls,
      ((opening (issuing "300") [(clientGateway, 0, status "B1")]).run tokenFirst).tasks[0]?.bind
        Task.result? = some result ∧
      (opening (issuing "300") [(clientGateway, 0, status "B1")]).exchangesOf 0 tokenFirst =
        tokens ++ calls ∧
      Gated (opening (issuing "300") [(clientGateway, 0, status "B1")]) tokenFirst 0 0 clientGateway
        (status "B1") tokens calls result := by
  refine ⟨by decide +kernel, ?_⟩
  have hends : (((opening (issuing "300") [(clientGateway, 0, status "B1")]).run
      tokenFirst).tasks[0]?.bind Task.result?).isSome = true := by
    decide +kernel
  obtain ⟨result, hresult⟩ := Option.isSome_iff_exists.mp hends
  obtain ⟨tokens, calls, hsplit, hgated⟩ := authentication_gate (issuing "300") rfl
    [(clientGateway, 0, status "B1")] tokenFirst 0 clientGateway 0 (status "B1") rfl result hresult
  exact ⟨result, tokens, calls, hresult, hsplit, hgated⟩

end Service
end SupplierGateway
