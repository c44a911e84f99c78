import SupplierGateway.Proofs.Gateway.AuthenticationGate

/-!
# Single calls report one outcome

Booking, asking for the state of a booking and cancelling it are operations of one call each.  Such
an operation goes through four stages: it authenticates, makes its request, sends it and waits for a
success, and reads the body of the response.  The first stage that fails ends it, and its failure is
the only one that is reported.  There is a payload if and only if no stage fails.

* `Single` — the operations of one call, with the request of each and the reader of its reply;
* `Authenticated` — the ends of authentication;
* `Stages` — the stages after authentication, and their result;
* `OneOutcome` — the outcome that an answer reports;
* `stages_of_call` and `oneOutcome_of_mainCall` — a call goes through its stages;
* `single_calls_report_one_outcome` — operations of one call answer with one outcome.
-/

namespace SupplierGateway
namespace Service

open Call (Exchange)
open Http (Authorization Request Response)
open Operation (Envelope Event Resources Run Script Task World readIssued)
open Supplier (Build)

variable {α : Type}

/-! ## Stages -/

/-- The operations of one call, with the request, the reader of the body of a success, and the
payload. -/
inductive Single (g : Gateway) : ∀ {α : Type}, Service → Build → (String → Except Failure α) →
    (Option α → Payload) → Prop
  | book (r : Rental.BookingRequest) :
      Single g (book r) (.ok (Supplier.booking g.endpoint r)) Supplier.readBooking .booking
  | status (reference : String) :
      Single g (status reference) (Supplier.bookingStatus g.endpoint reference)
        Supplier.readBooking .booking
  | cancel (reference : String) :
      Single g (cancel reference) (Supplier.cancel g.endpoint reference) Supplier.readCancellation
        .cancellation

/-- The ends of authentication, given the exchanges for a token. -/
inductive Authenticated (w : World (Envelope Payload)) (events : List Event) (who cache : Nat)
    (g : Gateway) : List Exchange → Except Failure Authorization → Prop
  | authorized (tokens : List Exchange) (z : Authorization)
      (hauthorizes : Authorizes w events who cache g tokens z) :
      Authenticated w events who cache g tokens (.ok z)
  | refused (x : Exchange) (f : Failure) (hrefused : x.comesTo readIssued = .failure f) :
      Authenticated w events who cache g [x] (.error f)

/-- A request as a gateway sends it in a phase, with an authorization. -/
def sentRequest (g : Gateway) (phase : Phase) (z : Authorization) (q : Request) : Request :=
  (g.context phase).pipeline.outgoing (q.withAuthorization z)

/-- The stages of a single call up to the first that fails: the end of authentication, the exchanges
after it, and the result. -/
inductive Stages (g : Gateway) (phase : Phase) (build : Build) (read : String → Except Failure α) :
    Except Failure Authorization → List Exchange → Except Failure α → Prop
  | unauthenticated (f : Failure) : Stages g phase build read (.error f) [] (.error f)
  | unbuilt (z : Authorization) (f : Failure) (hbuild : build = .error f) :
      Stages g phase build read (.ok z) [] (.error f)
  /-- The call was not answered by a success in time. -/
  | unsuccessful (z : Authorization) (q : Request) (x : Exchange) (o : Http.Outcome) (f : Failure)
      (hbuild : build = .ok q) (hrequest : x.request = sentRequest g phase z q)
      (hdelivery : x.delivery = .outcome o) (hclassify : Http.classify o = .error f) :
      Stages g phase build read (.ok z) [x] (.error f)
  | unreadable (z : Authorization) (q : Request) (x : Exchange) (o : Http.Outcome)
      (response : Response) (f : Failure) (hbuild : build = .ok q)
      (hrequest : x.request = sentRequest g phase z q) (hdelivery : x.delivery = .outcome o)
      (hclassify : Http.classify o = .ok response) (hread : read response.body = .error f) :
      Stages g phase build read (.ok z) [x] (.error f)
  | read (z : Authorization) (q : Request) (x : Exchange) (o : Http.Outcome) (response : Response)
      (a : α) (hbuild : build = .ok q) (hrequest : x.request = sentRequest g phase z q)
      (hdelivery : x.delivery = .outcome o) (hclassify : Http.classify o = .ok response)
      (hread : read response.body = .ok a) : Stages g phase build read (.ok z) [x] (.ok a)

/-- An answer reports a payload and no failure, or no payload and one failure. -/
def Reports (wrap : Option α → Payload) (env : Envelope Payload) : Except Failure α → Prop
  | .ok a => env.payload = wrap (some a) ∧ env.errors = []
  | .error f => env.payload = wrap none ∧ env.errors = [f]

/-- The outcome that an answer reports, given the end of authentication and the exchanges after
it. -/
structure OneOutcome (g : Gateway) (phase : Phase) (build : Build)
    (read : String → Except Failure α) (wrap : Option α → Payload)
    (authentication : Except Failure Authorization) (calls : List Exchange)
    (env : Envelope Payload) : Prop where
  /-- The answer reports the result of the stages. -/
  reports : ∃ outcome, Stages g phase build read authentication calls outcome ∧
    Reports wrap env outcome
  /-- There is a payload if and only if nothing failed. -/
  payload_iff : (∃ a, env.payload = wrap (some a)) ↔ env.errors = []
  /-- The request is sent if and only if the first two stages succeed. -/
  sent_iff : calls ≠ [] ↔ (∃ z, authentication = .ok z) ∧ ∃ q, build = .ok q
  at_most_once : calls.length ≤ 1

variable {g : Gateway} {s : Service} {build : Build} {read : String → Except Failure α}
  {wrap : Option α → Payload} {phase : Phase} {calls : List Exchange} {env : Envelope Payload}
  {authentication : Except Failure Authorization}

/-! ## The result of the stages -/

/-- An operation of one call makes its call, and ends with the value that it has read or with
none. -/
theorem Single.mainCall_eq (hsingle : Single g s build read wrap) :
    s.mainCall g = .call s.phase (.ofExcept build) (fun body => .ofExcept (read body))
      fun a => s.close (wrap a) := by
  cases hsingle <;> rfl

theorem Single.empty_eq (hsingle : Single g s build read wrap) : s.empty = wrap none := by
  cases hsingle <;> rfl

/-- An operation of one call does not discard its payload. -/
theorem Single.payload_envelope (hsingle : Single g s build read wrap) (r : Run)
    (payload empty : Payload) : (r.envelope s.policy payload empty).payload = payload := by
  cases hsingle <;> rfl

theorem Single.wrap_ne (hsingle : Single g s build read wrap) (a : α) : wrap none ≠ wrap (some a) :=
  by cases hsingle <;> simp

/-- The request is sent once, if the first two stages succeed. -/
theorem Stages.sent {outcome : Except Failure α}
    (hstages : Stages g phase build read authentication calls outcome) :
    (calls ≠ [] ↔ (∃ z, authentication = .ok z) ∧ ∃ q, build = .ok q) ∧ calls.length ≤ 1 := by
  cases hstages with
  | unauthenticated f => simp
  | unbuilt z f hbuild => simp [hbuild]
  | unsuccessful z q x o f hbuild hrequest hdelivery hclassify => simp [hbuild]
  | unreadable z q x o response f hbuild hrequest hdelivery hclassify hread => simp [hbuild]
  | read z q x o response a hbuild hrequest hdelivery hclassify hread => simp [hbuild]

/-- An answer that reports the result of the stages reports one outcome. -/
theorem Stages.oneOutcome (hsingle : Single g s build read wrap) {outcome : Except Failure α}
    (hstages : Stages g phase build read authentication calls outcome)
    (hreports : Reports wrap env outcome) :
    OneOutcome g phase build read wrap authentication calls env where
  reports := ⟨outcome, hstages, hreports⟩
  payload_iff := by
    cases outcome with
    | ok a => exact iff_of_true ⟨a, hreports.1⟩ hreports.2
    | error f =>
        obtain ⟨hpayload, herrors⟩ := hreports
        rw [hpayload, herrors]
        exact iff_of_false (fun ⟨a, ha⟩ => hsingle.wrap_ne a ha) (List.cons_ne_nil _ _)
  sent_iff := hstages.sent.1
  at_most_once := hstages.sent.2

/-! ## Calls go through their stages -/

variable {latest : Nat} {r r' : Run} {xs : List Exchange}
  {result : Except String (Envelope Payload)}

/-- The result of an exchange with an outcome is that of the last two stages. -/
theorem stages_of_outcome (read : String → Except Failure α) {z : Authorization} {q : Request}
    {x : Exchange} {o : Http.Outcome} (hbuild : build = .ok q)
    (hrequest : x.request = sentRequest g phase z q) (hdelivery : x.delivery = .outcome o) :
    ∃ outcome, Stages g phase build read (.ok z) [x] outcome ∧
      x.comesTo (fun body => .ofExcept (read body)) = .ofExcept outcome := by
  have hcomes : x.comesTo (fun body => .ofExcept (read body)) =
      (Attempt.ofExcept (Http.classify o)).bind fun response => .ofExcept (read response.body) := by
    rw [Exchange.comesTo, Call.decoded, hdelivery]
    rfl
  rw [hcomes]
  cases hclassify : Http.classify o with
  | error f =>
      exact ⟨_, .unsuccessful z q x o f hbuild hrequest hdelivery hclassify, rfl⟩
  | ok response =>
      cases hread : read response.body with
      | error f =>
          exact ⟨_, .unreadable z q x o response f hbuild hrequest hdelivery hclassify hread,
            congrArg Attempt.ofExcept hread⟩
      | ok a =>
          exact ⟨_, .read z q x o response a hbuild hrequest hdelivery hclassify hread,
            congrArg Attempt.ofExcept hread⟩

/-- A call of a script goes through its stages, and the instructions after it are given their
result. -/
theorem stages_of_call {inPhase : Phase} {rest : Option α → Script (Envelope Payload)}
    (hcontext : r.context = g.context inPhase)
    (hends : (Script.call phase (.ofExcept build) (fun body => .ofExcept (read body)) rest).Ends
      g.fanOut latest r xs r' result)
    (hanswered : ∀ x ∈ xs, x.Answered) :
    ∃ calls later records outcome, xs = calls ++ later ∧
      Stages g phase build read (.ok r.authorization) calls outcome ∧
      match (motive := Except Failure α → Prop) outcome with
      | .ok a => (rest (some a)).Ends g.fanOut latest (r.addRecords records) later r' result
      | .error f =>
          (rest none).Ends g.fanOut latest ((r.addRecords records).recordError f) later r'
            result := by
  cases hbuild : build with
  | error f =>
      rw [hbuild, Script.Ends] at hends
      obtain ⟨sent, later, records, a, rfl, hcall, hend⟩ := hends
      cases hcall.undertaken with
      | unsent f => exact ⟨[], later, [], .error f, rfl, .unbuilt _ f rfl, hend⟩
  | ok q =>
      rw [hbuild] at hends
      obtain ⟨x, later, record, rfl, hsent, hend⟩ := Script.Ends.of_call hends
      obtain ⟨o, hdelivery⟩ := hanswered x List.mem_cons_self
      have hrequest : x.request = sentRequest g phase r.authorization q := by
        rw [hsent, Run.pipeline, hcontext]
        rfl
      obtain ⟨outcome, hstages, hcomes⟩ := stages_of_outcome read rfl hrequest hdelivery
      refine ⟨[x], later, [record], outcome, rfl, hstages, ?_⟩
      rw [hcomes] at hend
      cases outcome with
      | ok a => exact hend
      | error f => exact hend

/-- The instructions after authentication in an operation of one call, in a run without failures. -/
theorem oneOutcome_of_mainCall (hsingle : Single g s build read wrap)
    (hcontext : r.context = g.context s.phase) (hclean : r.ledgers.errors.entries = [])
    (hends : (s.mainCall g).Ends g.fanOut latest r xs r' result)
    (hanswered : ∀ x ∈ xs, x.Answered) :
    ∃ env, result = .ok env ∧
      OneOutcome g s.phase build read wrap (.ok r.authorization) xs env := by
  rw [hsingle.mainCall_eq] at hends
  obtain ⟨calls, later, records, outcome, rfl, hstages, hend⟩ :=
    stages_of_call hcontext hends hanswered
  cases outcome with
  | ok a =>
      obtain ⟨rfl, rfl⟩ := ends_close hend
      rw [List.append_nil]
      exact ⟨_, rfl, hstages.oneOutcome hsingle ⟨hsingle.payload_envelope .., hclean⟩⟩
  | error f =>
      obtain ⟨rfl, rfl⟩ := ends_close hend
      rw [List.append_nil]
      refine ⟨_, rfl, hstages.oneOutcome hsingle ⟨hsingle.payload_envelope .., ?_⟩⟩
      show r.ledgers.errors.entries ++ [f] = [f]
      rw [hclean, List.nil_append]

/-- An operation of one call that stops at authentication, and whose exchanges have outcomes,
reports the failure of authentication, unless its token expires beyond the clock. -/
theorem oneOutcome_of_stopped {w : World (Envelope Payload)} {events : List Event}
    {who cache : Nat} {tokens : List Exchange} (hsingle : Single g s build read wrap)
    (htokens : TokenExchanges g tokens) (hnone : g.credential.requiresToken = false → tokens = [])
    (hstopped : Stopped g s latest tokens result) (hanswered : ∀ x ∈ tokens, x.Answered) :
    (∃ env authentication, result = .ok env ∧
      Authenticated w events who cache g tokens authentication ∧
      OneOutcome g s.phase build read wrap authentication [] env) ∨
    result = .error Cache.CacheError.beyondClock.message ∧ OverlongToken g latest tokens := by
  cases hstopped with
  | refused x f record hrefused hrecord hphase =>
      refine .inl ⟨_, .error f, rfl, .refused x f hrefused, ?_⟩
      exact (Stages.unauthenticated f).oneOutcome hsingle ⟨hsingle.empty_eq, rfl⟩
  | crashed x text hcrash =>
      obtain ⟨o, hdelivery⟩ := hanswered x List.mem_cons_self
      have hcrashed := x.delivery_of_crash (fun body => Attempt.ofExcept_ne_crash _) hcrash
      exact absurd (hdelivery.symm.trans hcrashed) Http.Delivery.noConfusion
  | unstorable x t hissued hbeyond =>
      have hrequired : g.credential.requiresToken = true := by
        rw [← Bool.not_eq_false]
        exact fun hno => List.cons_ne_nil _ _ (hnone hno)
      exact .inr ⟨rfl, hrequired, htokens, x, t, rfl, hissued, hbeyond⟩

/-- Over a transport that does not crash, an operation of one call ends in a fair schedule, when no
other operation holds or queues for the lock of its key.  In any interleaving with other operations
and for any caches, an operation that ends answers, and reports one outcome: the value read from the
reply to its one request, or the failure of the first stage that failed.  The exception is a token
whose expiry lies beyond the clock. -/
theorem single_calls_report_one_outcome (r : Resources) (haddress : r.transport.address = id)
    (hcalm : r.transport.Calm) (g : Gateway) (cache : Nat) {s : Service} {build : Build}
    {read : String → Except Failure α} {wrap : Option α → Payload}
    (hsingle : Single g s build read wrap) :
    ((r.cache cache).locks.Idle (Cache.key g.endpoint g.credential) →
      ∀ schedule, (opening r [(g, cache, s)]).Fair 0 schedule →
        ∃ n result, ((opening r [(g, cache, s)]).after schedule n).tasks[0]?.bind
          Task.result? = some result) ∧
    ∀ (orders : List (Gateway × Nat × Service)) (events : List Event) (who : Nat) result,
      orders[who]? = some (g, cache, s) →
      ((opening r orders).run events).tasks[who]?.bind Task.result? = some result →
        ∃ tokens calls, (opening r orders).exchangesOf who events = tokens ++ calls ∧
          TokenExchanges g tokens ∧
          ((∃ env authentication, result = .ok env ∧
              Authenticated (opening r orders) events who cache g tokens authentication ∧
              OneOutcome g s.phase build read wrap authentication calls env) ∨
            calls = [] ∧ result = .error Cache.CacheError.beyondClock.message ∧
              OverlongToken g ((opening r orders).run events).resources.clockMs tokens) := by
  refine ⟨fun hidle schedule hfair => ?_, fun orders events who result horder hresult => ?_⟩
  · have hsolo : (opening r [(g, cache, s)]).Solo (s.task g cache) :=
      { tasks := rfl
        address := haddress
        unhindered := hidle }
    exact hsolo.ends_of_fair hfair
  · have hcalm' : (opening r orders).resources.transport.Calm := by
      rw [transport_opening]
      exact hcalm
    have hanswered := World.answered_exchangesOf hcalm' who events
    obtain ⟨r', hends, hknown⟩ := ends_of_result_vouched haddress horder hresult
    obtain ⟨tokens, calls, hsplit, htokens, hnone, hgoes⟩ := passes_or_stops hends hknown
    rw [hsplit] at hanswered
    obtain ⟨htokensAnswered, hcallsAnswered⟩ := List.forall_mem_append.mp hanswered
    refine ⟨tokens, calls, hsplit, htokens, ?_⟩
    rcases hgoes with ⟨after, hcontext, hclean, hauthorizes, hend⟩ | ⟨rfl, hstopped⟩
    · obtain ⟨env, henv, hone⟩ :=
        oneOutcome_of_mainCall hsingle hcontext hclean hend hcallsAnswered
      exact .inl ⟨env, _, henv, .authorized tokens _ hauthorizes, hone⟩
    · exact (oneOutcome_of_stopped hsingle htokens hnone hstopped htokensAnswered).imp_right
        (And.intro rfl)

/-- The answer of a gateway that is issued a token for five minutes first. -/
def answerWithToken (s : Service) : Option (Except String (Envelope Payload)) :=
  ((opening (issuing "300") [(clientGateway, 0, s)]).run tokenFirst).tasks[0]?.bind Task.result?

/-- The state of a booking is reported, and no failure.  To cancel a booking without a reference is
reported as the only failure, although a token was issued for it. -/
theorem one_booking_and_one_failure :
    (∃ env c, answerWithToken (status "B1") = some (.ok env) ∧
      env.payload = .booking (some c) ∧ env.errors = []) ∧
    ∃ env f, answerWithToken (cancel " ") = some (.ok env) ∧
      env.payload = .cancellation none ∧ env.errors = [f] := by
  have hreports : ∀ {α : Type} {s : Service} {build : Build} {read : String → Except Failure α}
      {wrap : Option α → Payload}, Single clientGateway s build read wrap → ∀ errors : List Failure,
      ((answerWithToken s).bind Except.toOption).map Envelope.errors = some errors →
      ∃ env outcome, answerWithToken s = some (.ok env) ∧ env.errors = errors ∧
        Reports wrap env outcome := by
    intro α s build read wrap hsingle errors herrors
    obtain ⟨env, henv, rfl⟩ := Option.map_eq_some_iff.mp herrors
    obtain ⟨result, hresult, hok⟩ := Option.bind_eq_some_iff.mp henv
    obtain ⟨tokens, calls, -, -, hgoes⟩ :=
      (single_calls_report_one_outcome (issuing "300") rfl (calm_issuing "300") clientGateway 0
        hsingle).2 [(clientGateway, 0, s)] tokenFirst 0 result rfl hresult
    rcases hgoes with ⟨found, authentication, rfl, -, hone⟩ | ⟨-, rfl, -⟩
    · obtain rfl := Option.some.inj hok
      obtain ⟨outcome, -, hreports⟩ := hone.reports
      exact ⟨found, outcome, hresult, rfl, hreports⟩
    · exact nomatch hok
  constructor
  · obtain ⟨env, outcome, hanswer, herrors, hreports⟩ :=
      hreports (.status "B1") [] (by decide +kernel)
    cases outcome with
    | ok c => exact ⟨env, c, hanswer, hreports⟩
    | error f => exact absurd (herrors.symm.trans hreports.2) (List.cons_ne_nil _ _).symm
  · obtain ⟨env, outcome, hanswer, herrors, hreports⟩ :=
      hreports (.cancel " ") [.supplier "booking reference cannot be empty"] (by decide +kernel)
    cases outcome with
    | ok c => exact absurd (herrors.symm.trans hreports.2) (List.cons_ne_nil _ _)
    | error f => exact ⟨env, f, hanswer, hreports⟩

end Service
end SupplierGateway
