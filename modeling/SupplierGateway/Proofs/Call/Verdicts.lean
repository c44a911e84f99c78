import SupplierGateway.Operation.Context
import SupplierGateway.Proofs.Call.Exchange
import SupplierGateway.Supplier.Replies

/-!
# The result and the record of a call

A call that is settled leaves one record, which determines the kind of its result.  The call
succeeds with the value that is read from a success that arrives in time.  When it fails, the record
tells the kind of the failure: with a response on record it is a supplier failure, and without one
it is a timeout or a connection failure, with the same message in both places.

A reply counts only if the sum of its delays is within the deadline; otherwise the pipeline puts a
timeout in its place.  Replies that crash are excluded.

* `Http.Reply.Arrives` — a reply gives an outcome within a time;
* `decoded_eq_success_iff` and `decoded_eq_failure_iff` — the result of an outcome;
* `Supplier.Reader` — the readers of a supplier's replies, whose failures are supplier failures;
* `Pipeline.await_standard` — a call through the standard interceptors, from beginning to end;
* `Verdict` and `Operation.Context.verdict_of_call` — the outcome and the record side by side;
* `Operation.Context.late_refused_and_booked` — a reply that is late by a millisecond, and two in time.
-/

namespace SupplierGateway

/-! ## Readers -/

namespace Supplier

/-- The readers of a supplier's replies. -/
inductive Reader : ∀ {α : Type}, (String → Except Failure α) → Prop
  | token : Reader readToken
  | locations : Reader readLocations
  | availability : Reader readAvailability
  | quote : Reader readQuote
  | booking : Reader readBooking
  | cancellation : Reader readCancellation

variable {α : Type}

/-- An error that a supplier reports is a supplier failure. -/
theorem kind_of_reportedError {v : Json.Value} {f : Failure} (hreported : reportedError v = some f) :
    f.kind = .supplier := by
  obtain ⟨text, -, htext⟩ := Option.bind_eq_some_iff.mp hreported
  split at htext
  · exact absurd htext (Option.some_ne_none f).symm
  · exact (Option.some.inj htext) ▸ rfl

theorem kind_of_readBody {d : Json.Decoder α} {body : String} {f : Failure}
    (hread : readBody d body = .error f) : f.kind = .supplier := by
  unfold readBody at hread
  split at hread
  · exact Except.error.inj hread ▸ rfl
  split at hread
  · next hreported =>
    exact Except.error.inj hread ▸ kind_of_reportedError hreported
  split at hread
  · cases hread
  · exact Except.error.inj hread ▸ rfl

/-- A reader that continues after another one has supplier failures only, if both do. -/
theorem kind_of_bind {β : Type} {x : Except Failure α} {further : α → Except Failure β}
    (hfirst : ∀ f, x = .error f → f.kind = .supplier)
    (hfurther : ∀ a f, further a = .error f → f.kind = .supplier) {f : Failure}
    (herror : (x >>= further) = .error f) : f.kind = .supplier := by
  cases x with
  | error e => exact Except.error.inj herror ▸ hfirst e rfl
  | ok a => exact hfurther a f herror

/-- The failure of reading a body is a supplier failure. -/
theorem Reader.kind_of_error {read : String → Except Failure α} (hreader : Reader read)
    {body : String} {f : Failure} (hread : read body = .error f) : f.kind = .supplier := by
  cases hreader with
  | availability | booking | cancellation => exact kind_of_readBody hread
  | token =>
      refine kind_of_bind (fun _ => kind_of_readBody) (fun issued f hrefused => ?_) hread
      split at hrefused
      · exact Except.error.inj hrefused ▸ rfl
      · cases hrefused
  | locations =>
      refine kind_of_bind (fun _ => kind_of_readBody) (fun page f hrefused => ?_) hread
      cases hrefused
  | quote =>
      refine kind_of_bind (fun _ => kind_of_readBody) (fun rate f hrefused => ?_) hread
      split at hrefused
      · exact Except.error.inj hrefused ▸ rfl
      · cases hrefused

end Supplier

/-! ## Outcomes -/

namespace Http

/-- A reply gives an outcome within a time. -/
def Reply.Arrives (reply : Reply) (timeoutMs : Nat) (o : Outcome) : Prop :=
  reply.latency ≤ timeoutMs ∧ reply.delivery = .outcome o

/-- The transport error is a timeout by its kind, or by its message, in any case of its letters. -/
def TransportError.TimedOut (e : TransportError) : Prop :=
  e.kind = .timeout ∨ "deadline exceeded".toList <:+: (Text.lower e.message).toList ∨
    "timed out".toList <:+: (Text.lower e.message).toList

theorem TransportError.isDeadline_iff {e : TransportError} : e.isDeadline = true ↔ e.TimedOut := by
  simp [isDeadline, TimedOut, Text.occursIn_iff, or_assoc]

end Http

namespace Call

open Audit (CallRecord RecordedResponse)
open Http (Delivery Outcome Reply Request Response Transport TransportError)

variable {α : Type}

/-- A response is delivered under the deadline iff the reply gives it in time. -/
theorem withinDeadline_eq_ok_iff {timeoutMs : Nat} {reply : Reply} {response : Response} :
    (withinDeadline timeoutMs reply).2 = .outcome (.ok response) ↔
      reply.Arrives timeoutMs (.ok response) := by
  unfold withinDeadline Reply.Arrives
  split
  · next hintime => exact (and_iff_right hintime).symm
  · next hlate => simp [hlate]

/-- An error is delivered under the deadline iff the reply gives it in time, or it is the timeout of
a late reply. -/
theorem withinDeadline_eq_error_iff {timeoutMs : Nat} {reply : Reply} {e : TransportError} :
    (withinDeadline timeoutMs reply).2 = .outcome (.error e) ↔
      reply.Arrives timeoutMs (.error e) ∨
        timeoutMs < reply.latency ∧ e = deadlineError timeoutMs := by
  unfold withinDeadline Reply.Arrives
  split
  · next hintime => simp [hintime, Nat.not_lt.mpr hintime]
  · next hlate => simp [hlate, Nat.lt_of_not_le hlate, eq_comm]

/-- The failure as which a transport error is classified. -/
def failureOf (e : TransportError) : Failure :=
  { kind := if e.isDeadline then .timeout else .connection, message := e.message }

theorem kind_failureOf (e : TransportError) :
    (failureOf e).kind = .timeout ∨ (failureOf e).kind = .connection := by
  unfold failureOf
  cases e.isDeadline
  · exact .inr rfl
  · exact .inl rfl

theorem kind_failureOf_ne (e : TransportError) : (failureOf e).kind ≠ .supplier := by
  rcases kind_failureOf e with hkind | hkind <;> simp [hkind]

theorem kind_failureOf_eq_timeout_iff {e : TransportError} :
    (failureOf e).kind = .timeout ↔ e.TimedOut := by
  rw [← TransportError.isDeadline_iff]
  cases hdeadline : e.isDeadline <;> simp [failureOf, hdeadline]

theorem timedOut_deadlineError (timeoutMs : Nat) : (deadlineError timeoutMs).TimedOut := .inl rfl

/-- The result of a call without a response is the failure of the transport error. -/
theorem decoded_error (decode : String → Attempt α) (e : TransportError) :
    decoded decode (.outcome (.error e)) = .failure (failureOf e) := by
  cases hdeadline : e.isDeadline <;>
    simp [decoded, Call.response, Http.classify, failureOf, hdeadline, Attempt.ofExcept,
      Failure.timeout, Failure.connection]

/-- The result of a call with a response is read from its body if it is a success. -/
theorem decoded_ok (decode : String → Attempt α) (response : Response) :
    decoded decode (.outcome (.ok response)) =
      if response.isSuccess then decode response.body
      else .failure (.ofStatus response.status) := by
  cases hsuccess : response.isSuccess <;>
    simp [decoded, Call.response, Http.classify, hsuccess, Attempt.ofExcept]

/-- A call succeeds iff its outcome is a success whose body is read. -/
theorem decoded_eq_success_iff {read : String → Except Failure α} {d : Delivery} {v : α} :
    decoded (fun body => .ofExcept (read body)) d = .success v ↔
      ∃ response, d = .outcome (.ok response) ∧ response.isSuccess = true ∧
        read response.body = .ok v := by
  rcases d with (e | response) | text
  · simp [decoded_error]
  · cases hsuccess : response.isSuccess <;> cases hread : read response.body <;>
      simp [decoded_ok, hsuccess, hread, Attempt.ofExcept]
  · simp [decoded, Call.response]

/-- A call fails with the status of a response that is no success, with the failure of reading the
body of a success, or with the transport error. -/
theorem decoded_eq_failure_iff {read : String → Except Failure α} {d : Delivery} {f : Failure} :
    decoded (fun body => .ofExcept (read body)) d = .failure f ↔
      (∃ response, d = .outcome (.ok response) ∧
        (response.isSuccess = false ∧ f = .ofStatus response.status ∨
          response.isSuccess = true ∧ read response.body = .error f)) ∨
      ∃ e, d = .outcome (.error e) ∧ f = failureOf e := by
  rcases d with (e | response) | text
  · simp [decoded_error, eq_comm (a := f)]
  · cases hsuccess : response.isSuccess <;> cases hread : read response.body <;>
      simp [decoded_ok, hsuccess, hread, Attempt.ofExcept, eq_comm (a := f)]
  · simp [decoded, Call.response]

/-- A call that fails with a response has a supplier failure. -/
theorem kind_of_decoded_ok {read : String → Except Failure α} (hreader : Supplier.Reader read)
    {response : Response} {f : Failure}
    (hfailure : decoded (fun body => .ofExcept (read body)) (.outcome (.ok response)) = .failure f) :
    f.kind = .supplier := by
  rcases decoded_eq_failure_iff.mp hfailure with ⟨_, -, ⟨-, rfl⟩ | ⟨-, hread⟩⟩ | ⟨_, herror, -⟩
  · rfl
  · exact hreader.kind_of_error hread
  · cases herror

/-! ## The outcome and the record -/

/-- The relation of the result of a call through a reader to its record, given the time limit and
the reply. -/
structure Verdict (timeoutMs : Nat) (reply : Reply) (read : String → Except Failure α)
    (record : CallRecord) (result : Attempt α) : Prop where
  /-- The call succeeds iff the body of a success that arrives in time is read. -/
  success : ∀ v, result = .success v ↔
    ∃ response, reply.Arrives timeoutMs (.ok response) ∧ response.isSuccess = true ∧
      read response.body = .ok v
  /-- Otherwise it fails. -/
  ends : (∃ v, result = .success v) ∨ ∃ f, result = .failure f
  /-- The supplier is to blame for a status other than success, and for a body that cannot be read. -/
  refused : (∃ f, result = .failure f ∧ f.kind = .supplier) ↔
    ∃ response, reply.Arrives timeoutMs (.ok response) ∧
      (response.isSuccess = false ∨ ∃ f, read response.body = .error f)
  /-- The record has the response that arrived in time. -/
  recorded : ∀ r, record.response = some r ↔
    ∃ response, reply.Arrives timeoutMs (.ok response) ∧ r = RecordedResponse.of response
  /-- A failure is a supplier failure iff there is a response on record. -/
  blamed : ∀ f, result = .failure f → (f.kind = .supplier ↔ record.response.isSome = true)
  /-- Without a response on record time ran out or nobody was reached, and the other way round. -/
  silent : (∃ f, result = .failure f ∧ (f.kind = .timeout ∨ f.kind = .connection)) ↔
    record.response = none
  /-- Then the record has the message of the failure. -/
  message : record.response = none →
    ∃ f, result = .failure f ∧ record.error = some f.message
  /-- A failure is a timeout iff the reply was late or the transport error is a timeout. -/
  timeout : (∃ f, result = .failure f ∧ f.kind = .timeout) ↔
    timeoutMs < reply.latency ∨ ∃ e, reply.Arrives timeoutMs (.error e) ∧ e.TimedOut

/-- The result of a call with an outcome within its time limit agrees with the record of that
outcome. -/
theorem verdict_of_outcome {read : String → Except Failure α} (hreader : Supplier.Reader read)
    {timeoutMs : Nat} {reply : Reply} {o : Outcome}
    (hdelivery : (withinDeadline timeoutMs reply).2 = .outcome o) (ctx : Context)
    (arrival : Arrival) (endMs : Nat) :
    Verdict timeoutMs reply read (Interceptor.outcomeRecord ctx arrival endMs o)
      (decoded (fun body => .ofExcept (read body)) (.outcome o)) := by
  -- The reply is in time or late; the fields use the delivery in either case.
  have harrives : ∀ response, Delivery.outcome o = .outcome (.ok response) ↔
      reply.Arrives timeoutMs (.ok response) := fun response =>
    hdelivery ▸ withinDeadline_eq_ok_iff
  have hfails : ∀ e, Delivery.outcome o = .outcome (.error e) ↔
      reply.Arrives timeoutMs (.error e) ∨
        timeoutMs < reply.latency ∧ e = deadlineError timeoutMs := fun e =>
    hdelivery ▸ withinDeadline_eq_error_iff
  constructor
  case success =>
    intro v
    simp only [decoded_eq_success_iff, harrives]
  case ends =>
    cases o with
    | error e => exact .inr ⟨_, decoded_error _ e⟩
    | ok response =>
        rw [decoded_ok]
        cases response.isSuccess <;> cases read response.body <;> simp [Attempt.ofExcept]
  case refused =>
    constructor
    · rintro ⟨f, hfailure, hkind⟩
      rcases decoded_eq_failure_iff.mp hfailure with ⟨response, hresponse, hwhy⟩ | ⟨e, -, rfl⟩
      · refine ⟨response, (harrives response).mp hresponse, ?_⟩
        exact hwhy.imp And.left fun hread => ⟨f, hread.2⟩
      · exact absurd hkind (kind_failureOf_ne e)
    · rintro ⟨response, hresponse, hwhy⟩
      obtain rfl : o = .ok response := Delivery.outcome.inj ((harrives response).mpr hresponse)
      obtain ⟨f, hfailure⟩ : ∃ f, decoded (fun body => .ofExcept (read body))
          (.outcome (.ok response)) = .failure f := by
        rw [decoded_ok]
        rcases hwhy with hstatus | ⟨f, hread⟩
        · exact ⟨_, if_neg (by simp [hstatus])⟩
        · rw [hread]
          split
          · exact ⟨f, rfl⟩
          · exact ⟨_, rfl⟩
      exact ⟨f, hfailure, kind_of_decoded_ok hreader hfailure⟩
  case recorded =>
    intro r
    simp only [← harrives]
    cases o <;> simp [Interceptor.outcomeRecord, Interceptor.callRecord, eq_comm (a := r)]
  case blamed =>
    intro f hfailure
    cases o with
    | error e =>
        obtain rfl := Attempt.failure.inj ((decoded_error _ e).symm.trans hfailure)
        exact iff_of_false (kind_failureOf_ne e) Bool.false_ne_true
    | ok response => exact iff_of_true (kind_of_decoded_ok hreader hfailure) rfl
  case silent =>
    cases o with
    | error e => exact iff_of_true ⟨_, decoded_error _ e, kind_failureOf e⟩ rfl
    | ok response =>
        refine iff_of_false ?_ (Option.some_ne_none _)
        rintro ⟨f, hfailure, hkind⟩
        rw [kind_of_decoded_ok hreader hfailure] at hkind
        exact absurd hkind (by decide)
  case message =>
    intro hsilent
    cases o with
    | error e => exact ⟨_, decoded_error _ e, rfl⟩
    | ok response => exact absurd hsilent (Option.some_ne_none _)
  case timeout =>
    constructor
    · rintro ⟨f, hfailure, hkind⟩
      cases o with
      | error e =>
          obtain rfl := Attempt.failure.inj ((decoded_error _ e).symm.trans hfailure)
          rcases (hfails e).mp rfl with hintime | ⟨hlate, -⟩
          · exact .inr ⟨e, hintime, kind_failureOf_eq_timeout_iff.mp hkind⟩
          · exact .inl hlate
      | ok response =>
          exact absurd ((kind_of_decoded_ok hreader hfailure).symm.trans hkind) (by decide)
    · intro hwhy
      obtain ⟨e, he, htimedOut⟩ : ∃ e, Delivery.outcome o = .outcome (.error e) ∧ e.TimedOut := by
        rcases hwhy with hlate | ⟨e, hintime, htimedOut⟩
        · exact ⟨_, (hfails _).mpr (.inr ⟨hlate, rfl⟩), timedOut_deadlineError timeoutMs⟩
        · exact ⟨e, (hfails e).mpr (.inl hintime), htimedOut⟩
      rw [he]
      exact ⟨_, decoded_error _ e, kind_failureOf_eq_timeout_iff.mpr htimedOut⟩

/-! ## A call from beginning to end -/

/-- A reply that does not crash gives an outcome under the deadline. -/
theorem exists_outcome {reply : Reply} (hcalm : ∀ text, reply.delivery ≠ .crash text)
    (timeoutMs : Nat) : ∃ o, (withinDeadline timeoutMs reply).2 = .outcome o := by
  unfold withinDeadline
  split
  · cases hdelivery : reply.delivery with
    | outcome o => exact ⟨o, rfl⟩
    | crash text => exact absurd hdelivery (hcalm text)
  · exact ⟨_, rfl⟩

/-- A call through the standard interceptors that has an outcome leaves the record of it. -/
theorem Pipeline.await_standard {p : Pipeline} (hstandard : p.interceptors = Interceptor.standard)
    (clockMs : Nat) (t : Transport) (q : Request) {o : Outcome}
    (hdelivery :
      (withinDeadline p.context.timeoutMs.toNat (t.send (p.outgoing q)).2).2 = .outcome o) :
    ∃ emissions endMs, (p.await clockMs none t q).2 = (emissions, some (.outcome o)) ∧
      Emission.records emissions =
        [Interceptor.outcomeRecord p.context { request := p.outgoing q, clockMs } endMs o] := by
  rw [await, p.send_standard hstandard, hdelivery]
  exact ⟨_, _, rfl, rfl⟩

end Call

namespace Operation.Context

open Call (Emission Verdict)
open Http (Request Transport)

/-- The result and the record of a call agree.  A call of any phase, to any transport and at any
time, leaves one record, which is of the phase, and its result through a reader of the supplier's
replies agrees with the record, unless the transport crashes. -/
theorem verdict_of_call {α : Type} (c : Context) {read : String → Except Failure α}
    (hreader : Supplier.Reader read) (clockMs : Nat) (t : Transport) (q : Request)
    (hcalm : ∀ text, (t.send (c.pipeline.outgoing q)).2.delivery ≠ .crash text) :
    ∃ emissions d record, (c.pipeline.await clockMs none t q).2 = (emissions, some d) ∧
      Emission.records emissions = [record] ∧ record.phase = c.phase ∧
      Verdict c.timeoutMs.toNat (t.send (c.pipeline.outgoing q)).2 read record
        (Call.decoded (fun body => .ofExcept (read body)) d) := by
  obtain ⟨o, hdelivery⟩ := Call.exists_outcome hcalm c.timeoutMs.toNat
  obtain ⟨emissions, endMs, hawait, hrecords⟩ :=
    Call.Pipeline.await_standard (p := c.pipeline) rfl clockMs t q hdelivery
  refine ⟨emissions, _, _, hawait, hrecords, ?_, Call.verdict_of_outcome hreader hdelivery _ _ _⟩
  cases o <;> rfl

/-- A context in which bookings may take fifty milliseconds. -/
def hasty : Context where
  timeouts := { default := 50 }
  endpoint := { base := "https://supplier.test" }
  credential := .none
  phase := .booking

/-- A request to book. -/
def bookingCall : Request := { method := .post, url := "https://supplier.test/bookings" }

/-- A transport that answers every request with one body, after two delays. -/
def answeringAfter (first second : Nat) (body : String) : Transport where
  otherwise _ _ := .delay first (.delay second (.respond (.ofJson 200 body)))

/-- The body of an answer that nothing was booked. -/
def soldOut : String := "\x7b\"error\":\"SOLD OUT\"\x7d"

/-- The body of an answer that a vehicle was booked. -/
def booked : String := "\x7b\"reference\":\"R1\",\"status\":\"confirmed\"\x7d"

/-- A booking that is answered a millisecond too late leaves no response on record.  One that is
answered at the last moment leaves one, whether the supplier refuses or books. -/
theorem late_refused_and_booked :
    (∃ emissions d record,
      (hasty.pipeline.await 7 none (answeringAfter 20 31 booked) bookingCall).2 =
        (emissions, some d) ∧
      Emission.records emissions = [record] ∧ record.phase = .booking ∧ record.response = none ∧
      ∃ f, Call.decoded (fun body => .ofExcept (Supplier.readBooking body)) d = .failure f ∧
        f.kind = .timeout) ∧
    (∃ emissions d record,
      (hasty.pipeline.await 7 none (answeringAfter 20 30 soldOut) bookingCall).2 =
        (emissions, some d) ∧
      Emission.records emissions = [record] ∧ record.response.isSome = true ∧
      ∃ f, Call.decoded (fun body => .ofExcept (Supplier.readBooking body)) d = .failure f ∧
        f.kind = .supplier) ∧
    ∃ emissions d record,
      (hasty.pipeline.await 7 none (answeringAfter 20 30 booked) bookingCall).2 =
        (emissions, some d) ∧
      Emission.records emissions = [record] ∧
      Call.decoded (fun body => .ofExcept (Supplier.readBooking body)) d =
        .success { reference := "R1", state := .confirmed } := by
  have hverdict := fun first second body =>
    verdict_of_call hasty .booking 7 (answeringAfter first second body) bookingCall
      fun _ => Http.Delivery.noConfusion
  refine ⟨?_, ?_, ?_⟩
  · obtain ⟨emissions, d, record, hawait, hrecords, hphase, hagrees⟩ := hverdict 20 31 booked
    obtain ⟨f, hfailure, hkind⟩ := hagrees.timeout.mpr (.inl (by decide))
    exact ⟨emissions, d, record, hawait, hrecords, hphase,
      hagrees.silent.mp ⟨f, hfailure, .inl hkind⟩, f, hfailure, hkind⟩
  · obtain ⟨emissions, d, record, hawait, hrecords, -, hagrees⟩ := hverdict 20 30 soldOut
    have hread : Supplier.readBooking soldOut = .error (.supplier "SOLD OUT") := by
      decide +kernel
    obtain ⟨f, hfailure, hkind⟩ :=
      hagrees.refused.mpr ⟨.ofJson 200 soldOut, ⟨by decide, rfl⟩, .inr ⟨_, hread⟩⟩
    exact ⟨emissions, d, record, hawait, hrecords, (hagrees.blamed f hfailure).mp hkind, f,
      hfailure, hkind⟩
  · obtain ⟨emissions, d, record, hawait, hrecords, -, hagrees⟩ := hverdict 20 30 booked
    have hread : Supplier.readBooking booked = .ok { reference := "R1", state := .confirmed } := by
      decide +kernel
    exact ⟨emissions, d, record, hawait, hrecords,
      (hagrees.success _).mpr ⟨.ofJson 200 booked, ⟨by decide, rfl⟩, rfl, hread⟩⟩

end Operation.Context
end SupplierGateway
