import Mathlib.Data.List.Forall2
import SupplierGateway.Call.Pending

/-!
# Exchanges and their records

A call through the standard interceptors sends at most one request, and leaves one record for each
request that it sent, whether it is settled, crashes or is abandoned.

* `Exchange` — a request as the transport took it, with the reply;
* `Exchange.RecordedAs` — the records that such a request may leave;
* `Pending.Begun` and `begun_begin` — the request that beginning a call sends, and the pending call;
* `Undertaken` and `Pending.Begun.settle` — the request, the record and the result of a call;
* `Completed` and `Pending.Begun.complete` — the record is that of the outcome that was delivered;
* `Pending.Begun.abandon` — the record of a call that is abandoned.
-/

namespace SupplierGateway
namespace Call

open Audit (CallRecord)
open Http (Delivery Method Reply Request Transport)

variable {α : Type}

/-- A request as the transport took it, and the reply of the transport. -/
structure Exchange where
  request : Request
  reply : Reply

namespace Exchange

/-- The delivery of the reply under the time limit of the request. -/
def delivery (x : Exchange) : Delivery :=
  (withinDeadline x.request.timeoutMs.toNat x.reply).2

/-- The result of the exchange when it is not abandoned. -/
def comesTo (decode : String → Attempt α) (x : Exchange) : Attempt α := decoded decode x.delivery

/-- The records that a request may leave: that of its outcome, or that of an abandoned call. -/
inductive RecordedAs (ctx : Context) (x : Exchange) : CallRecord → Prop
  | settled (startMs endMs : Nat) (o : Http.Outcome) (hdelivery : x.delivery = .outcome o) :
      RecordedAs ctx x
        (Interceptor.outcomeRecord ctx { request := x.request, clockMs := startMs } endMs o)
  | abandoned (startMs endMs : Nat) :
      RecordedAs ctx x
        (Interceptor.abandonedRecord ctx { request := x.request, clockMs := startMs } endMs)

end Exchange

namespace Exchange

variable {x : Exchange} {decode : String → Attempt α}

/-- The value of an exchange that succeeds was read from the body of a response. -/
theorem exists_body {a : α} (hsuccess : x.comesTo decode = .success a) :
    ∃ body, decode body = .success a := by
  unfold comesTo decoded at hsuccess
  cases hresponse : response x.delivery with
  | success r =>
      rw [hresponse] at hsuccess
      exact ⟨r.body, hsuccess⟩
  | failure f =>
      rw [hresponse] at hsuccess
      exact nomatch hsuccess
  | crash text =>
      rw [hresponse] at hsuccess
      exact nomatch hsuccess

/-- When reading a body never crashes, a crash was delivered. -/
theorem delivery_of_crash {text : String} (hreads : ∀ body text, decode body ≠ .crash text)
    (hcrash : x.comesTo decode = .crash text) : x.delivery = .crash text := by
  unfold comesTo decoded at hcrash
  cases hdelivery : x.delivery with
  | crash other =>
      rw [hdelivery] at hcrash
      exact congrArg _ (Attempt.crash.inj hcrash)
  | outcome o =>
      rw [hdelivery] at hcrash
      simp only [response] at hcrash
      cases hclassify : Http.classify o with
      | ok r =>
          rw [hclassify] at hcrash
          exact absurd hcrash (hreads r.body text)
      | error f =>
          rw [hclassify] at hcrash
          exact nomatch hcrash

end Exchange

/-- The method and the address of a request. -/
def requestKey (r : Request) : Method × String := (r.method, r.url)

/-- The method and the address in a record. -/
def recordKey (r : CallRecord) : Method × String := (r.request.method, r.request.url)

theorem Exchange.RecordedAs.key {ctx : Context} {x : Exchange} {record : CallRecord}
    (hrecord : x.RecordedAs ctx record) : recordKey record = requestKey x.request := by
  cases hrecord with
  | settled startMs endMs o hdelivery => cases o <;> rfl
  | abandoned startMs endMs => rfl

theorem Exchange.RecordedAs.phase {ctx : Context} {x : Exchange} {record : CallRecord}
    (hrecord : x.RecordedAs ctx record) : record.phase = ctx.phase := by
  cases hrecord with
  | settled startMs endMs o hdelivery => cases o <;> rfl
  | abandoned startMs endMs => rfl

/-- A record has a response or an error, and not both. -/
theorem Exchange.RecordedAs.response_xor_error {ctx : Context} {x : Exchange} {record : CallRecord}
    (hrecord : x.RecordedAs ctx record) : record.response.isSome = !record.error.isSome := by
  cases hrecord with
  | settled startMs endMs o hdelivery => cases o <;> rfl
  | abandoned startMs endMs => rfl

/-- The exchanges of a transport between two moments. -/
def exchanges (before after : Transport) : List Exchange :=
  (after.log.drop before.log.length).map fun q => { request := q, reply := (before.send q).2 }

@[simp] theorem exchanges_self (t : Transport) : exchanges t t = [] := by
  simp [exchanges]

namespace Pipeline

/-- A request as the pipeline sends it. -/
def outgoing (p : Pipeline) (r : Request) : Request := { r with timeoutMs := p.context.timeoutMs }

/-- Sending a request through the standard interceptors. -/
theorem send_standard {p : Pipeline} (hstandard : p.interceptors = Interceptor.standard)
    (clockMs : Nat) (t : Transport) (r : Request) :
    p.send clockMs t r =
      ((t.send (p.outgoing r)).1,
        ((Interceptor.logging.enter p.context { request := p.outgoing r, clockMs }).1 :
          List Emission),
        .inFlight
          { context := p.context
            frames :=
              [{ interceptor := Interceptor.recording
                 arrival := { request := p.outgoing r, clockMs } },
                { interceptor := Interceptor.logging
                  arrival := { request := p.outgoing r, clockMs } }]
            latency := (withinDeadline p.context.timeoutMs.toNat (t.send (p.outgoing r)).2).1
            delivery :=
              (withinDeadline p.context.timeoutMs.toNat (t.send (p.outgoing r)).2).2 }) := by
  rw [send, hstandard]
  rfl

end Pipeline

namespace Pending

/-- A call begins with sending its request through the standard interceptors. -/
theorem begin_standard {p : Pipeline} (hstandard : p.interceptors = Interceptor.standard)
    (clockMs : Nat) (t : Transport) (q : Request) :
    begin p clockMs t (.success q) =
      ((t.send (p.outgoing q)).1,
        ((Interceptor.logging.enter p.context { request := p.outgoing q, clockMs }).1 :
          List Emission),
        .inFlight
          { context := p.context
            frames :=
              [{ interceptor := Interceptor.recording
                 arrival := { request := p.outgoing q, clockMs } },
                { interceptor := Interceptor.logging
                  arrival := { request := p.outgoing q, clockMs } }]
            latency := (withinDeadline p.context.timeoutMs.toNat (t.send (p.outgoing q)).2).1
            delivery :=
              (withinDeadline p.context.timeoutMs.toNat (t.send (p.outgoing q)).2).2 }) := by
  simp only [begin, p.send_standard hstandard]

/-- The exchange of a pending call, or none if no request was sent. -/
inductive Begun (p : Pipeline) : Attempt Request → List Exchange → Pending → Prop
  | unsent (f : Failure) : Begun p (.failure f) [] (.unsent f)
  | crashed (text : String) : Begun p (.crash text) [] (.crashed text)
  | inFlight (r : Request) (x : Exchange) (hrequest : x.request = p.outgoing r)
      (clockMs latency : Nat) :
      Begun p (.success r) [x]
        (.inFlight
          { context := p.context
            frames :=
              [{ interceptor := Interceptor.recording
                 arrival := { request := x.request, clockMs } },
                { interceptor := Interceptor.logging
                  arrival := { request := x.request, clockMs } }]
            latency
            delivery := x.delivery })

end Pending

/-- A call from its beginning to its end: its exchanges, its records and its result. -/
inductive Undertaken (p : Pipeline) (decode : String → Attempt α) :
    Attempt Request → List Exchange → List CallRecord → Attempt α → Prop
  | unsent (f : Failure) : Undertaken p decode (.failure f) [] [] (.failure f)
  | crashed (text : String) : Undertaken p decode (.crash text) [] [] (.crash text)
  | sent (r : Request) (x : Exchange) (record : CallRecord) (hrequest : x.request = p.outgoing r)
      (hrecord : x.RecordedAs p.context record) :
      Undertaken p decode (.success r) [x] [record] (x.comesTo decode)

/-- A call that was settled.  If an outcome was delivered, its record is that of the outcome. -/
structure Completed (p : Pipeline) (decode : String → Attempt α) (request : Attempt Request)
    (xs : List Exchange) (rs : List CallRecord) (a : Attempt α) : Prop where
  undertaken : Undertaken p decode request xs rs a
  recorded : ∀ x ∈ xs, ∀ o, x.delivery = .outcome o → ∀ record ∈ rs, ∃ startMs endMs,
    record =
      Interceptor.outcomeRecord p.context { request := x.request, clockMs := startMs } endMs o

/-- The request that a call sends is its own. -/
theorem Undertaken.requests {p : Pipeline} {decode : String → Attempt α}
    {request : Attempt Request} {xs : List Exchange} {rs : List CallRecord} {a : Attempt α}
    (hcall : Undertaken p decode request xs rs a) :
    xs.length ≤ 1 ∧ ∀ x ∈ xs, ∃ q, request = .success q ∧ x.request = p.outgoing q := by
  cases hcall with
  | unsent f => exact ⟨Nat.zero_le 1, nofun⟩
  | crashed text => exact ⟨Nat.zero_le 1, nofun⟩
  | sent q x record hrequest hrecord =>
      refine ⟨Nat.le_refl 1, fun y hy => ?_⟩
      rw [List.mem_singleton.mp hy]
      exact ⟨q, rfl, hrequest⟩

/-- A call that succeeded was sent, and its exchange came to its value. -/
theorem Undertaken.of_success {p : Pipeline} {decode : String → Attempt α}
    {request : Attempt Request} {xs : List Exchange} {rs : List CallRecord} {a : α}
    (hcall : Undertaken p decode request xs rs (.success a)) :
    ∃ x q, x ∈ xs ∧ request = .success q ∧ x.request = p.outgoing q ∧
      x.comesTo decode = .success a := by
  generalize hattempt : Attempt.success a = attempt at hcall
  cases hcall with
  | unsent f => exact nomatch hattempt
  | crashed text => exact nomatch hattempt
  | sent q x record hrequest hrecord =>
      exact ⟨x, q, List.mem_singleton_self x, rfl, hrequest, rfl⟩

namespace Pending

theorem address_send (t : Transport) (r : Request) : (t.send r).1.address = t.address := by
  simp only [Transport.send]
  split <;> rfl

/-- Beginning a call sends its request, if there is one, and records nothing. -/
theorem begun_begin {p : Pipeline} (hstandard : p.interceptors = Interceptor.standard)
    (clockMs : Nat) {t : Transport} (haddress : t.address = id) (request : Attempt Request) :
    Begun p request (exchanges t (begin p clockMs t request).1) (begin p clockMs t request).2.2 ∧
      (begin p clockMs t request).1.address = id ∧
      (∃ sent, (begin p clockMs t request).1.log = t.log ++ sent) ∧
      Emission.records (begin p clockMs t request).2.1 = [] := by
  cases request with
  | failure f =>
      refine ⟨?_, haddress, ⟨[], (List.append_nil _).symm⟩, rfl⟩
      change Begun p (.failure f) (exchanges t t) (.unsent f)
      rw [exchanges_self]
      exact .unsent f
  | crash text =>
      refine ⟨?_, haddress, ⟨[], (List.append_nil _).symm⟩, rfl⟩
      change Begun p (.crash text) (exchanges t t) (.crashed text)
      rw [exchanges_self]
      exact .crashed text
  | success r =>
      rw [begin_standard hstandard]
      have hexchanges : exchanges t (t.send (p.outgoing r)).1 =
          [{ request := p.outgoing r, reply := (t.send (p.outgoing r)).2 }] := by
        simp [exchanges, haddress]
      refine ⟨?_, (address_send ..).trans haddress, ⟨_, Transport.log_send ..⟩, rfl⟩
      rw [hexchanges]
      exact .inFlight r { request := p.outgoing r, reply := (t.send (p.outgoing r)).2 } rfl ..

theorem Begun.settle {p : Pipeline} {request : Attempt Request} {xs : List Exchange}
    {call : Pending} (hbegun : Begun p request xs call) (decode : String → Attempt α)
    (clockMs : Nat) :
    Undertaken p decode request xs (Emission.records (call.settle decode clockMs).1)
      (call.settle decode clockMs).2 := by
  cases hbegun with
  | unsent f => exact .unsent f
  | crashed text => exact .crashed text
  | inFlight r x hrequest startMs latency =>
      cases hdelivery : x.delivery with
      | outcome o =>
          have hsent : Undertaken p decode (.success r) [x] _ (x.comesTo decode) :=
            .sent r x _ hrequest (.settled startMs clockMs o hdelivery)
          rw [Exchange.comesTo, hdelivery] at hsent
          exact hsent
      | crash text =>
          have hsent : Undertaken p decode (.success r) [x] _ (x.comesTo decode) :=
            .sent r x _ hrequest (.abandoned startMs clockMs)
          rw [Exchange.comesTo, hdelivery] at hsent
          exact hsent

theorem Begun.complete {p : Pipeline} {request : Attempt Request} {xs : List Exchange}
    {call : Pending} (hbegun : Begun p request xs call) (decode : String → Attempt α)
    (clockMs : Nat) :
    Completed p decode request xs (Emission.records (call.settle decode clockMs).1)
      (call.settle decode clockMs).2 := by
  refine ⟨hbegun.settle decode clockMs, ?_⟩
  cases hbegun with
  | unsent f => exact nofun
  | crashed text => exact nofun
  | inFlight r x hrequest startMs latency =>
      intro y hy o hdelivery record hrecord
      obtain rfl := List.mem_singleton.mp hy
      rw [hdelivery] at hrecord
      exact ⟨startMs, clockMs, List.mem_singleton.mp hrecord⟩

theorem Begun.abandon {p : Pipeline} {request : Attempt Request} {xs : List Exchange}
    {call : Pending} (hbegun : Begun p request xs call) (clockMs : Nat) :
    List.Forall₂ (Exchange.RecordedAs p.context) xs
      (Emission.records (call.abandon clockMs)) := by
  cases hbegun with
  | unsent f => exact .nil
  | crashed text => exact .nil
  | inFlight r x hrequest startMs latency => exact .cons (.abandoned startMs clockMs) .nil

theorem Begun.requests {p : Pipeline} {request : Attempt Request} {xs : List Exchange}
    {call : Pending} (hbegun : Begun p request xs call) :
    ∀ x ∈ xs, ∃ r, request = .success r ∧ x.request = p.outgoing r := by
  cases hbegun with
  | unsent f => exact nofun
  | crashed text => exact nofun
  | inFlight r x hrequest startMs latency =>
      intro y hy
      rw [List.mem_singleton.mp hy]
      exact ⟨r, rfl, hrequest⟩

end Pending

end Call
end SupplierGateway
