import SupplierGateway.Attempt
import SupplierGateway.Call.Interceptor
import SupplierGateway.Http.Classify
import SupplierGateway.Http.Transport

/-!
# Calls through a pipeline

A pipeline sends requests through a list of interceptors to a transport, outermost interceptor
first, and takes outcomes back in reverse order.  The transport has as long as the pipeline allows;
a reply that takes longer is replaced by a timeout at that moment.

Between being sent and being settled a call is in flight.  It ends in one of two ways: it is settled
with what the transport delivered, or it is abandoned.  A call whose transport crashes is abandoned
by all interceptors, and the crash goes on to the caller.
-/

namespace SupplierGateway
namespace Call

open Http (Request Response Outcome Reply Delivery Transport)

/-- An interceptor that has let a request pass and waits for its outcome. -/
structure Frame where
  interceptor : Interceptor
  arrival : Arrival

/-- The state of a request that has been through interceptors. -/
structure Entered where
  emissions : List Emission
  /-- The interceptors that wait, innermost first. -/
  frames : List Frame
  passage : Passage

/-- Sends a request through interceptors, given the frames outside of them. -/
def enterAll (ctx : Context) (clockMs : Nat) :
    List Interceptor → List Frame → Request → Entered
  | [], frames, r => { emissions := [], frames, passage := .forward r }
  | i :: rest, frames, r =>
      let arrival : Arrival := { request := r, clockMs }
      match i.enter ctx arrival with
      | (emissions, .answer o) => { emissions, frames, passage := .answer o }
      | (emissions, .forward next) =>
          let inner := enterAll ctx clockMs rest ({ interceptor := i, arrival } :: frames) next
          { inner with emissions := emissions ++ inner.emissions }

/-- Takes an outcome back through the frames. -/
def leaveAll (ctx : Context) (clockMs : Nat) : List Frame → Outcome → List Emission × Outcome
  | [], o => ([], o)
  | f :: rest, o =>
      let (emissions, changed) := f.interceptor.leave ctx f.arrival clockMs o
      let (others, last) := leaveAll ctx clockMs rest changed
      (emissions ++ others, last)

/-- Abandons the call at every frame. -/
def abandonAll (ctx : Context) (clockMs : Nat) (frames : List Frame) : List Emission :=
  frames.flatMap fun f => f.interceptor.abandon ctx f.arrival clockMs

/-- A call between being sent and being settled. -/
structure InFlight where
  context : Context
  frames : List Frame
  /-- The time for which the call is in flight unless it is abandoned, in milliseconds. -/
  latency : Nat
  delivery : Delivery

namespace InFlight

/-- Settles a call with what the transport delivered. -/
def settle (c : InFlight) (clockMs : Nat) : List Emission × Delivery :=
  match c.delivery with
  | .outcome o =>
      let (emissions, last) := leaveAll c.context clockMs c.frames o
      (emissions, .outcome last)
  | .crash text => (abandonAll c.context clockMs c.frames, .crash text)

/-- Abandons a call. -/
def abandon (c : InFlight) (clockMs : Nat) : List Emission :=
  abandonAll c.context clockMs c.frames

end InFlight

/-- A pipeline. -/
structure Pipeline where
  context : Context
  interceptors : List Interceptor := Interceptor.standard

/-- The result of sending a request. -/
inductive Sent where
  /-- An interceptor answered. -/
  | settled (o : Outcome)
  | inFlight (c : InFlight)

/-- The timeout that takes the place of a late reply. -/
def deadlineError (timeoutMs : Nat) : Http.TransportError :=
  { kind := .timeout, message := "deadline exceeded after " ++ toString timeoutMs ++ " ms" }

/-- The latency and the delivery of a reply under a deadline. -/
def withinDeadline (timeoutMs : Nat) (reply : Reply) : Nat × Delivery :=
  if reply.latency ≤ timeoutMs then (reply.latency, reply.delivery)
  else (timeoutMs, .outcome (.error (deadlineError timeoutMs)))

namespace Pipeline

/-- Sends a request. -/
def send (p : Pipeline) (clockMs : Nat) (t : Transport) (r : Request) :
    Transport × List Emission × Sent :=
  let entered :=
    enterAll p.context clockMs p.interceptors [] { r with timeoutMs := p.context.timeoutMs }
  match entered.passage with
  | .answer o =>
      let (emissions, last) := leaveAll p.context clockMs entered.frames o
      (t, entered.emissions ++ emissions, .settled last)
  | .forward request =>
      let (next, reply) := t.send request
      let (latency, delivery) := withinDeadline p.context.timeoutMs.toNat reply
      (next, entered.emissions,
        .inFlight { context := p.context, frames := entered.frames, latency, delivery })

/-- Sends a request and waits for its delivery, but abandons the call when it takes longer than
`patience`. -/
def await (p : Pipeline) (clockMs : Nat) (patience : Option Nat) (t : Transport) (r : Request) :
    Transport × List Emission × Option Delivery :=
  match p.send clockMs t r with
  | (next, emissions, .settled o) => (next, emissions, some (.outcome o))
  | (next, emissions, .inFlight c) =>
      if patience.all fun ms => c.latency ≤ ms then
        let (others, delivery) := c.settle (clockMs + c.latency)
        (next, emissions ++ others, some delivery)
      else (next, emissions ++ c.abandon (clockMs + patience.getD 0), none)

end Pipeline

/-- The response of a settled call, or the failure or crash as which its delivery is classified. -/
def response (d : Delivery) : Attempt Response :=
  match d with
  | .outcome o => .ofExcept (Http.classify o)
  | .crash text => .crash text

/-- The result of a settled call whose body is decoded. -/
def decoded {α : Type} (decode : String → Attempt α) (d : Delivery) : Attempt α :=
  (response d).bind fun r => decode r.body

end Call
end SupplierGateway
