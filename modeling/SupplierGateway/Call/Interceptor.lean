import SupplierGateway.Audit.Record

/-!
# Interceptors

An interceptor stands between the caller and the transport.  It receives a request and may change it
or answer it at once, and it receives the outcome and may change it.  A call that is given up in
between is reported to the interceptor as abandoned.

Interceptors have no state.  They emit log entries, call records and notes, which the runner of the
call puts where they belong.
-/

namespace SupplierGateway
namespace Call

open Audit (CallRecord RecordedRequest RecordedResponse)
open Http (Request Outcome)

/-- The phase to which a call belongs, and its time limit. -/
structure Context where
  phase : Phase
  timeoutMs : UInt64
deriving DecidableEq, Repr

/-- The emissions of interceptors. -/
inductive Emission where
  | log (entry : LogEntry)
  | record (r : CallRecord)
  | note (text : String)
deriving DecidableEq, Repr

namespace Emission

/-- The log entries among emissions. -/
def logs (es : List Emission) : List LogEntry :=
  es.filterMap fun | log entry => some entry | _ => none

/-- The call records among emissions. -/
def records (es : List Emission) : List CallRecord :=
  es.filterMap fun | record r => some r | _ => none

/-- The notes among emissions. -/
def notes (es : List Emission) : List String :=
  es.filterMap fun | note text => some text | _ => none

end Emission

/-- The decisions of an interceptor on a request: to forward one, or to answer at once. -/
inductive Passage where
  | forward (r : Request)
  | answer (o : Outcome)
deriving DecidableEq

/-- A request as an interceptor received it, and the time on the clock then, in milliseconds. -/
structure Arrival where
  request : Request
  clockMs : Nat
deriving DecidableEq

/-- A stage between the caller and the transport. -/
structure Interceptor where
  enter : Context → Arrival → List Emission × Passage
  leave : Context → Arrival → (clockMs : Nat) → Outcome → List Emission × Outcome
  abandon : Context → Arrival → (clockMs : Nat) → List Emission

namespace Interceptor

/-! ## Logging -/

/-- The fields of all log entries about a call. -/
def callFields (ctx : Context) (r : Request) : List (String × String) :=
  [("operation", ctx.phase.name), ("method", r.method.word), ("url", r.url)]

/-- The log entry about an outcome. -/
def outcomeEntry (ctx : Context) (r : Request) : Outcome → LogEntry
  | .ok response =>
      let fields := callFields ctx r ++ [("status", toString response.status.toNat)]
      if response.isSuccess then
        { level := .debug, message := "supplier call completed", fields }
      else
        { level := .warn, message := "supplier call returned non-success status", fields }
  | .error _ => { level := .warn, message := "supplier call failed", fields := callFields ctx r }

/-- Logs the start and the outcome of every call. -/
def logging : Interceptor where
  enter ctx arrival :=
    ([.log
        { level := .debug, message := "supplier call started"
          fields := callFields ctx arrival.request }],
      .forward arrival.request)
  leave ctx arrival _ o := ([.log (outcomeEntry ctx arrival.request o)], o)
  abandon _ _ _ := []

/-! ## Recording -/

/-- The instant at which a clock shows a number of milliseconds. -/
def clockInstant (ms : Nat) : Calendar.Instant := { nanos := 1000000 * (ms : Int) }

/-- The record of a call. -/
def callRecord (ctx : Context) (arrival : Arrival) (clockMs : Nat)
    (response : Option RecordedResponse) (error : Option String) : CallRecord where
  phase := ctx.phase
  request := RecordedRequest.of ctx.phase arrival.request (clockInstant arrival.clockMs)
  response := response
  durationMs := UInt64.ofNat (min (clockMs - arrival.clockMs) (UInt64.size - 1))
  error := error

/-- The record of a call that came to an outcome. -/
def outcomeRecord (ctx : Context) (arrival : Arrival) (clockMs : Nat) : Outcome → CallRecord
  | .ok response => callRecord ctx arrival clockMs (some (RecordedResponse.of response)) none
  | .error e => callRecord ctx arrival clockMs none (some e.message)

/-- The record of a call that was abandoned. -/
def abandonedRecord (ctx : Context) (arrival : Arrival) (clockMs : Nat) : CallRecord :=
  callRecord ctx arrival clockMs none (some "call abandoned before completion")

/-- Records every call exactly once, when it is settled or when it is abandoned. -/
def recording : Interceptor where
  enter _ arrival := ([], .forward arrival.request)
  leave ctx arrival clockMs o := ([.record (outcomeRecord ctx arrival clockMs o)], o)
  abandon ctx arrival clockMs := [.record (abandonedRecord ctx arrival clockMs)]

/-- The interceptors of every call that an operation makes. -/
def standard : List Interceptor := [logging, recording]

end Interceptor
end Call
end SupplierGateway
