import SupplierGateway.Calendar.Instant
import SupplierGateway.Http.Message
import SupplierGateway.Phase
import SupplierGateway.Rental.Search

/-!
# Call records

A call record has the phase of a call, its request, the time at which it was sent, and its outcome:
a response or the text of an error.  Values of sensitive headers are never recorded.  The body of a
request in the authentication phase is not recorded either, only that there was one.
-/

namespace SupplierGateway
namespace Audit

open Http (Method Headers Request Response)
open Calendar (Instant)

/-- The text that is recorded in place of a concealed value. -/
def redacted : String := "<redacted>"

/-- A header whose value is not recorded, in any case of its letters. -/
def isSensitive (name : String) : Bool :=
  let lower := Text.lower name
  ["authorization", "cookie", "set-cookie"].contains lower ||
    ["key", "secret", "token"].any fun word => Text.occursIn word lower

/-- The headers as they are recorded. -/
def redactHeaders (h : Headers) : Headers :=
  h.mapValues fun name value => if isSensitive name then redacted else value

/-- A request as it is recorded. -/
structure RecordedRequest where
  method : Method
  url : String
  headers : Headers
  body : Option String
  startedAt : Instant
deriving DecidableEq, Repr

/-- A response as it is recorded. -/
structure RecordedResponse where
  status : UInt16
  headers : Headers
  body : String
deriving DecidableEq, Repr

/-- The record of a call. -/
structure CallRecord where
  phase : Phase
  request : RecordedRequest
  response : Option RecordedResponse
  durationMs : UInt64
  error : Option String
deriving DecidableEq, Repr

/-- Records a request. -/
def RecordedRequest.of (phase : Phase) (r : Request) (startedAt : Instant) : RecordedRequest where
  method := r.method
  url := r.url
  headers := redactHeaders r.headers
  body := if phase = .auth then r.body.map fun _ => redacted else r.body
  startedAt := startedAt

/-- Records a response. -/
def RecordedResponse.of (r : Response) : RecordedResponse where
  status := r.status
  headers := redactHeaders r.headers
  body := r.body

/-- A recorded request in JSON. -/
def RecordedRequest.json (r : RecordedRequest) : Json.Value :=
  .object
    ([("method", .string r.method.word), ("url", .string r.url), ("headers", r.headers.json)] ++
      Json.member? "body" (r.body.map .string) ++ [("startedAt", r.startedAt.json)])

/-- A recorded response in JSON. -/
def RecordedResponse.json (r : RecordedResponse) : Json.Value :=
  .object
    [("statusCode", .word r.status.toUInt64), ("headers", r.headers.json),
      ("body", .string r.body)]

/-- A record in JSON. -/
def CallRecord.json (c : CallRecord) : Json.Value :=
  .object
    ([("operation", c.phase.json), ("request", c.request.json)] ++
      Json.member? "response" (c.response.map RecordedResponse.json) ++
      [("durationMs", .word c.durationMs)] ++
      Json.member? "error" (c.error.map .string))

end Audit
end SupplierGateway
