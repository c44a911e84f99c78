import SupplierGateway.Attempt
import SupplierGateway.Http.Headers
import SupplierGateway.Text.Quoted

/-!
# Requests, responses and transport errors

A request carries the time it may take.  A response counts as a success when its status is in the
two hundreds.  A transport error says that no response arrived at all.
-/

namespace SupplierGateway
namespace Http

/-- The methods in use. -/
inductive Method where
  | get | post | put | delete
deriving DecidableEq, Repr

/-- The word for a method. -/
def Method.word : Method → String
  | .get => "GET"
  | .post => "POST"
  | .put => "PUT"
  | .delete => "DELETE"

/-- A request. -/
structure Request where
  method : Method
  url : String
  headers : Headers := Headers.empty
  body : Option String := none
  timeoutMs : UInt64 := 30000
deriving DecidableEq, Repr

/-- A response. -/
structure Response where
  status : UInt16
  headers : Headers := Headers.empty
  body : String := ""
deriving DecidableEq, Repr

/-- The ways in which a transport fails. -/
inductive TransportError.Kind where
  | timeout | connect | closed | other
deriving DecidableEq, Repr

/-- The error of a request for which no response arrived. -/
structure TransportError where
  kind : TransportError.Kind
  message : String
deriving DecidableEq, Repr

/-- The outcome of a request: a response, or the error of a transport. -/
abbrev Outcome := Except TransportError Response

namespace Request

/-- Sets a header by its lower-case name. -/
def withHeader (r : Request) (name value : String) : Request :=
  { r with headers := r.headers.set name value }

/-- Sets the body. -/
def withBody (r : Request) (body : String) : Request :=
  { r with body := some body }

/-- Sets the body to a compact JSON text. -/
def withJson (r : Request) (v : Json.Value) : Request :=
  (r.withHeader "content-type" "application/json").withBody v.compact

end Request

namespace Response

/-- Sets a header by its lower-case name. -/
def withHeader (r : Response) (name value : String) : Response :=
  { r with headers := r.headers.set name value }

/-- A response with a JSON body. -/
def ofJson (status : UInt16) (body : String) : Response :=
  { status, body : Response }.withHeader "content-type" "application/json"

/-- The status is in the two hundreds. -/
def isSuccess (r : Response) : Bool :=
  200 ≤ r.status && r.status < 300

end Response

/-! ## Authorization -/

/-- The header that authenticates a request to the supplier, if there is one. -/
inductive Authorization where
  | none
  | bearer (token : String)
  | header (name value : String)
deriving DecidableEq, Repr

namespace Authorization

/-- The headers with the authorization. -/
def apply (a : Authorization) (h : Headers) : Headers :=
  match a with
  | none => h
  | bearer token => h.insert "authorization" ("Bearer " ++ token)
  | header name value => h.set name value

/-- An authorization as it stands in diagnostics. -/
def debug : Authorization → String
  | none => "None"
  | bearer token => "BearerToken(" ++ Text.quoted token ++ ")"
  | header name value =>
      "Header \x7b name: " ++ Text.quoted name ++ ", value: " ++ Text.quoted value ++ " \x7d"

end Authorization

/-- Adds an authorization to a request. -/
def Request.withAuthorization (r : Request) (a : Authorization) : Request :=
  { r with headers := a.apply r.headers }

end Http
end SupplierGateway
