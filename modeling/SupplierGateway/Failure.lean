import SupplierGateway.Json.Decoder
import SupplierGateway.Text.Quoted

/-!
# Failures of a call and log entries

A failure is the kind and message that the caller of an operation receives for a call that did not
succeed.  Timeouts and connection failures are fatal: a fan-out with fail-fast cancels its other
units when it receives one.  A supplier failure is not fatal.

A log entry has a level, a message and named fields.
-/

namespace SupplierGateway

/-- The kinds of failure. -/
inductive Failure.Kind where
  | timeout | connection | supplier
deriving DecidableEq, Repr

/-- A failure of a call. -/
structure Failure where
  kind : Failure.Kind
  message : String
deriving DecidableEq, Repr

namespace Failure

/-- The code of a kind. -/
def Kind.code : Kind → String
  | .timeout => "TimeoutError"
  | .connection => "ConnectionError"
  | .supplier => "SupplierError"

/-- The name of a kind in diagnostics. -/
def Kind.label : Kind → String
  | .timeout => "Timeout"
  | .connection => "Connection"
  | .supplier => "Supplier"

/-- All kinds by their codes. -/
def Kind.coded : List (String × Kind) :=
  [Kind.timeout, .connection, .supplier].map fun kind => (kind.code, kind)

/-- A failure of this kind makes a fan-out with fail-fast give up its other units. -/
def Kind.fatal : Kind → Bool
  | .timeout | .connection => true
  | .supplier => false

/-- The kind of the failure is fatal. -/
def fatal (f : Failure) : Bool := f.kind.fatal

/-- The failure of a call that exceeded its time limit. -/
def timeout (message : String) : Failure := { kind := .timeout, message }

/-- The failure of a call for which no response arrived. -/
def connection (message : String) : Failure := { kind := .connection, message }

/-- The failure of a call whose response reports an error or cannot be used. -/
def supplier (message : String) : Failure := { kind := .supplier, message }

/-- The failure of a call whose response has a status outside the two hundreds. -/
def ofStatus (status : UInt16) : Failure :=
  supplier ("supplier returned status code " ++ toString status.toNat)

/-- The failure of a call whose response has a body that cannot be decoded. -/
def malformedBody (detail : String) : Failure :=
  supplier ("unable to decode supplier response: " ++ detail)

/-- The failure in one line: code and message. -/
def line (f : Failure) : String := f.kind.code ++ ": " ++ f.message

/-- The failure as it stands in diagnostics. -/
def debug (f : Failure) : String :=
  "ClassifiedError \x7b code: " ++ f.kind.label ++ ", message: " ++ Text.quoted f.message ++ " \x7d"

/-- Several failures as they stand in diagnostics. -/
def debugList (fs : List Failure) : String :=
  "[" ++ String.intercalate ", " (fs.map debug) ++ "]"

/-- A kind in JSON. -/
def Kind.json (k : Kind) : Json.Value := .string k.code

/-- A failure in JSON. -/
def json (f : Failure) : Json.Value :=
  .object [("code", f.kind.json), ("message", .string f.message)]

/-- Reads a kind from JSON. -/
def Kind.decoder : Json.Decoder Kind := Json.Decoder.variant Kind.coded none

/-- Reads a failure from JSON. -/
def decoder : Json.Decoder Failure :=
  Json.Fields.record
    (Failure.mk <$> .required "code" Kind.decoder <*> .required "message" Json.Decoder.string)
    "ClassifiedError"

end Failure

/-! ## Log entries -/

/-- The levels of log entries, from least to most severe. -/
inductive LogEntry.Level where
  | debug | info | warn | error
deriving DecidableEq, Repr

/-- A line of the log: its level, its message, and named fields in the order in which they are
written. -/
structure LogEntry where
  level : LogEntry.Level
  message : String
  fields : List (String × String) := []
deriving DecidableEq, Repr

/-- The word for a level. -/
def LogEntry.Level.word : LogEntry.Level → String
  | .debug => "DEBUG"
  | .info => "INFO"
  | .warn => "WARN"
  | .error => "ERROR"

end SupplierGateway
