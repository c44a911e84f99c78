import SupplierGateway.Credential
import SupplierGateway.Endpoint
import SupplierGateway.FanOut.Pool
import SupplierGateway.Timeouts

/-!
# Configuration of a gateway

A configuration is a plain record of settings.  It can be written and read in any state; whether a
gateway can be made from it is decided by `Config.validate`, which looks at the endpoint, the
timeouts, the limits and the credentials in this order and reports the first fault.
-/

namespace SupplierGateway

/-- The settings of a gateway. -/
structure Config where
  baseUrl : String := ""
  credential : Credential := .none
  timeouts : Timeouts := {}
  singleFlight : Bool := false
  maxWorkers : Option UInt64 := none
  failFast : Bool := false
  maxPages : UInt32 := 1000
deriving DecidableEq

namespace Config

/-- A number of milliseconds, cut off at the largest that can be kept. -/
def clampMs (ms : Nat) : UInt64 :=
  UInt64.ofNat (min ms (UInt64.size - 1))

/-- Sets the default timeout. -/
def withDefaultTimeout (c : Config) (ms : Nat) : Config :=
  { c with timeouts := { c.timeouts with default := clampMs ms } }

/-- Sets the timeout of a phase. -/
def withPhaseTimeout (c : Config) (phase : Phase) (ms : Nat) : Config :=
  { c with timeouts := c.timeouts.withPhase phase (clampMs ms) }

/-- The endpoint that the base url names. -/
def endpoint (c : Config) : Except InputError Endpoint :=
  Endpoint.parse c.baseUrl

/-- The options of the fan-outs of the gateway. -/
def fanOut (c : Config) : FanOut.Options :=
  { scheduling :=
      match c.maxWorkers with
      | none => .unbounded
      | some workers => .bounded workers.toNat
    failFast := c.failFast }

/-- A text that must not be blank. -/
def requireText (name text : String) : Except InputError Unit :=
  if Text.blank text then .error (.emptyField name) else .ok ()

/-- The parts of credentials must not be blank. -/
def validateCredential : Credential → Except InputError Unit
  | .none => .ok ()
  | .apiKey header value => do
      requireText "auth.header" header
      requireText "auth.value" value
  | .client id secret => do
      requireText "auth.client_id" id
      requireText "auth.client_secret" secret

/-- Fails with the first fault for which no gateway can be made from a configuration. -/
def validate (c : Config) : Except InputError Unit := do
  let _ ← c.endpoint
  c.timeouts.validate
  if c.maxWorkers = some 0 then .error .zeroWorkers
  else if c.maxPages = 0 then .error .zeroPageLimit
  else validateCredential c.credential

end Config
end SupplierGateway
