/-!
# Refused input

Every value that comes from outside is checked where it enters.  Each cause of refusal has one
text, which quotes the refused value as it was given.
-/

namespace SupplierGateway

/-- The reasons for which a value from outside is refused. -/
inductive InputError where
  | timestamp (text : String)
  /-- The year in universal time is past 9999.  Reading crashes instead of reporting a refusal. -/
  | beyondCalendar
  | emptyBaseUrl
  | baseUrl (text : String)
  | zeroTimeout
  | zeroPhaseTimeout (phase : String)
  | zeroWorkers
  | zeroPageLimit
  | phase (text : String)
  | emptyField (name : String)
  | rentalPeriod
deriving DecidableEq, Repr

/-- The text of a refusal.  It does not include the reason for which a timestamp cannot be read. -/
def InputError.message : InputError → String
  | .timestamp text => "invalid RFC3339 timestamp '" ++ text ++ "': <reason>"
  | .beyondCalendar => "local datetime out of valid range"
  | .emptyBaseUrl => "supplier base url cannot be empty"
  | .baseUrl text => "supplier base url must start with http:// or https://: '" ++ text ++ "'"
  | .zeroTimeout => "default timeout must be greater than zero"
  | .zeroPhaseTimeout name =>
      "timeout override for phase '" ++ name ++ "' must be greater than zero"
  | .zeroWorkers => "fan-out worker count must be greater than zero"
  | .zeroPageLimit => "page limit must be greater than zero"
  | .phase text => "invalid operation tag '" ++ text ++ "'"
  | .emptyField name => "field '" ++ name ++ "' cannot be empty"
  | .rentalPeriod => "drop-off time must be after pick-up time"

end SupplierGateway
