import SupplierGateway.InputError
import SupplierGateway.Json.Decoder
import SupplierGateway.Text.Ascii
import SupplierGateway.Text.Blank

/-!
# Phases of an operation

Every call to a supplier belongs to a phase.  The phase decides how long the call may take and
stands in its record.
-/

namespace SupplierGateway

/-- The purposes of calls. -/
inductive Phase where
  | auth | locations | rates | booking | bookingStatus | cancel | extras | quote
deriving DecidableEq, Repr

namespace Phase

/-- All phases, in order. -/
def all : List Phase :=
  [auth, locations, rates, booking, bookingStatus, cancel, extras, quote]

/-- The name of a phase. -/
def name : Phase → String
  | auth => "Auth"
  | locations => "Locations"
  | rates => "Rates"
  | booking => "Booking"
  | bookingStatus => "BookingStatus"
  | cancel => "Cancel"
  | extras => "Extras"
  | quote => "Quote"

/-- The phase of a name, without regard to surrounding blanks and the case of ASCII letters. -/
def parse (text : String) : Except InputError Phase :=
  match all.find? fun phase => Text.sameIgnoringCase phase.name (Text.trim text) with
  | some phase => .ok phase
  | none => .error (.phase text)

/-- Phases by their exact names. -/
def named : List (String × Phase) :=
  all.map fun phase => (phase.name, phase)

/-- A phase in JSON. -/
def json (phase : Phase) : Json.Value := .string phase.name

/-- Reads a phase from JSON. -/
def decoder : Json.Decoder Phase := Json.Decoder.variant named none

/-- Every phase is listed. -/
@[simp] theorem mem_all (phase : Phase) : phase ∈ all := by
  cases phase <;> decide

/-- Different phases have different names. -/
theorem name_injective {p q : Phase} (hname : p.name = q.name) : p = q := by
  revert hname
  cases p <;> cases q <;> decide

end Phase

end SupplierGateway
