import SupplierGateway.Gateway.Basic
import SupplierGateway.Operation.Script
import SupplierGateway.Operation.World
import SupplierGateway.Supplier.Replies
import SupplierGateway.Supplier.Requests

/-!
# The operations of a gateway

Every operation authenticates first and gives up when that fails.

* `locations` asks for the first page and then for all others at once.  Its payload is complete or
  empty.  When there are more pages than the gateway admits no others are asked for.
* `rates` asks for the available vehicles and then for a quote for each of them at once.  Its
  payload has every quote that succeeded.
* `book`, `status` and `cancel` make a single call.
-/

namespace SupplierGateway

open Operation (Envelope Policy Script)
open Rental

/-- The operations of a gateway, with their input. -/
inductive Service where
  | locations
  | rates (r : RateRequest)
  | book (r : BookingRequest)
  | status (reference : String)
  | cancel (reference : String)
deriving DecidableEq

/-- The payloads of the operations. -/
inductive Payload where
  | locations (ls : List Location)
  | rates (rs : List VehicleRate)
  | booking (c : Option BookingConfirmation)
  | cancellation (c : Option Cancellation)
deriving DecidableEq, Repr

/-- A payload in JSON. -/
def Payload.json : Payload → Json.Value
  | locations ls => .array (ls.map Location.json)
  | rates rs => .array (rs.map VehicleRate.json)
  | booking c => (c.map BookingConfirmation.json).getD .null
  | cancellation c => (c.map Cancellation.json).getD .null

namespace Service

/-- The phase of the main call. -/
def phase : Service → Phase
  | locations => .locations
  | rates _ => .rates
  | book _ => .booking
  | status _ => .bookingStatus
  | cancel _ => .cancel

/-- The policy of the operation on its payload when there were failures. -/
def policy : Service → Policy
  | locations => .discardOnError
  | rates _ | book _ | status _ | cancel _ => .keepPartial

/-- The payload that stands for the absence of an answer. -/
def empty : Service → Payload
  | locations => .locations []
  | rates _ => .rates []
  | book _ | status _ => .booking none
  | cancel _ => .cancellation none

/-- Ends an operation with a payload. -/
def close (s : Service) (payload : Payload) : Script (Envelope Payload) :=
  .finish s.policy payload s.empty .done

/-- The failure of a catalogue that has too many pages. -/
def tooManyPages (pages limit : UInt32) : Failure :=
  .supplier
    ("supplier reported " ++ toString pages.toNat ++ " pages, limit is " ++ toString limit.toNat)

/-- The log entry about a catalogue that has too many pages. -/
def tooManyPagesEntry (pages limit : UInt32) : LogEntry where
  level := .warn
  message := "supplier page count exceeds limit; skipping remaining pages"
  fields := [("total_pages", toString pages.toNat), ("max_pages", toString limit.toNat)]

/-- The numbers of the pages after the first. -/
def laterPages (pages : UInt32) : List UInt32 :=
  (List.range (pages.toNat - 1)).map fun i => UInt32.ofNat (i + 2)

/-- The instructions after the first page of the locations. -/
def afterFirstPage (g : Gateway) (first : LocationPage) : Script (Envelope Payload) :=
  if g.maxPages < first.totalPages then
    .report (tooManyPages first.totalPages g.maxPages)
      (some (tooManyPagesEntry first.totalPages g.maxPages)) (close locations (.locations []))
  else if first.totalPages ≤ 1 then close locations (.locations first.locations)
  else
    .fanOut .locations
      ((laterPages first.totalPages).map fun page => .success (Supplier.locations g.endpoint page))
      (fun body => .ofExcept (Supplier.readLocations body))
      fun pages => close locations (.locations (first.locations ++ pages.flatMap (·.locations)))

/-- The instructions after the list of available vehicles. -/
def afterAvailability (g : Gateway) (r : RateRequest) (candidates : List VehicleCandidate) :
    Script (Envelope Payload) :=
  if candidates.isEmpty then close (rates r) (.rates [])
  else
    .fanOut .quote (candidates.map fun c => .success (Supplier.quote g.endpoint r c))
      (fun body => .ofExcept (Supplier.readQuote body))
      fun quotes => close (rates r) (.rates quotes)

/-- The instructions after authentication, which begin with the main call. -/
def mainCall (g : Gateway) (s : Service) : Script (Envelope Payload) :=
  match s with
  | locations =>
      .call .locations (.success (Supplier.locations g.endpoint 1))
        (fun body => .ofExcept (Supplier.readLocations body))
        fun
          | some first => afterFirstPage g first
          | none => s.close s.empty
  | rates r =>
      .call .rates (.success (Supplier.availability g.endpoint r))
        (fun body => .ofExcept (Supplier.readAvailability body))
        fun candidates => afterAvailability g r (candidates.getD [])
  | book r =>
      .call .booking (.success (Supplier.booking g.endpoint r))
        (fun body => .ofExcept (Supplier.readBooking body)) fun c => s.close (.booking c)
  | status reference =>
      .call .bookingStatus (.ofExcept (Supplier.bookingStatus g.endpoint reference))
        (fun body => .ofExcept (Supplier.readBooking body)) fun c => s.close (.booking c)
  | cancel reference =>
      .call .cancel (.ofExcept (Supplier.cancel g.endpoint reference))
        (fun body => .ofExcept (Supplier.readCancellation body)) fun c => s.close (.cancellation c)

/-- The script of an operation. -/
def script (g : Gateway) (s : Service) : Script (Envelope Payload) :=
  .authenticate fun
    | .ok () => s.mainCall g
    | .error _ => s.close s.empty

/-- The task of an operation, which uses a cache of the given number. -/
def task (g : Gateway) (cache : Nat) (s : Service) :
    Operation.Task (Envelope Payload) :=
  .start (g.context s.phase) g.fanOut cache (s.script g)

/-- Carries out operations at once until all have ended.  Each is asked of a gateway, which uses the
cache of the given number. -/
def perform (r : Operation.Resources) (orders : List (Gateway × Nat × Service)) :
    Operation.Resources × List (Option (Except String (Envelope Payload))) :=
  let start : Operation.World (Envelope Payload) := { resources := r }
  let world := orders.foldl (fun w (g, cache, s) => w.add (s.task g cache)) start
  let settled := world.settled
  (settled.resources, settled.tasks.map Operation.Task.result?)

end Service

end SupplierGateway
