import SupplierGateway.CommandLine.Arguments
import SupplierGateway.Gateway.Service

/-!
# The program

The program loads a configuration, carries out one operation and prints its envelope.  Its exit
status is 0 for an answer without failures, 3 for one with failures and 2 for refused input.
-/

namespace SupplierGateway
namespace CommandLine

open Calendar (Instant)
open Operation (Envelope)
open Rental

/-- The reasons for which the program answers with no envelope. -/
inductive Refusal where
  | input (e : InputError)
  | configuration (e : ConfigError)
deriving DecidableEq

/-- The text of a refusal. -/
def Refusal.message : Refusal → String
  | input e => e.message
  | configuration e => "configuration error: " ++ e.message

/-- The ways in which the program ends. -/
inductive Ending where
  | halted (h : Halt)
  | refused (r : Refusal)
  | answered (pretty : Bool) (e : Envelope Payload)
  | crashed (text : String)
deriving DecidableEq

/-- The status with which the program exits. -/
def Ending.status : Ending → UInt32
  | halted .help | halted .version => 0
  | halted .usage | refused _ => 2
  | answered _ e => if e.hasErrors then 3 else 0
  | crashed _ => 101

/-- The text of an envelope, with the members of its payload by name. -/
def envelopeText (pretty : Bool) (e : Envelope Payload) : String :=
  let v := e.json fun payload => payload.json.sorted
  if pretty then v.spread else v.compact

/-- The configuration from the file that the arguments name, or from the environment. -/
def Arguments.config (a : Arguments) (env : Config.Environment)
    (file : String → FileContents) : Except Refusal Config := do
  let config ←
    (match a.configPath with
      | some path => Config.ofFile (file path)
      | none => Config.ofEnvironment env).mapError .configuration
  match a.timeoutMs with
  | none => .ok config
  | some ms =>
      let changed := config.withDefaultTimeout ms.toNat
      match changed.validate with
      | .ok () => .ok changed
      | .error e => .error (.input e)

/-- The search that arguments describe.  The drop-off location is the pick-up location if none is
given. -/
def rateRequest (pickup : String) (dropoff : Option String) (pickupAt dropoffAt : String)
    (driverAge : Option UInt8) : Except InputError RateRequest := do
  let start ← Instant.ofInput pickupAt
  let finish ← Instant.ofInput dropoffAt
  let r ← RateRequest.make pickup (dropoff.getD pickup) start finish
  .ok
    (match driverAge with
      | some age => r.withDriverAge age
      | none => r)

/-- The operation of a command. -/
def Command.service : Command → Except InputError Service
  | locations => .ok .locations
  | rates pickup dropoff pickupAt dropoffAt driverAge =>
      (rateRequest pickup dropoff pickupAt dropoffAt driverAge).map .rates
  | book rateReference firstName lastName email =>
      (BookingRequest.make rateReference firstName lastName email).map .book
  | status reference => .ok (.status reference)
  | cancel reference => .ok (.cancel reference)

/-- Carries out an operation of a gateway. -/
def answer (r : Operation.Resources) (pretty : Bool) (g : Gateway) (s : Service) : Ending :=
  let cache : Cache := { singleFlight := g.singleFlight }
  match (Service.perform { r with cache := fun _ => cache } [(g, 0, s)]).2 with
  | [some (.ok e)] => .answered pretty e
  | [some (.error text)] => .crashed text
  | _ => .crashed "the operation did not come to its end"

/-- The ending of the program for given arguments, environment and files. -/
def run (r : Operation.Resources) (env : Config.Environment) (file : String → FileContents)
    (words : List String) : Ending :=
  match Arguments.parse words with
  | .error h => .halted h
  | .ok a =>
      match a.config env file with
      | .error refusal => .refused refusal
      | .ok config =>
          match Gateway.ofConfig config with
          | .error e => .refused (.configuration (.input e))
          | .ok g =>
              match a.command.service with
              | .error .beyondCalendar => .crashed (InputError.message .beyondCalendar)
              | .error e => .refused (.input e)
              | .ok s => answer r a.pretty g s

end CommandLine
end SupplierGateway
