import SupplierGateway.CommandLine.Words

/-!
# Arguments

The arguments name a command, which has options and operands of its own.  Some options may be given
before the command or after it; when such an option is given in both places the later one counts.
-/

namespace SupplierGateway
namespace CommandLine

/-- The commands of the program. -/
inductive Command where
  | locations
  | rates (pickup : String) (dropoff : Option String) (pickupAt dropoffAt : String)
      (driverAge : Option UInt8)
  | book (rateReference firstName lastName email : String)
  | status (reference : String)
  | cancel (reference : String)
deriving DecidableEq, Repr

/-- The settings and the command that the arguments give. -/
structure Arguments where
  configPath : Option String
  pretty : Bool
  timeoutMs : Option UInt64
  logFilter : String
  command : Command
deriving DecidableEq, Repr

namespace Arguments

/-- The options that may be given everywhere. -/
def everywhere : List (String × Option Shape) :=
  [("config", some .path), ("pretty", none), ("timeout-ms", some .milliseconds),
    ("log-level", some .text)]

/-- The words of each command. -/
def commands : List (String × Grammar) :=
  [("locations", { options := everywhere }),
    ("rates",
      { options :=
          everywhere ++
            [("pickup", some .text), ("dropoff", some .text), ("pickup-at", some .text),
              ("dropoff-at", some .text), ("driver-age", some .age)] }),
    ("book",
      { options :=
          everywhere ++
            [("rate-reference", some .text), ("first-name", some .text), ("last-name", some .text),
              ("email", some .text)] }),
    ("status", { options := everywhere, operands := 1 }),
    ("cancel", { options := everywhere, operands := 1 })]

/-- The names of commands, with that of the command for help. -/
def commandNames : List String := commands.map (·.1) ++ ["help"]

/-- The words before the command. -/
def opening : Grammar := { options := everywhere, commands := commandNames, version := true }

end Arguments

/-- The reference, which is required. -/
def Found.reference (f : Found) : Except Halt String :=
  match f.operands.head? with
  | some text => .ok text
  | none => .error .usage

/-- The command of a name, with the options and operands that were found. -/
def Command.ofFound (f : Found) : String → Except Halt Command
  | "locations" => .ok .locations
  | "rates" => do
      let pickup ← f.require "pickup"
      let pickupAt ← f.require "pickup-at"
      let dropoffAt ← f.require "dropoff-at"
      .ok (.rates pickup (f.value? "dropoff") pickupAt dropoffAt
        ((f.value? "driver-age").bind readAge))
  | "book" => do
      .ok (.book (← f.require "rate-reference") (← f.require "first-name")
        (← f.require "last-name") (← f.require "email"))
  | "status" => f.reference.map .status
  | "cancel" => f.reference.map .cancel
  | _ => .error .usage

namespace Arguments

/-- The answer to `help`, which may be followed by the name of one command. -/
def explain : List String → Halt
  | [] => .help
  | [name] => if commandNames.contains name then .help else .usage
  | _ => .usage

/-- Reads the words of a command, given what was read before it. -/
def afterCommand (before : Scan) (name : String) (g : Grammar) (words : List String) :
    Except Halt Arguments := do
  let (scan, _) ← Scan.words g {} words
  let own := (← scan.settle g).found
  let command ← Command.ofFound own name
  let first := (← before.settle opening).found
  let value? (option : String) : Option String := (own.value? option).or (first.value? option)
  .ok
    { configPath := value? "config"
      pretty := (value? "pretty").isSome
      timeoutMs := (value? "timeout-ms").bind readMilliseconds
      logFilter := (value? "log-level").getD "warn"
      command }

/-- Reads arguments. -/
def parse (words : List String) : Except Halt Arguments :=
  match Scan.words opening {} words with
  | .error h => .error h
  | .ok (_, none) => .error .usage
  | .ok (_, some ("help", rest)) => .error (explain rest)
  | .ok (before, some (name, rest)) =>
      match commands.lookup name with
      | some g => afterCommand before name g rest
      | none => .error .usage

end Arguments
end CommandLine
end SupplierGateway
