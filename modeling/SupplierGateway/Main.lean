import Std.Time.DateTime.Timestamp
import SupplierGateway.CommandLine.Program
import SupplierGateway.Http.Offline

/-!
# Command line

The outermost layer reads arguments, environment, configuration file and clock, and prints the
ending of the program.  Its transport is the one without a network.
-/

namespace SupplierGateway
namespace CommandLine

/-- The names of the variables from which a configuration is loaded. -/
def variableNames : List String :=
  ["RENTGATE_SUPPLIER_URL", "RENTGATE_CLIENT_ID", "RENTGATE_CLIENT_SECRET", "RENTGATE_API_KEY",
    "RENTGATE_API_KEY_HEADER", "RENTGATE_TIMEOUT_MS", "RENTGATE_AUTH_TIMEOUT_MS",
    "RENTGATE_BOOKING_TIMEOUT_MS", "RENTGATE_MAX_WORKERS", "RENTGATE_MAX_PAGES",
    "RENTGATE_FAIL_FAST", "RENTGATE_SINGLE_FLIGHT"]

/-- The text printed in answer to `--help`. -/
def helpText : String :=
  "Car-rental supplier gateway\n\n" ++
  "Usage: rentgate [OPTIONS] <COMMAND>\n\n" ++
  "Commands:\n" ++
  "  locations  Fetch every page of the location catalogue\n" ++
  "  rates      Quote every available vehicle class\n" ++
  "  book       Book a previously quoted rate\n" ++
  "  status     Show the state of a reservation\n" ++
  "  cancel     Cancel a reservation\n" ++
  "  help       Print this message\n\n" ++
  "Options:\n" ++
  "      --config <CONFIG>          Path to a JSON configuration file\n" ++
  "      --pretty                   Print JSON with indentation\n" ++
  "      --timeout-ms <TIMEOUT_MS>  Default call timeout in milliseconds\n" ++
  "      --log-level <LOG_LEVEL>    Log filter\n" ++
  "  -h, --help                     Print help\n" ++
  "  -V, --version                  Print version"

/-- The text printed in answer to `--version`. -/
def versionText : String := "rentgate 0.1.0"

/-- Reads a file. -/
def readFile (path : String) : IO FileContents := do
  try
    return .bytes (← IO.FS.readBinFile path)
  catch _ =>
    return .missing

/-- The configuration file that the arguments name, if they name one. -/
def namedFile (words : List String) : IO FileContents :=
  match Arguments.parse words with
  | .ok { configPath := some path, .. } => readFile path
  | _ => return .missing

/-- Prints the ending of the program. -/
def report : Ending → IO Unit
  | .halted .help => IO.println helpText
  | .halted .version => IO.println versionText
  | .halted .usage => IO.eprintln helpText
  | .refused r => IO.eprintln ("error: " ++ r.message)
  | .answered pretty e => IO.println (envelopeText pretty e)
  | .crashed text => IO.eprintln ("panicked: " ++ text)

end CommandLine
end SupplierGateway

open SupplierGateway CommandLine in
def main (words : List String) : IO UInt32 := do
  let found ← variableNames.mapM fun name => return (name, ← IO.getEnv name)
  let contents ← namedFile words
  let now ← Std.Time.Timestamp.now
  let resources : Operation.Resources :=
    { transport := Http.Transport.offline, clockMs := now.toMillisecondsSinceUnixEpoch.val.toNat }
  let ending := run resources (fun name => (found.lookup name).join) (fun _ => contents) words
  try
    report ending
    return ending.status
  catch e =>
    IO.eprintln ("error: " ++ toString e)
    return 10
