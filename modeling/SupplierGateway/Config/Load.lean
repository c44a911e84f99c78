import SupplierGateway.Config.Json

/-!
# Loading a configuration

A configuration is loaded from a file or from environment variables, and is always validated.  A
variable that is blank counts as absent.  Variables are looked at in a fixed order: credentials,
timeouts, limits, flags; the first fault is reported before the configuration as a whole is
validated.
-/

namespace SupplierGateway

/-- The contents of a file that exists, or its absence. -/
inductive FileContents where
  | missing
  | bytes (b : ByteArray)

/-- The reasons for which a file cannot be read as text. -/
inductive FileFault where
  | notFound
  | notText
deriving DecidableEq, Repr

/-- The text of a file fault. -/
def FileFault.message : FileFault → String
  | .notFound => "No such file or directory (os error 2)"
  | .notText => "stream did not contain valid UTF-8"

/-- The reasons for which no configuration is loaded. -/
inductive ConfigError where
  | input (e : InputError)
  | json (fault : Json.Fault)
  | file (fault : FileFault)
  | environment (name reason : String)
deriving DecidableEq, Repr

/-- The text of a configuration error. -/
def ConfigError.message : ConfigError → String
  | .input e => e.message
  | .json fault => "serialization error: " ++ fault.message
  | .file fault => "io error: " ++ fault.message
  | .environment name reason => "environment variable '" ++ name ++ "' is invalid: " ++ reason

namespace Config

/-- The configuration itself if it is valid, and its first fault otherwise. -/
def validated (c : Config) : Except ConfigError Config :=
  match c.validate with
  | .ok () => .ok c
  | .error e => .error (.input e)

/-! ## From a file -/

/-- Loads a configuration from a JSON text. -/
def ofText (text : String) : Except ConfigError Config :=
  match Json.Decoder.ofText decoder text with
  | .ok c => c.validated
  | .error fault => .error (.json fault)

/-- Loads a configuration from a file. -/
def ofFile : FileContents → Except ConfigError Config
  | .missing => .error (.file .notFound)
  | .bytes b =>
      match String.fromUTF8? b with
      | some text => ofText text
      | none => .error (.file .notText)

/-! ## From the environment -/

/-- The reasons for which a text is not a natural number below a limit. -/
inductive NumeralFault where
  | notDigit
  | tooLarge
deriving DecidableEq, Repr

/-- The text of a numeral fault. -/
def NumeralFault.message : NumeralFault → String
  | .notDigit => "invalid digit found in string"
  | .tooLarge => "number too large to fit in target type"

/-- Reads decimal digits from left to right below a limit; the first fault counts. -/
def readDigits (limit : Nat) : Nat → List Char → Except NumeralFault Nat
  | n, [] => .ok n
  | n, c :: rest =>
      if !c.isDigit then .error .notDigit
      else
        let next := 10 * n + (c.toNat - 48)
        if next < limit then readDigits limit next rest else .error .tooLarge

/-- Reads a natural number below a limit, with an optional plus sign. -/
def readNumeral (limit : Nat) (text : String) : Except NumeralFault Nat :=
  match text.toList with
  | [] => .error .notDigit
  | ['+'] => .error .notDigit
  | '+' :: rest => readDigits limit 0 rest
  | cs => readDigits limit 0 cs

/-- Reads a flag in any of its spellings, without regard to case. -/
def readFlag (text : String) : Except String Bool :=
  let word := Text.lower (Text.trim text)
  if ["1", "true", "yes", "on"].contains word then .ok true
  else if ["0", "false", "no", "off"].contains word then .ok false
  else .error ("expected a boolean, got '" ++ word ++ "'")

/-- The variables of an environment by name. -/
abbrev Environment := String → Option String

/-- The value of a variable that is present and not blank. -/
def Environment.text (env : Environment) (name : String) : Option String :=
  (env name).filter fun text => !Text.blank text

/-- A variable that holds a natural number below a limit, if it is present. -/
def Environment.numeral (env : Environment) (limit : Nat) (name : String) :
    Except ConfigError (Option Nat) :=
  match env.text name with
  | none => .ok none
  | some text =>
      match readNumeral limit (Text.trim text) with
      | .ok n => .ok (some n)
      | .error fault => .error (.environment name fault.message)

/-- A variable that holds a flag, if it is present. -/
def Environment.flag (env : Environment) (name : String) : Except ConfigError (Option Bool) :=
  match env.text name with
  | none => .ok none
  | some text =>
      match readFlag text with
      | .ok b => .ok (some b)
      | .error reason => .error (.environment name reason)

/-- The credentials that an environment holds.  A client's identity takes precedence over a key,
and needs its secret. -/
def Environment.credential (env : Environment) : Except ConfigError Credential :=
  match env.text "RENTGATE_CLIENT_ID", env.text "RENTGATE_API_KEY" with
  | some id, _ =>
      match env.text "RENTGATE_CLIENT_SECRET" with
      | some secret => .ok (.client id secret)
      | none =>
          .error
            (.environment "RENTGATE_CLIENT_SECRET" "required when RENTGATE_CLIENT_ID is set")
  | none, some value =>
      .ok (.apiKey ((env.text "RENTGATE_API_KEY_HEADER").getD "x-api-key") value)
  | none, none => .ok .none

/-- Loads a configuration from an environment. -/
def ofEnvironment (env : Environment) : Except ConfigError Config := do
  let baseUrl := (env.text "RENTGATE_SUPPLIER_URL").getD ""
  let credential ← env.credential
  let defaultMs ← env.numeral UInt64.size "RENTGATE_TIMEOUT_MS"
  let authMs ← env.numeral UInt64.size "RENTGATE_AUTH_TIMEOUT_MS"
  let bookingMs ← env.numeral UInt64.size "RENTGATE_BOOKING_TIMEOUT_MS"
  let workers ← env.numeral UInt64.size "RENTGATE_MAX_WORKERS"
  let pages ← env.numeral UInt32.size "RENTGATE_MAX_PAGES"
  let failFast ← env.flag "RENTGATE_FAIL_FAST"
  let singleFlight ← env.flag "RENTGATE_SINGLE_FLIGHT"
  let override : Phase → Option UInt64
    | .auth => authMs.map UInt64.ofNat
    | .booking => bookingMs.map UInt64.ofNat
    | _ => none
  let base : Config := { baseUrl, credential }
  validated
    { base with
      timeouts := { default := (defaultMs.map UInt64.ofNat).getD base.timeouts.default, override }
      maxWorkers := workers.map UInt64.ofNat
      maxPages := (pages.map UInt32.ofNat).getD base.maxPages
      failFast := failFast.getD base.failFast
      singleFlight := singleFlight.getD base.singleFlight }

end Config
end SupplierGateway
