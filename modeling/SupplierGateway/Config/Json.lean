import SupplierGateway.Config.Basic

/-!
# Configurations in JSON

Every setting may be left out and then has its default.  Timeouts of phases are members of an
object, by the names of the phases; when a phase is named twice the last timeout counts.
-/

namespace SupplierGateway

namespace Timeouts

/-- Timeouts of phases as members of an object, in the order of the phases. -/
def overrideMembers (t : Timeouts) : List (String × Json.Value) :=
  Phase.all.filterMap fun phase =>
    (t.override phase).map fun ms => (phase.name, .word ms)

/-- Timeouts in JSON. -/
def json (t : Timeouts) : Json.Value :=
  .object [("default_ms", .word t.default), ("per_phase", .object t.overrideMembers)]

/-- Timeouts from a default and a list of phases with theirs. -/
def ofList (default : UInt64) (overrides : List (Phase × UInt64)) : Timeouts :=
  overrides.foldl (fun t entry => t.withPhase entry.1 entry.2) { default }

/-- Reads timeouts from JSON. -/
def decoder : Json.Decoder Timeouts :=
  Json.Fields.record
    (ofList <$> .defaulting "default_ms" Json.Decoder.word64 30000
      <*> .defaulting "per_phase"
        (Json.Decoder.entries (Json.Decoder.variantOf Phase.named none) Json.Decoder.word64) [])
    "TimeoutSettings"

end Timeouts

namespace Config

/-- The settings of a fan-out in JSON. -/
def fanOutJson (c : Config) : Json.Value :=
  .object
    [("max_workers", (c.maxWorkers.map .word).getD .null), ("fail_fast", .bool c.failFast),
      ("max_pages", .word c.maxPages.toUInt64)]

/-- A configuration in JSON. -/
def json (c : Config) : Json.Value :=
  .object
    [("base_url", .string c.baseUrl), ("auth", c.credential.json),
      ("timeouts", c.timeouts.json),
      ("cache", .object [("single_flight", .bool c.singleFlight)]),
      ("fan_out", c.fanOutJson)]

/-- Reads the settings of the cache. -/
def cacheDecoder : Json.Decoder Bool :=
  Json.Fields.record (.defaulting "single_flight" Json.Decoder.bool false) "CacheSettings"

/-- Reads the settings of a fan-out: workers, whether to give up early, and pages. -/
def fanOutDecoder : Json.Decoder (Option UInt64 × Bool × UInt32) :=
  Json.Fields.record
    ((fun workers failFast pages => (workers, failFast, pages))
      <$> .optional "max_workers" Json.Decoder.count
      <*> .defaulting "fail_fast" Json.Decoder.bool false
      <*> .defaulting "max_pages" Json.Decoder.word32 1000)
    "FanOutSettings"

/-- Reads a configuration from JSON. -/
def decoder : Json.Decoder Config :=
  Json.Fields.record
    ((fun baseUrl credential timeouts singleFlight (maxWorkers, failFast, maxPages) =>
        { baseUrl, credential, timeouts, singleFlight, maxWorkers, failFast, maxPages })
      <$> .defaulting "base_url" Json.Decoder.string ""
      <*> .defaulting "auth" Credential.decoder .none
      <*> .defaulting "timeouts" Timeouts.decoder {}
      <*> .defaulting "cache" cacheDecoder false
      <*> .defaulting "fan_out" fanOutDecoder (none, false, 1000))
    "GatewayConfig"

end Config
end SupplierGateway
