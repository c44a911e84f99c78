import SupplierGateway.Config.Basic
import SupplierGateway.Operation.Context

/-!
# Gateways

A gateway offers its operations over one supplier.  A gateway that is made from a configuration has
been validated; its parts may also be put together by hand.
-/

namespace SupplierGateway

/-- A gateway to a supplier. -/
structure Gateway where
  endpoint : Endpoint
  credential : Credential := .none
  timeouts : Timeouts := {}
  fanOut : FanOut.Options := {}
  /-- No more pages of locations are asked for than this. -/
  maxPages : UInt32 := 1000
  /-- Of several operations that need a token only one obtains it. -/
  singleFlight : Bool := false
deriving DecidableEq

namespace Gateway

/-- A gateway from the endpoint and the settings of a configuration, whether valid or not. -/
def ofParts (endpoint : Endpoint) (c : Config) : Gateway where
  endpoint := endpoint
  credential := c.credential
  timeouts := c.timeouts
  fanOut := c.fanOut

/-- A gateway from a configuration. -/
def ofConfig (c : Config) : Except InputError Gateway := do
  c.validate
  let endpoint ← c.endpoint
  .ok { ofParts endpoint c with maxPages := c.maxPages, singleFlight := c.singleFlight }

/-- The context of an operation in a phase. -/
def context (g : Gateway) (phase : Phase) : Operation.Context where
  timeouts := g.timeouts
  endpoint := g.endpoint
  credential := g.credential
  phase := phase

end Gateway
end SupplierGateway
