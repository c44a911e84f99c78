import SupplierGateway.Http.Transport

/-!
# A transport without a network

Without a network no host can be reached.  A request is still required to be one that can be sent:
its address names a host, with a service number perhaps, the names of its headers are tokens, and
their values hold no control characters.  Any other request is refused as invalid.

The names of hosts that are admitted are those made of letters, digits, dots and hyphens.
-/

namespace SupplierGateway
namespace Http

/-- A character of a token. -/
def isTokenChar (c : Char) : Bool :=
  c.isAlphanum || "!#$%&'*+-.^_|~\x60".toList.contains c

/-- A character of a header's value. -/
def isValueChar (c : Char) : Bool :=
  c == '\t' || (0x20 ≤ c.toNat && c.toNat ≠ 0x7f)

/-- A header that can be sent. -/
def isSendable (name value : String) : Bool :=
  !name.isEmpty && name.toList.all isTokenChar && value.toList.all isValueChar

/-- A character of a host's name. -/
def isHostChar (c : Char) : Bool := c.isAlphanum || c == '.' || c == '-'

/-- The number of a service: decimal digits that stand for less than 65536, or nothing. -/
def isServiceNumber (cs : List Char) : Bool :=
  cs.all Char.isDigit && cs.foldl (fun n c => 10 * n + (c.toNat - 48)) 0 < 65536

/-- A host, with the number of a service after a colon perhaps. -/
def isAuthority (cs : List Char) : Bool :=
  let host := cs.takeWhile (· != ':')
  let rest := cs.dropWhile (· != ':')
  !host.isEmpty && host.all isHostChar && host.head? != some '.' && isServiceNumber (rest.drop 1)

/-- The part of an address between its scheme and its path. -/
def authority (url : String) : Option (List Char) :=
  let after (scheme : String) : Option (List Char) :=
    if Text.startsWith scheme url then
      some ((url.toList.drop scheme.length).takeWhile fun c => !(['/', '?', '#'].contains c))
    else none
  (after "https://").orElse fun _ => after "http://"

/-- The request can be sent. -/
def Request.isSendable (r : Request) : Bool :=
  (authority r.url).any isAuthority &&
    r.headers.entries.all fun (name, value) => Http.isSendable name value

/-- The failure of a request when there is no network. -/
def offline (r : Request) : Reply :=
  if r.isSendable then
    .fail { kind := .connect, message := "connection failed: network is unreachable" }
  else .fail { kind := .other, message := "request failed: builder error" }

/-- A transport without a network. -/
def Transport.offline : Transport := { otherwise := fun _ => Http.offline }

end Http
end SupplierGateway
