import SupplierGateway.Credential
import SupplierGateway.Digest.Sha256
import SupplierGateway.Endpoint

/-!
# Cached credentials and their keys

An issued token is kept with its key and the time for which it is valid.  The key is a digest of the
endpoint and the fingerprint of the credentials, joined by a zero byte; no secret stands in the key
itself.
-/

namespace SupplierGateway
namespace Cache

/-- A length of time. -/
structure Lifetime where
  secs : UInt64
  nanos : UInt32
deriving DecidableEq, Repr

namespace Lifetime

/-- A whole number of seconds. -/
def ofSecs (secs : UInt64) : Lifetime := { secs, nanos := 0 }

/-- A whole number of milliseconds. -/
def ofMs (ms : Nat) : Lifetime :=
  { secs := UInt64.ofNat (ms / 1000), nanos := UInt32.ofNat (ms % 1000 * 1000000) }

/-- The length of time is zero. -/
def isZero (l : Lifetime) : Bool := l.secs == 0 && l.nanos == 0

/-- The number of nanoseconds. -/
def toNanos (l : Lifetime) : Nat := l.secs.toNat * 1000000000 + l.nanos.toNat

/-- A length of time in JSON. -/
def json (l : Lifetime) : Json.Value :=
  .object [("secs", .word l.secs), ("nanos", .word l.nanos.toUInt64)]

/-- A length of time with its nanoseconds carried into the seconds. -/
def normalise (secs : UInt64) (nanos : UInt32) : Except Json.Fault Lifetime :=
  let carried := secs.toNat + nanos.toNat / 1000000000
  if carried < UInt64.size then
    .ok { secs := UInt64.ofNat carried, nanos := UInt32.ofNat (nanos.toNat % 1000000000) }
  else .error (.rejected "overflow deserializing Duration")

/-- Reads a length of time from JSON. -/
def decoder : Json.Decoder Lifetime :=
  Json.Decoder.refine
    (Json.Fields.decoder
      (Prod.mk <$> .required "secs" Json.Decoder.word64
        <*> .required "nanos" Json.Decoder.word32)
      { expected := "struct Duration", expectedLength := "struct Duration", tolerant := false })
    fun (secs, nanos) => normalise secs nanos

end Lifetime

/-- A token with its key and the time for which it is valid. -/
structure CachedCredential where
  token : String
  key : String
  ttl : Lifetime
deriving DecidableEq, Repr

namespace CachedCredential

/-- A cached credential in JSON. -/
def json (c : CachedCredential) : Json.Value :=
  .object [("token", .string c.token), ("key", .string c.key), ("ttl", c.ttl.json)]

/-- Reads a cached credential from JSON. -/
def decoder : Json.Decoder CachedCredential :=
  Json.Fields.record
    (CachedCredential.mk <$> .required "token" Json.Decoder.string
      <*> .required "key" Json.Decoder.string
      <*> .required "ttl" Lifetime.decoder)
    "CachedCredential"

end CachedCredential

/-- The bytes of which a key is the digest: endpoint and fingerprint, joined by a zero byte. -/
def keyBytes (e : Endpoint) (c : Credential) : List UInt8 :=
  e.base.toUTF8.data.toList ++ 0 :: c.fingerprint.toUTF8.data.toList

/-- The key under which a token is kept. -/
def key (e : Endpoint) (c : Credential) : String :=
  "rentgate:credential:" ++ Digest.hex (Digest.sha256 (keyBytes e c))

end Cache
end SupplierGateway
