import SupplierGateway.Json.Decoder
import SupplierGateway.Text.Ascii
import SupplierGateway.Text.Quoted

/-!
# Credentials

A supplier is approached without credentials, with a key in a header of every request, or with a
token that is issued in exchange for a client's identity and secret.

The fingerprint of credentials tells different credentials apart where they must not share a token.
It joins the kind and the two parts with zero characters, after lower-casing the name of a header.
Diagnostics never show the secret part.
-/

namespace SupplierGateway

/-- The ways in which a client identifies itself to a supplier. -/
inductive Credential where
  | none
  | apiKey (header value : String)
  | client (id secret : String)
deriving DecidableEq, Repr

instance : Inhabited Credential := ⟨.none⟩

namespace Credential

/-- A token has to be issued before other calls. -/
def requiresToken : Credential → Bool
  | client .. => true
  | none | apiKey .. => false

/-- A text that tells different credentials apart. -/
def fingerprint : Credential → String
  | none => "none"
  | apiKey header value => "api_key\x00" ++ Text.lower header ++ "\x00" ++ value
  | client id secret => "client_credentials\x00" ++ id ++ "\x00" ++ secret

/-- Credentials as they stand in diagnostics. -/
def debug : Credential → String
  | none => "None"
  | apiKey header _ =>
      "ApiKey \x7b header: " ++ Text.quoted header ++ ", value: \"<redacted>\" \x7d"
  | client id _ =>
      "ClientCredentials \x7b client_id: " ++ Text.quoted id ++
        ", client_secret: \"<redacted>\" \x7d"

/-- Credentials in JSON, with their kind in front. -/
def json : Credential → Json.Value
  | none => .object [("type", .string "none")]
  | apiKey header value =>
      .object [("type", .string "api_key"), ("header", .string header), ("value", .string value)]
  | client id secret =>
      .object
        [("type", .string "client_credentials"), ("client_id", .string id),
          ("client_secret", .string secret)]

/-! ## Reading -/

/-- The kinds of credentials. -/
inductive Kind where
  | none | apiKey | client
deriving DecidableEq, Repr

/-- The kinds by their names in JSON. -/
def kinds : List (String × Kind) :=
  [("none", .none), ("api_key", .apiKey), ("client_credentials", .client)]

/-- Reads the kind. -/
def readKind : Json.Doc → Except Json.Fault Kind
  | .string s => Json.Decoder.variantOf kinds Option.none s
  | d => .error (Json.mismatch d "variant identifier")

/-- Fails unless a document denotes a value. -/
def demandValue (r : Json.Reading) (d : Json.Doc) : Except Json.Fault Unit :=
  (Json.Decoder.value r d).map fun _ => ()

/-- Reads the members of an object in order: the kind where its tag is met, everything else whole.
The other members are in reverse order. -/
def splitMembers (r : Json.Reading) :
    Option Kind → List (Option String × Json.Doc) → List (Option String × Json.Doc) →
      Except Json.Fault (Option Kind × List (Option String × Json.Doc))
  | kind, others, [] => .ok (kind, others)
  | _, _, (Option.none, _) :: _ => .error .malformed
  | kind, others, (some name, d) :: rest =>
      if name = "type" then
        match kind with
        | some _ => .error (.duplicateField "type")
        | Option.none => do
            let found ← readKind d
            splitMembers r (some found) others rest
      else do
        demandValue r d
        splitMembers r kind ((some name, d) :: others) rest

/-- Two strings under given names. -/
def pairOf (make : String → String → Credential) (first second variantName : String) :
    Json.Decoder Credential :=
  let expected := "struct variant CredentialMaterial::" ++ variantName
  Json.Fields.decoder
    (make <$> .required first Json.Decoder.string <*> .required second Json.Decoder.string)
    { expected, expectedLength := expected ++ " with 2 elements", tolerant := true }

/-- Reads the parts of a kind of credentials.  The kind `none` has no parts, so no items may be
listed for it, while members that are not declared are ignored for every kind. -/
def ofKind (r : Json.Reading) (contents : Json.Doc) : Kind → Except Json.Fault Credential
  | .none =>
      match contents with
      | .array (item :: rest) => .error (Json.tooManyItems .buffered 0 (item :: rest).length)
      | _ => .ok none
  | .apiKey => pairOf apiKey "header" "value" "ApiKey" { r with form := .buffered } contents
  | .client =>
      pairOf client "client_id" "client_secret" "ClientCredentials"
        { r with form := .buffered } contents

/-- Reads credentials from JSON.  The kind stands under `type`, or first in an array. -/
def decoder : Json.Decoder Credential := fun r doc =>
  match doc with
  | .object members => do
      let inner ← r.enter
      match ← splitMembers inner Option.none [] members with
      | (Option.none, _) => .error (.missingField "type")
      | (some kind, others) => ofKind r (.object others.reverse) kind
  | .array [] => do
      let _ ← r.enter
      .error (.missingField "type")
  | .array (first :: rest) => do
      let inner ← r.enter
      let kind ← readKind first
      rest.forM (demandValue inner)
      ofKind r (.array rest) kind
  | d => .error (Json.mismatch d "internally tagged enum CredentialMaterial")

end Credential
end SupplierGateway
