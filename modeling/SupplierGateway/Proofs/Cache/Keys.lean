import SupplierGateway.Cache.Credential
import SupplierGateway.Config.Basic
import SupplierGateway.Proofs.Lists

/-!
# Cache keys and tenants

A key is the digest of an endpoint and the fingerprint of credentials.  Both are joined from texts
by zero characters, so that the parts are determined by the whole if no text that is followed by a
zero character contains one.  A valid configuration may contain one.

* `Credential.SameTenant` — two credentials are equal up to the letter case of a header's name;
* `Credential.Plain` — the part of the credentials that is followed by a zero character has none;
* `keyBytes_eq_iff_joined` — the digested bytes are those of a text;
* `fingerprint_eq_iff` and `keyBytes_eq_iff` — the text determines its parts;
* `key_eq_iff_same_tenant` — a key determines endpoint and tenant, unless two digests collide;
* `two_tenants_share_a_key` — with zero characters in the parts it need not.
-/

namespace SupplierGateway

namespace Credential

/-- Two credentials are equal up to the letter case of the name of a header. -/
def SameTenant : Credential → Credential → Prop
  | none, none => True
  | apiKey header value, apiKey header' value' =>
      Text.sameIgnoringCase header header' = true ∧ value = value'
  | client id secret, client id' secret' => id = id' ∧ secret = secret'
  | _, _ => False

instance (c c' : Credential) : Decidable (c.SameTenant c') := by
  unfold SameTenant
  split <;> infer_instance

/-- The first of two parts of the credentials has no zero character. -/
def Plain : Credential → Prop
  | none => True
  | apiKey header _ => '\x00' ∉ header.toList
  | client id _ => '\x00' ∉ id.toList

instance (c : Credential) : Decidable c.Plain := by
  unfold Plain
  split <;> infer_instance

end Credential

namespace Cache

open Digest (hex sha256)

/-! ## Texts -/

theorem toLower_ne_zero {c : Char} (hc : c ≠ '\x00') : c.toLower ≠ '\x00' := by
  unfold Char.toLower
  split
  · next hupper =>
    intro hzero
    have hval := congrArg (fun d : Char => d.val.toNat) hzero
    have hfirst := UInt32.le_iff_toNat_le.1 hupper.1
    have hlast := UInt32.le_iff_toNat_le.1 hupper.2
    simp at hval hfirst hlast
    omega
  · exact hc

/-- The lower-cased form of a text without zero characters has none. -/
theorem zero_notMem_lower {s : String} (hs : '\x00' ∉ s.toList) :
    '\x00' ∉ (Text.lower s).toList := by
  rw [Text.lower, String.toList_ofList, List.mem_map]
  rintro ⟨c, hc, hzero⟩
  exact toLower_ne_zero (fun h => hs (h ▸ hc)) hzero

/-- The bytes digested for two keys are equal iff the texts are in which a zero character joins
endpoint and fingerprint. -/
theorem keyBytes_eq_iff_joined (e e' : Endpoint) (c c' : Credential) :
    keyBytes e c = keyBytes e' c' ↔
      e.base.toList ++ '\x00' :: c.fingerprint.toList =
        e'.base.toList ++ '\x00' :: c'.fingerprint.toList := by
  have hbytes : ∀ (e : Endpoint) (c : Credential),
      keyBytes e c = (e.base ++ "\x00" ++ c.fingerprint).toUTF8.data.toList := by
    intro e c
    have hzero : "\x00".toByteArray.data.toList = [0] := by decide
    simp [keyBytes, String.toByteArray_append, ByteArray.data_append, hzero]
  rw [hbytes, hbytes, Array.toList_inj]
  -- Encoding is injective, so that equal bytes have equal texts.
  constructor
  · intro hdata
    have htext := String.toByteArray_inj.mp (ByteArray.ext hdata)
    simpa using congrArg String.toList htext
  · intro hjoined
    have htext : e.base ++ "\x00" ++ c.fingerprint = e'.base ++ "\x00" ++ c'.fingerprint :=
      String.toList_injective (by simpa using hjoined)
    rw [htext]

/-! ## Parts of a joined text -/

theorem toList_joined (tag first second : String) :
    (tag ++ first ++ "\x00" ++ second).toList =
      tag.toList ++ first.toList ++ '\x00' :: second.toList := by
  simp

theorem toList_fingerprint_none : Credential.none.fingerprint.toList = ['n', 'o', 'n', 'e'] := by
  decide

theorem toList_fingerprint_apiKey (header value : String) :
    (Credential.apiKey header value).fingerprint.toList =
      ['a', 'p', 'i', '_', 'k', 'e', 'y', '\x00'] ++
        ((Text.lower header).toList ++ '\x00' :: value.toList) := by
  have htag : "api_key\x00".toList = ['a', 'p', 'i', '_', 'k', 'e', 'y', '\x00'] := by decide
  show ("api_key\x00" ++ Text.lower header ++ "\x00" ++ value).toList = _
  rw [toList_joined, htag, List.append_assoc]

theorem toList_fingerprint_client (id secret : String) :
    (Credential.client id secret).fingerprint.toList =
      ['c', 'l', 'i', 'e', 'n', 't', '_', 'c', 'r', 'e', 'd', 'e', 'n', 't', 'i', 'a', 'l', 's',
        '\x00'] ++ (id.toList ++ '\x00' :: secret.toList) := by
  have htag : "client_credentials\x00".toList =
      ['c', 'l', 'i', 'e', 'n', 't', '_', 'c', 'r', 'e', 'd', 'e', 'n', 't', 'i', 'a', 'l', 's',
        '\x00'] := by decide
  show ("client_credentials\x00" ++ id ++ "\x00" ++ secret).toList = _
  rw [toList_joined, htag, List.append_assoc]

/-- Two fingerprints are equal iff the tenants are the same. -/
theorem fingerprint_eq_iff {c c' : Credential} (hc : c.Plain) (hc' : c'.Plain) :
    c.fingerprint = c'.fingerprint ↔ c.SameTenant c' := by
  rw [← String.toList_inj]
  -- Two kinds of credentials differ in their tags.  Within a kind, the first zero character after the
  -- tag stands between the parts.
  cases c with
  | none =>
      cases c' with
      | none => simp [Credential.SameTenant]
      | apiKey header value =>
          simp [toList_fingerprint_none, toList_fingerprint_apiKey, Credential.SameTenant]
      | client id secret =>
          simp [toList_fingerprint_none, toList_fingerprint_client, Credential.SameTenant]
  | apiKey header value =>
      cases c' with
      | none => simp [toList_fingerprint_none, toList_fingerprint_apiKey, Credential.SameTenant]
      | apiKey header' value' =>
          rw [toList_fingerprint_apiKey, toList_fingerprint_apiKey, List.append_cancel_left_eq,
            append_cons_inj (zero_notMem_lower hc) (zero_notMem_lower hc'), String.toList_inj,
            String.toList_inj]
          simp [Credential.SameTenant, Text.sameIgnoringCase]
      | client id secret =>
          simp [toList_fingerprint_client, toList_fingerprint_apiKey, Credential.SameTenant]
  | client id secret =>
      cases c' with
      | none => simp [toList_fingerprint_none, toList_fingerprint_client, Credential.SameTenant]
      | apiKey header value =>
          simp [toList_fingerprint_client, toList_fingerprint_apiKey, Credential.SameTenant]
      | client id' secret' =>
          rw [toList_fingerprint_client, toList_fingerprint_client, List.append_cancel_left_eq,
            append_cons_inj hc hc', String.toList_inj, String.toList_inj]
          simp [Credential.SameTenant]

/-- The digested bytes are equal iff the endpoints are equal and the tenants are the same. -/
theorem keyBytes_eq_iff {e e' : Endpoint} {c c' : Credential} (he : '\x00' ∉ e.base.toList)
    (he' : '\x00' ∉ e'.base.toList) (hc : c.Plain) (hc' : c'.Plain) :
    keyBytes e c = keyBytes e' c' ↔ e = e' ∧ c.SameTenant c' := by
  have hbase : e.base = e'.base ↔ e = e' := by
    cases e
    cases e'
    simp
  rw [keyBytes_eq_iff_joined, append_cons_inj he he', String.toList_inj, String.toList_inj,
    fingerprint_eq_iff hc hc', hbase]

/-! ## Keys -/

/-- The hexadecimal form of bytes is injective. -/
theorem hex_injective : Function.Injective hex := by
  -- A byte is written as two digits, and each digit tells its half of the byte.
  have hdigit : ∀ m < 16, ∀ n < 16,
      (if m < 10 then Char.ofNat (48 + m) else Char.ofNat (87 + m)) =
        (if n < 10 then Char.ofNat (48 + n) else Char.ofNat (87 + n)) → m = n := by
    decide
  intro xs ys hhex
  have hchars := String.ofList_injective hhex
  clear hhex
  induction xs generalizing ys with
  | nil =>
      cases ys with
      | nil => rfl
      | cons y ys => exact absurd hchars nofun
  | cons x xs ih =>
      cases ys with
      | nil => exact absurd hchars nofun
      | cons y ys =>
          simp only [List.flatMap_cons, List.cons_append, List.nil_append, List.cons.injEq]
            at hchars
          obtain ⟨hhigh, hlow, hrest⟩ := hchars
          have hx := x.toNat_lt
          have hy := y.toNat_lt
          have hdiv := hdigit _ (by omega) _ (by omega) hhigh
          have hmod := hdigit _ (by omega) _ (by omega) hlow
          have hbyte : x = y := UInt8.toNat_inj.mp (by omega)
          rw [hbyte, ih hrest]

theorem key_eq_of_keyBytes_eq {e e' : Endpoint} {c c' : Credential}
    (hbytes : keyBytes e c = keyBytes e' c') : key e c = key e' c' := by
  unfold key
  rw [hbytes]

/-- If no text that is followed by a zero character contains one, and the two digests in question do
not collide, then two keys are the same if and only if endpoints and tenants are. -/
theorem key_eq_iff_same_tenant {e e' : Endpoint} {c c' : Credential}
    (he : '\x00' ∉ e.base.toList) (he' : '\x00' ∉ e'.base.toList) (hc : c.Plain) (hc' : c'.Plain)
    (hcollision : sha256 (keyBytes e c) = sha256 (keyBytes e' c') →
      keyBytes e c = keyBytes e' c') :
    key e c = key e' c' ↔ e = e' ∧ c.SameTenant c' := by
  rw [← keyBytes_eq_iff he he' hc hc']
  constructor
  · intro hkey
    exact hcollision (hex_injective ((String.append_right_inj _).mp hkey))
  · exact key_eq_of_keyBytes_eq

/-- A gateway for one header name in two spellings, and two gateways with different clients. -/
theorem keys_of_three_tenants :
    let e : Endpoint := { base := "https://api.example" }
    key e (.apiKey "X-Key" "k") = key e (.apiKey "x-key" "k") ∧
      key e (.client "a" "b") ≠ key e (.client "a" "c") := by
  intro e
  refine ⟨?_, ?_⟩
  · exact (key_eq_iff_same_tenant (by decide) (by decide) (by decide) (by decide)
      fun _ => by decide).mpr (by decide)
  · intro hkey
    have hsame := (key_eq_iff_same_tenant (by decide) (by decide) (by decide) (by decide)
      fun hdigest => absurd hdigest (by decide +kernel)).mp hkey
    exact absurd hsame (by decide)

/-- Two configurations with different clients at one endpoint are both valid, and their tokens are
kept under one key. -/
theorem two_tenants_share_a_key :
    let one : Config :=
      { baseUrl := "https://api.example", credential := .client "a\x00b" "c" }
    let other : Config :=
      { baseUrl := "https://api.example", credential := .client "a" "b\x00c" }
    one.validate = .ok () ∧ other.validate = .ok () ∧
      ∃ e, one.endpoint = .ok e ∧ other.endpoint = .ok e ∧
        ¬ one.credential.SameTenant other.credential ∧
        key e one.credential = key e other.credential := by
  intro one other
  refine ⟨by decide, by decide, { base := "https://api.example" }, by decide, by decide,
    by decide, key_eq_of_keyBytes_eq (by decide)⟩

end Cache
end SupplierGateway
