import SupplierGateway.Cache.Credential
import SupplierGateway.Proofs.Json.RoundTrip

/-!
# Cached credentials are read back

A token is stored as the text of a record in JSON.  Reading the text gives the record again, except
that whole seconds among the nanoseconds of its lifetime are carried, which may exceed the largest
lifetime.  Every record that is read has the token that was written.

* `Lifetime.decoder_doc` and `CachedCredential.ofText_compact` — the result of reading;
* `CachedCredential.token_of_ofText` — the token is the one that was written.
-/

namespace SupplierGateway
namespace Cache

open Json (Form Value)

namespace Lifetime

theorem exact_json (l : Lifetime) : l.json.Exact := by
  refine .object _ fun m hm => ?_
  rcases List.mem_cons.mp hm with rfl | hm
  · exact Value.exact_word _
  · obtain rfl := List.mem_singleton.mp hm
    exact Value.exact_word _

/-- A length of time is read back with its nanoseconds carried. -/
theorem decoder_doc (l : Lifetime) (form : Form) (room : Nat) :
    decoder { form, room := room + 1 } l.json.doc = normalise l.secs l.nanos := by
  simp [decoder, Json.Decoder.refine, Json.Fields.decoder, json, Value.doc, Value.memberDocs,
    Json.Reading.enter, Json.checkMembers, Json.Fields.required, Json.Fields.field, Seq.seq,
    Functor.map, bind, Except.bind, Except.map]

end Lifetime

namespace CachedCredential

theorem exact_json (c : CachedCredential) : c.json.Exact := by
  refine .object _ fun m hm => ?_
  simp only [List.mem_cons, List.not_mem_nil, or_false] at hm
  rcases hm with rfl | rfl | rfl
  · exact .string _
  · exact .string _
  · exact c.ttl.exact_json

theorem decoder_doc (c : CachedCredential) (form : Form) (room : Nat) :
    decoder { form, room := room + 2 } c.json.doc =
      (Lifetime.normalise c.ttl.secs c.ttl.nanos).map fun ttl => { c with ttl } := by
  have hlifetime := c.ttl.decoder_doc form room
  cases hnormal : Lifetime.normalise c.ttl.secs c.ttl.nanos <;>
    simp [decoder, Json.Fields.record, Json.Fields.decoder, json, Value.doc, Value.memberDocs,
      Json.Reading.enter, Json.checkMembers, Json.Fields.required, Json.Fields.field, Seq.seq,
      Functor.map, Json.Decoder.string, bind, Except.bind, Except.map, hlifetime, hnormal]

/-- A cached credential is read back from its text, with the nanoseconds of its lifetime carried. -/
theorem ofText_compact (c : CachedCredential) :
    decoder.ofText c.json.compact =
      (Lifetime.normalise c.ttl.secs c.ttl.nanos).map fun ttl => { c with ttl } := by
  rw [Json.Decoder.ofText, Json.Document.read_compact c.exact_json]
  show (do
    let a ← decoder { form := .text, room := 125 + 2 } c.json.doc
    if false then .error .malformed else .ok a) = _
  rw [decoder_doc]
  cases Lifetime.normalise c.ttl.secs c.ttl.nanos <;> rfl

/-- A credential that is read from the text of another one has the same token. -/
theorem token_of_ofText {c found : CachedCredential}
    (hfound : decoder.ofText c.json.compact = .ok found) : found.token = c.token := by
  rw [ofText_compact] at hfound
  cases hnormal : Lifetime.normalise c.ttl.secs c.ttl.nanos with
  | ok ttl =>
      rw [hnormal] at hfound
      obtain rfl := Except.ok.inj hfound
      rfl
  | error f =>
      rw [hnormal] at hfound
      exact nomatch hfound

end CachedCredential

end Cache
end SupplierGateway
