import SupplierGateway.Proofs.Gateway.Answers
import SupplierGateway.Proofs.Gateway.Secrecy
import SupplierGateway.Proofs.Operation.SecretCorrespondences

/-!
# API keys in answers

A key is sent in a header that the configuration names.  The same operations are asked of gateways
that differ in the value of the key, over a transport whose replies do not depend on it.  Then the
answers differ in the value of that header in the recorded requests at most, and if its name is
sensitive they do not differ at all.  If it is not, the records do contain the key.

* `Rekeyed` — orders that differ in the value of a key;
* `api_key_shows_in_its_header_only` — answers depend on a key in the records of its header only;
* `api_key_shows_unless_redacted` — they do so if the name of the header is not sensitive.
-/

namespace SupplierGateway

open Audit (CallRecord isSensitive)
open Http (Request Transport)
open Operation (Correspondence Event Resources keyCorrespondence view_keyCorrespondence_of_plain
  view_keyCorrespondence_of_sensitive)

namespace Service

/-- Two orders of the same operation to the same gateway, in which a key that is sent in a header
may have different values. -/
inductive Rekeyed (header : String) : Gateway × Nat × Service → Gateway × Nat × Service → Prop
  | same (order : Gateway × Nat × Service) : Rekeyed header order order
  | rekeyed (g : Gateway) (name value value' : String) (hname : Text.lower name = Text.lower header)
      (hcredential : g.credential = .apiKey name value) (cache : Nat) (s : Service) :
      Rekeyed header (g, cache, s) ({ g with credential := .apiKey name value' }, cache, s)

variable {header : String} {r : Resources} {orders orders' : List (Gateway × Nat × Service)}

/-- Orders that differ in the value of a key correspond. -/
theorem Rekeyed.corresponds {order order' : Gateway × Nat × Service}
    (hrekeyed : Rekeyed header order order') :
    (keyCorrespondence (Text.lower header)).Orders order order' := by
  cases hrekeyed with
  | same order =>
      exact ⟨Correspondence.gateways_refl (fun _ => rfl) (fun _ _ => rfl) (fun _ => rfl) _, rfl⟩
  | rekeyed g name value value' hname hcredential cache s =>
      have hfree : g.credential.requiresToken = false := by rw [hcredential]; rfl
      refine ⟨⟨rfl, rfl, rfl, fun phase => ⟨rfl, hfree, fun hrequired => ?_⟩, fun q _ => ?_⟩, rfl⟩
      · exact nomatch hfree.symm.trans hrequired
      · have hset : ∀ value : String, (q.withAuthorization (.header name value)).headers =
            q.headers.insert (Text.lower header) value := fun value =>
          congrArg (q.headers.insert · value) hname
        simp only [hcredential, Operation.initialAuthorization]
        have hconceal := q.headers.conceal_insert (Text.lower header) value value'
        rw [← hset, ← hset] at hconceal
        exact congrArg (fun headers : Http.Headers => { q with headers }) hconceal

/-- Over a transport whose replies do not depend on a key, operations have the same answers for any
value of the key, after any events and also when they are left to themselves, apart from the value
of its header in the recorded requests.  If the name of the header is sensitive, the answers are
equal without exception. -/
theorem api_key_shows_in_its_header_only (header : String) (r : Resources)
    (hdepends : r.transport.DependsOnlyOn (Request.conceal (Text.lower header)))
    (orders orders' : List (Gateway × Nat × Service))
    (horders : List.Forall₂ (Rekeyed header) orders orders') (events : List Event) :
    ((answers r orders events).map (Answer.through (CallRecord.conceal (Text.lower header))) =
        (answers r orders' events).map (Answer.through (CallRecord.conceal (Text.lower header))) ∧
      (perform r orders).2.map (Answer.through (CallRecord.conceal (Text.lower header))) =
        (perform r orders').2.map (Answer.through (CallRecord.conceal (Text.lower header)))) ∧
    (isSensitive header = true →
      answers r orders events = answers r orders' events ∧
        (perform r orders).2 = (perform r orders').2) := by
  have hshares : (keyCorrespondence (Text.lower header)).Shares r r :=
    Correspondence.shares_of_transport (fun _ => rfl) (fun _ => rfl) hdepends.repliesAlike
  have hcorrespond : List.Forall₂ (keyCorrespondence (Text.lower header)).Orders orders orders' :=
    horders.imp fun _ _ => Rekeyed.corresponds
  have hanswers := Correspondence.answers_through hshares hcorrespond events
    fun _ backend _ => Correspondence.stores_refl (fun _ => rfl) (fun _ => rfl) backend
  have hperform := Correspondence.perform_through hshares hcorrespond
  have hname : isSensitive (Text.lower header) = isSensitive header := by
    simp only [isSensitive, Text.lower_lower]
  cases hsensitive : isSensitive header with
  | true =>
      rw [view_keyCorrespondence_of_sensitive (hname.trans hsensitive)] at hanswers hperform
      simp only [Answer.through_id, List.map_id] at hanswers hperform
      rw [hanswers, hperform]
      exact ⟨⟨rfl, rfl⟩, fun _ => ⟨rfl, rfl⟩⟩
  | false =>
      rw [view_keyCorrespondence_of_plain (hname.trans hsensitive)] at hanswers hperform
      exact ⟨⟨hanswers, hperform⟩, nofun⟩

/-! ## Two headers -/

/-- The configuration of a gateway whose key is sent in a header. -/
def keyConfig (header value : String) : Config :=
  { baseUrl := "https://supplier.example", credential := .apiKey header value }

/-- A gateway whose key is sent in a header. -/
def keyGateway (header value : String) : Gateway :=
  { endpoint := { base := "https://supplier.example" }, credential := .apiKey header value }

/-- A call is made at once, and answered. -/
def answeredAtOnce : List Event :=
  [.proceed, .proceed, .arrive, .proceed, .proceed].map (.task 0)

/-- The answers do not depend on a key in a header with a sensitive name, and they depend on a key
in another header in the records of that header only. -/
theorem keys_in_two_headers :
    answers (issuing "300") [(keyGateway "X-Api-Key" "k1", 0, status "B1")] answeredAtOnce =
        answers (issuing "300") [(keyGateway "X-Api-Key" "k2", 0, status "B1")] answeredAtOnce ∧
      (answers (issuing "300") [(keyGateway "X-Auth" "k1", 0, status "B1")] answeredAtOnce).map
          (Answer.through (CallRecord.conceal "x-auth")) =
        (answers (issuing "300") [(keyGateway "X-Auth" "k2", 0, status "B1")] answeredAtOnce).map
          (Answer.through (CallRecord.conceal "x-auth")) := by
  have hrekeyed : ∀ header : String, List.Forall₂ (Rekeyed header)
      [(keyGateway header "k1", 0, status "B1")] [(keyGateway header "k2", 0, status "B1")] :=
    fun header => .cons (.rekeyed (keyGateway header "k1") header "k1" "k2" rfl rfl 0 _) .nil
  have hdepends : ∀ name, (issuing "300").transport.DependsOnlyOn (Request.conceal name) :=
    fun name => Transport.dependsOnlyOn_scripted (fun _ _ => Call.requestKey_eq_of_conceal) _
  obtain ⟨-, hredacted⟩ := api_key_shows_in_its_header_only "X-Api-Key" (issuing "300")
    (hdepends _) _ _ (hrekeyed _) answeredAtOnce
  obtain ⟨⟨hconcealed, -⟩, -⟩ := api_key_shows_in_its_header_only "X-Auth" (issuing "300")
    (hdepends _) _ _ (hrekeyed _) answeredAtOnce
  refine ⟨(hredacted (by decide)).1, ?_⟩
  have hlower : Text.lower "X-Auth" = "x-auth" := by decide
  rwa [hlower] at hconcealed

/-- The answers depend on a key in a header whose name is not sensitive, although both
configurations are valid and the replies do not depend on the key. -/
theorem api_key_shows_unless_redacted :
    Gateway.ofConfig (keyConfig "X-Auth" "k1") = .ok (keyGateway "X-Auth" "k1") ∧
      Gateway.ofConfig (keyConfig "X-Auth" "k2") = .ok (keyGateway "X-Auth" "k2") ∧
      (issuing "300").transport.DependsOnlyOn (Request.conceal "x-auth") ∧
      answers (issuing "300") [(keyGateway "X-Auth" "k1", 0, status "B1")] answeredAtOnce ≠
        answers (issuing "300") [(keyGateway "X-Auth" "k2", 0, status "B1")] answeredAtOnce := by
  refine ⟨by decide +kernel, by decide +kernel, ?_, by decide +kernel⟩
  exact Transport.dependsOnlyOn_scripted (fun _ _ => Call.requestKey_eq_of_conceal) _

end Service
end SupplierGateway
