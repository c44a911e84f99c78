import SupplierGateway.Proofs.Gateway.Answers
import SupplierGateway.Proofs.Gateway.Secrecy
import SupplierGateway.Proofs.Operation.SecretCorrespondences

/-!
# Client credentials in answers

The identity and the secret of a client stand in the body of a token request, and the token is
cached under a key that depends on both.  The same operations are asked of the same gateway for two
clients, over a transport whose replies depend on methods and addresses only, and with empty caches.
Then the answers are equal.

* `Gateway.ofClient` — a gateway for a client;
* `client_credentials_unseen` — the answers do not depend on identity and secret of the client.
-/

namespace SupplierGateway

open Http (Transport)
open Operation (Correspondence Event Resources clientCorrespondence)

/-- The gateway for another client. -/
def Gateway.ofClient (g : Gateway) (identity secret : String) : Gateway :=
  { g with credential := .client identity secret }

/-- The gateway for one client corresponds to the gateway for another. -/
theorem gateways_ofClient (g : Gateway) (identity secret identity' secret' : String) :
    (clientCorrespondence (Cache.key g.endpoint (.client identity secret))
      (Cache.key g.endpoint (.client identity' secret'))).Gateways (g.ofClient identity secret)
        (g.ofClient identity' secret') where
  endpoint := rfl
  maxPages := rfl
  fanOut := rfl
  context _ := ⟨rfl, rfl, fun _ => ⟨⟨rfl, rfl⟩, _, _, rfl, rfl, rfl⟩⟩
  authorized _ _ := rfl

namespace Service

/-- Over a transport whose replies depend on methods and addresses only, and with empty caches,
operations have the same answers for any client, after any events and also when they are left to
themselves. -/
theorem client_credentials_unseen (g : Gateway) (identity secret identity' secret' : String)
    (r : Resources) (hdepends : r.transport.DependsOnlyOn Call.requestKey)
    (hentries : ∀ number, (r.cache number).backend.entries = [])
    (hlocks : ∀ number, (r.cache number).locks = {}) (asked : List (Nat × Service))
    (events : List Event)
    (hreplace : ∀ number backend, .replace number backend ∈ events → backend.entries = []) :
    answers r (asked.map (g.ofClient identity secret, ·)) events =
        answers r (asked.map (g.ofClient identity' secret', ·)) events ∧
      (perform r (asked.map (g.ofClient identity secret, ·))).2 =
        (perform r (asked.map (g.ofClient identity' secret', ·))).2 := by
  let rel := clientCorrespondence (Cache.key g.endpoint (.client identity secret))
    (Cache.key g.endpoint (.client identity' secret'))
  have hshares : rel.Shares r r :=
    { transport := hdepends.repliesAlike
      caches := fun number => Cache.Pairing.caches_of_fresh (hentries number) (hlocks number)
      clockMs := rfl }
  have horders : List.Forall₂ rel.Orders (asked.map (g.ofClient identity secret, ·))
      (asked.map (g.ofClient identity' secret', ·)) := by
    rw [List.forall₂_map_left_iff, List.forall₂_map_right_iff]
    have hgateways := gateways_ofClient g identity secret identity' secret'
    exact List.forall₂_same.mpr fun _ _ => ⟨hgateways, rfl⟩
  have hanswers := Correspondence.answers_through hshares horders events
    fun number backend hreplaced =>
      Cache.Pairing.stores_of_fresh (hreplace number backend hreplaced)
  have hperform := Correspondence.perform_through hshares horders
  have hview : rel.view = id := rfl
  simp only [hview, Answer.through_id, List.map_id] at hanswers hperform
  exact ⟨hanswers, hperform⟩

/-- The state of a booking is asked for two clients.  Their requests differ, and the answers do
not. -/
theorem other_client_unseen :
    answers (issuing "300") [(clientGateway.ofClient "a" "b", 0, status "B1")] tokenFirst =
        answers (issuing "300") [(clientGateway.ofClient "c" "d", 0, status "B1")] tokenFirst ∧
      ((opening (issuing "300") [(clientGateway.ofClient "a" "b", 0, status "B1")]).run
          tokenFirst).resources.transport.log ≠
        ((opening (issuing "300") [(clientGateway.ofClient "c" "d", 0, status "B1")]).run
          tokenFirst).resources.transport.log := by
  have hdepends : (issuing "300").transport.DependsOnlyOn Call.requestKey :=
    Transport.dependsOnlyOn_scripted (fun _ _ => id) _
  obtain ⟨hanswers, -⟩ := client_credentials_unseen clientGateway "a" "b" "c" "d" (issuing "300")
    hdepends (fun _ => rfl) (fun _ => rfl) [(0, status "B1")] tokenFirst
    fun number backend hreplaced => by simp [tokenFirst] at hreplaced
  exact ⟨hanswers, by decide +kernel⟩

end Service
end SupplierGateway
