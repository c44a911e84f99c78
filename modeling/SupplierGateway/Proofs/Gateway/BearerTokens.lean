import SupplierGateway.Proofs.Gateway.Answers
import SupplierGateway.Proofs.Gateway.Secrecy
import SupplierGateway.Proofs.Operation.SecretCorrespondences

/-!
# Issued tokens in answers

A supplier issues a token in the body of a reply.  The token is kept in the cache and borne by the
requests that follow.  The same operations are asked of the same gateways over two suppliers that
issue different tokens, and have equal replies to everything else.  Then the answers differ in the
recorded bodies of the replies to token requests at most.  These bodies are recorded as they are, so
they contain the token.

* `issued_token_shows_in_its_reply_only` — answers depend on a token in the record of the reply that
  issued it only;
* `issued_token_shows` — they do so.
-/

namespace SupplierGateway

open Audit (CallRecord)
open Http (Transport)
open Operation (Event Resources Correspondence tokenCorrespondence)

namespace Service

/-- Over two suppliers that differ in the tokens that they issue, operations have the same answers,
after any events and also when they are left to themselves, apart from the recorded bodies of the
replies in which tokens were issued. -/
theorem issued_token_shows_in_its_reply_only (r : Resources) (transport : Transport)
    (hreissues : r.transport.Reissues transport) (orders : List (Gateway × Nat × Service))
    (events : List Event) :
    (answers r orders events).map (Answer.through CallRecord.concealIssued) =
        (answers { r with transport } orders events).map
          (Answer.through CallRecord.concealIssued) ∧
      (perform r orders).2.map (Answer.through CallRecord.concealIssued) =
        (perform { r with transport } orders).2.map (Answer.through CallRecord.concealIssued) := by
  have hshares : tokenCorrespondence.Shares r { r with transport } :=
    Correspondence.shares_of_transport (fun _ => rfl) (fun _ => trivial) hreissues
  have hgateways : ∀ g, tokenCorrespondence.Gateways g g :=
    tokenCorrespondence.gateways_refl (fun _ => rfl) (fun _ hother => ⟨rfl, hother⟩) fun _ => rfl
  have horders : List.Forall₂ tokenCorrespondence.Orders orders orders :=
    List.forall₂_same.mpr fun order _ => ⟨hgateways order.1, rfl⟩
  exact ⟨Correspondence.answers_through hshares horders events fun _ backend _ =>
      Correspondence.stores_refl (fun _ => rfl) (fun _ => trivial) backend,
    Correspondence.perform_through hshares horders⟩

/-! ## Two tokens -/

/-- A supplier that issues a given token, and knows of one booking. -/
def issuingToken (token : String) : Resources where
  transport.routes :=
    [{ method := .post, url := "https://supplier.example/auth/token"
       replies :=
        [.respond
          { status := 200
            body := "\x7b\"access_token\":\"" ++ token ++ "\",\"expires_in\":300\x7d" }] },
      { method := .get, url := "https://supplier.example/bookings/B1"
        replies :=
          [.respond
            { status := 200, body := "\x7b\"reference\":\"B1\",\"status\":\"pending\"\x7d" }] }]

/-- The supplier may issue another token. -/
theorem reissues_issuingToken :
    (issuingToken "t").transport.Reissues (issuingToken "u").transport := by
  refine Http.reissues_scripted (.cons ⟨rfl, rfl, .cons ?_ .nil⟩
    (.cons ⟨rfl, rfl, .cons (.same _) .nil⟩ .nil))
  refine .issued { base := "https://supplier.example" } (by decide) (.respond ⟨rfl, rfl, ?_⟩)
  exact ⟨"t", "u", 300, by decide +kernel, by decide +kernel⟩

/-- The answer to a question about a booking does not depend on the token that the question bore,
apart from the record of the reply that issued it. -/
theorem other_token_unseen :
    (answers (issuingToken "t") [(clientGateway, 0, status "B1")] tokenFirst).map
        (Answer.through CallRecord.concealIssued) =
      (answers (issuingToken "u") [(clientGateway, 0, status "B1")] tokenFirst).map
        (Answer.through CallRecord.concealIssued) :=
  (issued_token_shows_in_its_reply_only (issuingToken "t") (issuingToken "u").transport
    reissues_issuingToken [(clientGateway, 0, status "B1")] tokenFirst).1

/-- The records of two suppliers that differ in the token only are different. -/
theorem issued_token_shows :
    (issuingToken "t").transport.Reissues (issuingToken "u").transport ∧
      answers (issuingToken "t") [(clientGateway, 0, status "B1")] tokenFirst ≠
        answers (issuingToken "u") [(clientGateway, 0, status "B1")] tokenFirst :=
  ⟨reissues_issuingToken, by decide +kernel⟩

end Service
end SupplierGateway
