import SupplierGateway.Proofs.Operation.Reissue

/-!
# The correspondences of three secrets

A secret is a key that is sent in a header, a token that a supplier issues, or the identity and the
secret of a client.  For each of them there is a correspondence between two runs that differ in it
only.

* `keyCorrespondence` — the value of one header;
* `tokenCorrespondence` — the tokens that are issued;
* `clientCorrespondence` — the bodies of token requests.
-/

namespace SupplierGateway
namespace Operation

open Audit (CallRecord isSensitive)
open Http (Outcome Request Transport)
open Supplier (AsksForToken)

/-- Two runs may differ in the value of one header.  The view conceals it, unless records redact it
anyway. -/
def keyCorrespondence (name : String) : Correspondence where
  view := if isSensitive name then id else CallRecord.conceal name
  transport := Transport.RepliesAlike (Request.conceal name) fun _ => Eq
  request q q' := q.conceal name = q'.conceal name
  tokenRequest := Eq
  issued := Eq
  token := Eq
  key := Eq
  unique := biUnique_eq
  limited timeoutMs hrequest := by
    have hlimited := congrArg (fun q : Request => { q with timeoutMs }) hrequest
    exact hlimited
  tokenLimited timeoutMs hrequest := by rw [hrequest]
  bearer _ htoken := by rw [htoken]
  send halike hrequest := halike.send (fun _ _ => Call.requestKey_eq_of_conceal) hrequest
  sendToken halike hrequest := by
    obtain ⟨hnext, hreply⟩ :=
      halike.send (fun _ _ => Call.requestKey_eq_of_conceal) (congrArg _ hrequest)
    exact ⟨hnext, delivered_of_eq hreply⟩
  failed _ := rfl
  read houtcome := houtcome ▸ .refl (fun _ => ⟨rfl, rfl⟩) _
  recorded hrequest ctx startMs endMs response error := by
    split
    · next hsensitive =>
      exact Call.callRecord_eq_of_isSensitive hsensitive hrequest ..
    · exact Call.callRecord_conceal hrequest ..
  tokenRecorded hrequest houtcome ctx startMs endMs _ := by rw [hrequest, houtcome]
  tokenAbandoned hrequest ctx startMs endMs _ := by rw [hrequest]

/-- The view of a record is the record itself, if the name of the header is sensitive. -/
theorem view_keyCorrespondence_of_sensitive {name : String} (hsensitive : isSensitive name = true) :
    (keyCorrespondence name).view = id :=
  if_pos hsensitive

/-- The view conceals one header, if its name is not sensitive. -/
theorem view_keyCorrespondence_of_plain {name : String} (hplain : isSensitive name = false) :
    (keyCorrespondence name).view = CallRecord.conceal name :=
  if_neg (Bool.eq_false_iff.mp hplain)

/-- Two runs may differ in the tokens that suppliers issue. -/
def tokenCorrespondence : Correspondence where
  view := CallRecord.concealIssued
  transport := Transport.Reissues
  -- Only replies to token requests may differ, so no other request may be one.
  request q q' := q.conceal "authorization" = q'.conceal "authorization" ∧ ¬ AsksForToken q
  tokenRequest := Eq
  issued := Outcome.Reissues
  token _ _ := True
  key := Eq
  unique := biUnique_eq
  limited timeoutMs hrequest :=
    ⟨congrArg (fun q : Request => { q with timeoutMs }) hrequest.1, hrequest.2⟩
  tokenLimited timeoutMs hrequest := by rw [hrequest]
  bearer {q s s'} hother _ := by
    have hset := q.headers.conceal_insert "authorization" ("Bearer " ++ s) ("Bearer " ++ s')
    exact ⟨congrArg (fun headers : Http.Headers => { q with headers }) hset, hother⟩
  send {_ _ q _} hreissues hrequest := by
    obtain ⟨hnext, hreply⟩ := hreissues.send hrequest.1
    exact ⟨hnext, hreply.eq hrequest.2⟩
  sendToken hreissues hrequest := by
    obtain ⟨hnext, hreply⟩ := hreissues.send (congrArg _ hrequest)
    exact ⟨hnext, hreply.reissues.delivered⟩
  failed _ := .same _
  read houtcome := houtcome.read
  recorded hrequest ctx startMs endMs response error :=
    congrArg CallRecord.concealIssued
      (Call.callRecord_eq_of_isSensitive (by decide) hrequest.1 ctx startMs endMs response error)
  tokenRecorded hrequest houtcome ctx startMs endMs hphase := by
    cases houtcome with
    | same o => rw [hrequest]
    | ok hresponse =>
        simp only [Call.Interceptor.outcomeRecord, Call.Interceptor.callRecord,
          CallRecord.concealIssued, hphase, if_true, Option.map_some, hrequest,
          Audit.concealIssued_of_reissues hresponse]
  tokenAbandoned hrequest ctx startMs endMs _ := by rw [hrequest]

/-- Two runs may differ in the client.  Their tokens are cached under two given keys, and nothing is
cached under any other. -/
def clientCorrespondence (own own' : String) : Correspondence where
  view := id
  transport := Transport.RepliesAlike Call.requestKey fun _ => Eq
  request := Eq
  tokenRequest q q' := q.concealBody = q'.concealBody
  issued := Eq
  token := Eq
  -- Keys correspond one to one, since there is one on either side.
  key key key' := key = own ∧ key' = own'
  unique :=
    ⟨fun _ _ _ hfirst hsecond => hfirst.1.trans hsecond.1.symm,
      fun _ _ _ hfirst hsecond => hfirst.2.trans hsecond.2.symm⟩
  limited timeoutMs hrequest := by rw [hrequest]
  tokenLimited timeoutMs hrequest :=
    congrArg (fun q : Request => { q with timeoutMs }) hrequest
  bearer _ htoken := by rw [htoken]
  send halike hrequest := halike.send (fun _ _ => id) (congrArg Call.requestKey hrequest)
  sendToken halike hrequest := by
    obtain ⟨hnext, hreply⟩ :=
      halike.send (fun _ _ => id) (Call.requestKey_eq_of_concealBody hrequest)
    exact ⟨hnext, delivered_of_eq hreply⟩
  failed _ := rfl
  read houtcome := houtcome ▸ .refl (fun _ => ⟨rfl, rfl⟩) _
  recorded hrequest ctx startMs endMs response error := by rw [hrequest]
  tokenRecorded {_ _ o _} hrequest houtcome ctx startMs endMs hphase := by
    obtain rfl := houtcome
    cases o with
    | ok response => exact Call.callRecord_eq_of_auth hphase hrequest startMs endMs _ _
    | error e => exact Call.callRecord_eq_of_auth hphase hrequest startMs endMs _ _
  tokenAbandoned hrequest ctx startMs endMs hphase :=
    Call.callRecord_eq_of_auth hphase hrequest startMs endMs _ _

end Operation
end SupplierGateway
