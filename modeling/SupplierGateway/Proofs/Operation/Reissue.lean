import SupplierGateway.Proofs.Call.Concealment
import SupplierGateway.Proofs.Http.Dependence
import SupplierGateway.Proofs.Operation.Correspondence

/-!
# Suppliers that issue other tokens

A supplier issues a token in the body of a reply.  Two suppliers may issue different tokens there,
and reply alike to everything else.  The bodies of such replies are recorded as they are.

* `Response.Reissues`, `Reply.Reissues` and `Outcome.Reissues` — only an issued token differs;
* `Transport.Reissues` — transports that differ in issued tokens, and `Transport.Reissues.send`, by
  which they stay so;
* `CallRecord.concealIssued` — a record without the body in which a token was issued.
-/

namespace SupplierGateway

open Attempt (Agree)
open Http (Method Reply Request Response Transport)
open Operation (Delivered IssuedAlike readIssued)
open Supplier (AsksForToken readToken)

namespace Http

/-- Two responses issue tokens that are valid for the same time. -/
structure Response.Reissues (response response' : Response) : Prop where
  status : response.status = response'.status
  headers : response.headers = response'.headers
  tokens : ∃ token token' seconds, readToken response.body = .ok ⟨token, seconds⟩ ∧
    readToken response'.body = .ok ⟨token', seconds⟩

/-- Two replies are the same, apart from a token that they issue. -/
inductive Reply.Reissues : Reply → Reply → Prop
  | same (reply : Reply) : Reissues reply reply
  | respond {response response' : Response} (hresponse : response.Reissues response') :
      Reissues (.respond response) (.respond response')
  | delay (ms : Nat) {reply reply' : Reply} (hreply : Reissues reply reply') :
      Reissues (.delay ms reply) (.delay ms reply')

/-- Two replies to a method and an address are the same, or the address is one for tokens and they
issue other tokens. -/
inductive Reply.ReissuesAt (key : Method × String) : Reply → Reply → Prop
  | same (reply : Reply) : ReissuesAt key reply reply
  | issued (e : Endpoint) (hkey : key = (.post, e.url "/auth/token")) {reply reply' : Reply}
      (hreply : Reissues reply reply') : ReissuesAt key reply reply'

/-- Two transports differ in the tokens that they issue.  Their replies do not depend on the tokens
that requests bear, and requests are addressed as they are. -/
structure Transport.Reissues (t t' : Transport) : Prop where
  repliesAlike : t.RepliesAlike (Request.conceal "authorization") Reply.ReissuesAt t'
  address : t.address = id

/-- Transports that differ in the tokens that they issue do so after each request, and reply alike
to requests that bear other tokens. -/
theorem Transport.Reissues.send {t t' : Transport} (hreissues : t.Reissues t') {q q' : Request}
    (hrequest : q.conceal "authorization" = q'.conceal "authorization") :
    (t.send q).1.Reissues (t'.send q').1 ∧
      Reply.ReissuesAt (Call.requestKey q) (t.send q).2 (t'.send q').2 := by
  obtain ⟨halike, hreply⟩ :=
    hreissues.repliesAlike.send (fun _ _ => Call.requestKey_eq_of_conceal) hrequest
  rw [hreissues.address] at hreply
  exact ⟨⟨halike, (Call.Pending.address_send t q).trans hreissues.address⟩, hreply⟩

/-- Outcomes that are the same, apart from an issued token. -/
inductive Outcome.Reissues : Outcome → Outcome → Prop
  | same (o : Outcome) : Reissues o o
  | ok {response response' : Response} (hresponse : response.Reissues response') :
      Reissues (.ok response) (.ok response')

/-- Replies that issue no token are the same. -/
theorem Reply.ReissuesAt.eq {q : Request} (hother : ¬ AsksForToken q) {reply reply' : Reply}
    (hreply : ReissuesAt (Call.requestKey q) reply reply') : reply = reply' := by
  cases hreply with
  | same reply => rfl
  | issued e hkey hreply =>
      obtain ⟨hmethod, hurl⟩ := Prod.mk.inj hkey
      exact absurd ⟨hmethod, e, hurl⟩ hother

theorem Reply.ReissuesAt.reissues {key : Method × String} {reply reply' : Reply}
    (hreply : ReissuesAt key reply reply') : reply.Reissues reply' := by
  cases hreply with
  | same reply => exact .same reply
  | issued e hkey hreply => exact hreply

/-- Replies that differ in an issued token have the same latency and outcomes that differ in it. -/
theorem Reply.Reissues.delivered {reply reply' : Reply} (hreply : reply.Reissues reply') :
    reply.latency = reply'.latency ∧
      Delivered Outcome.Reissues reply.delivery reply'.delivery := by
  induction hreply with
  | same reply => exact ⟨rfl, .refl .same _⟩
  | respond hresponse => exact ⟨rfl, .outcome (.ok hresponse)⟩
  | delay ms _ ih => exact ⟨congrArg (ms + ·) ih.1, ih.2⟩

/-- Tokens that are valid for the same time are read, or the call fails in the same way. -/
theorem Outcome.Reissues.read {o o' : Outcome} (houtcome : Outcome.Reissues o o') :
    Agree (IssuedAlike fun _ _ => True) (Call.decoded readIssued (.outcome o))
      (Call.decoded readIssued (.outcome o')) := by
  cases houtcome with
  | same o => exact .refl (fun _ => ⟨trivial, rfl⟩) _
  | @ok response response' hresponse =>
      obtain ⟨hstatus, -, token, token', seconds, hbody, hbody'⟩ := hresponse
      have hclassify : classify (.ok response') =
          if response.isSuccess then .ok response' else .error (.ofStatus response.status) := by
        rw [classify, Response.isSuccess, Response.isSuccess, hstatus]
      rw [Call.decoded, Call.decoded, Call.response, Call.response, hclassify, classify]
      cases response.isSuccess with
      | true =>
          simp only [if_true, Attempt.ofExcept, Attempt.bind, readIssued, hbody, hbody']
          exact .success ⟨trivial, rfl⟩
      | false => exact .failure _

/-- A transport that gets other routes issues other tokens, if the routes do. -/
theorem reissues_scripted {routes routes' : List Route}
    (hroutes : List.Forall₂ (Route.RepliesAlike Reply.ReissuesAt) routes routes') :
    ({ routes } : Transport).Reissues { routes := routes' } where
  repliesAlike :=
    { routes := hroutes
      otherwise := fun _ _ q q' _ haspect => by
        obtain ⟨hmethod, hurl⟩ := Prod.mk.inj (Call.requestKey_eq_of_conceal haspect)
        simp only [unreachable, hmethod, hurl]
        exact .same _
      address := fun _ _ haspect => haspect
      log := rfl }
  address := rfl

end Http

namespace Audit

/-- A response without its body, if that is an issued token. -/
def RecordedResponse.concealIssued (response : RecordedResponse) : RecordedResponse :=
  match readToken response.body with
  | .ok _ => { response with body := redacted }
  | .error _ => response

/-- A record without the token that was issued, if it is the record of a token call. -/
def CallRecord.concealIssued (r : CallRecord) : CallRecord :=
  if r.phase = .auth then { r with response := r.response.map RecordedResponse.concealIssued }
  else r

/-- Without the tokens the responses that issued them are recorded alike. -/
theorem concealIssued_of_reissues {response response' : Response}
    (hresponse : response.Reissues response') :
    (RecordedResponse.of response).concealIssued =
      (RecordedResponse.of response').concealIssued := by
  obtain ⟨hstatus, hheaders, token, token', seconds, hbody, hbody'⟩ := hresponse
  simp only [RecordedResponse.concealIssued, RecordedResponse.of, hbody, hbody', hstatus, hheaders]

end Audit

end SupplierGateway
