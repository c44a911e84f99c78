import SupplierGateway.Proofs.Cache.CredentialText
import SupplierGateway.Proofs.Cache.Pairing
import SupplierGateway.Proofs.Operation.Requests

/-!
# Correspondences between two runs

The same operations may be carried out twice with different secrets: with other keys, with other
identities of a client, or over a supplier that issues other tokens.  A correspondence relates the
transports, requests, tokens and cache keys of two such runs, and has a view, which maps a record to
the part of it that does not depend on the secret.  Its laws say that the transport gives related
replies to related requests, and that the records of such calls have equal views.

* `Supplier.AsksForToken` — the requests to the address for tokens;
* `Correspondence` — the relations, with their laws;
* `Correspondence.pairing` — cached credentials that correspond, by key and by token;
* `Correspondence.RecordsAgree` — two calls leave records with equal views;
* `Correspondence.Calls` and `Correspondence.TokenCalls` — pending calls that correspond;
* `Correspondence.begin_calls` and `Correspondence.begin_tokenCalls` — the pending calls of requests
  that correspond.
-/

namespace SupplierGateway

/-- A request is posted to the token address of some endpoint. -/
def Supplier.AsksForToken (q : Http.Request) : Prop :=
  q.method = .post ∧ ∃ e : Endpoint, q.url = e.url "/auth/token"

namespace Operation

open Attempt (Agree)
open Audit (CallRecord)
open Cache (CachedCredential)
open Call (Emission Interceptor Pending Pipeline)
open Http (Delivery Outcome Request Transport)
open Supplier (AsksForToken IssuedToken)

/-- A cached credential is read back, unless the nanoseconds of its lifetime make too many
seconds. -/
theorem decode_credentialCodec (c : CachedCredential) :
    credentialCodec.decode c.json.compact =
      (Cache.Lifetime.normalise c.ttl.secs c.ttl.nanos).toOption.map fun ttl => { c with ttl } := by
  simp only [credentialCodec, Cache.Codec.ofJson, CachedCredential.ofText_compact]
  cases Cache.Lifetime.normalise c.ttl.secs c.ttl.nanos with
  | error f => rfl
  | ok ttl => rfl

/-- Two tokens are valid for the same time, and are tokens that correspond. -/
structure IssuedAlike (token : String → String → Prop) (t t' : IssuedToken) : Prop where
  token : token t.token t'.token
  lifetime : t.lifetimeSecs = t'.lifetimeSecs

/-- Two deliveries are outcomes that correspond, or the same crash. -/
inductive Delivered (outcome : Outcome → Outcome → Prop) : Delivery → Delivery → Prop
  | outcome {o o' : Outcome} (houtcome : outcome o o') :
      Delivered outcome (.outcome o) (.outcome o')
  | crash (text : String) : Delivered outcome (.crash text) (.crash text)

theorem Delivered.refl {outcome : Outcome → Outcome → Prop} (hrefl : ∀ o, outcome o o)
    (d : Delivery) : Delivered outcome d d := by
  cases d with
  | outcome o => exact .outcome (hrefl o)
  | crash text => exact .crash text

/-- Replies that are the same take the same time and are delivered as the same. -/
theorem delivered_of_eq {reply reply' : Http.Reply} (hreply : reply = reply') :
    reply.latency = reply'.latency ∧ Delivered Eq reply.delivery reply'.delivery := by
  subst hreply
  exact ⟨rfl, .refl (fun _ => rfl) _⟩

/-- Relations between the parts of two runs that keep the records equal through a view. -/
structure Correspondence where
  /-- The part of a record that is the same in both runs. -/
  view : CallRecord → CallRecord
  transport : Transport → Transport → Prop
  /-- Relates requests other than those for tokens. -/
  request : Request → Request → Prop
  tokenRequest : Request → Request → Prop
  /-- Relates the outcomes of token requests. -/
  issued : Outcome → Outcome → Prop
  token : String → String → Prop
  /-- Relates the keys under which tokens are cached. -/
  key : String → String → Prop
  /-- Cache keys correspond one to one. -/
  unique : Relator.BiUnique key
  /-- Requests that correspond do so with the same time limit. -/
  limited : ∀ {q q'} (timeoutMs : UInt64), request q q' →
    request { q with timeoutMs } { q' with timeoutMs }
  tokenLimited : ∀ {q q'} (timeoutMs : UInt64), tokenRequest q q' →
    tokenRequest { q with timeoutMs } { q' with timeoutMs }
  /-- A request corresponds to itself with a token that corresponds. -/
  bearer : ∀ {q s s'}, ¬ AsksForToken q → token s s' →
    request (q.withAuthorization (.bearer s)) (q.withAuthorization (.bearer s'))
  /-- Requests that correspond have equal replies. -/
  send : ∀ {t t' q q'}, transport t t' → request q q' →
    transport (t.send q).1 (t'.send q').1 ∧ (t.send q).2 = (t'.send q').2
  /-- Token requests that correspond have replies of the same latency and related outcomes. -/
  sendToken : ∀ {t t' q q'}, transport t t' → tokenRequest q q' →
    transport (t.send q).1 (t'.send q').1 ∧ (t.send q).2.latency = (t'.send q').2.latency ∧
      Delivered issued (t.send q).2.delivery (t'.send q').2.delivery
  /-- A transport error corresponds to itself. -/
  failed : ∀ e, issued (.error e) (.error e)
  /-- Related outcomes are read as related tokens, or as the same failure. -/
  read : ∀ {o o'}, issued o o' →
    Agree (IssuedAlike token) (Call.decoded readIssued (.outcome o))
      (Call.decoded readIssued (.outcome o'))
  /-- The records of requests that correspond have equal views. -/
  recorded : ∀ {q q'}, request q q' → ∀ ctx startMs endMs response error,
    view (Interceptor.callRecord ctx { request := q, clockMs := startMs } endMs response error) =
      view (Interceptor.callRecord ctx { request := q', clockMs := startMs } endMs response error)
  tokenRecorded : ∀ {q q' o o'}, tokenRequest q q' → issued o o' → ∀ ctx startMs endMs,
    ctx.phase = .auth →
      view (Interceptor.outcomeRecord ctx { request := q, clockMs := startMs } endMs o) =
        view (Interceptor.outcomeRecord ctx { request := q', clockMs := startMs } endMs o')
  tokenAbandoned : ∀ {q q'}, tokenRequest q q' → ∀ ctx startMs endMs, ctx.phase = .auth →
    view (Interceptor.abandonedRecord ctx { request := q, clockMs := startMs } endMs) =
      view (Interceptor.abandonedRecord ctx { request := q', clockMs := startMs } endMs)

namespace Correspondence

variable (rel : Correspondence)

/-- Cached credentials correspond by their keys, their tokens and the times for which they are
valid. -/
def pairing : Cache.Pairing CachedCredential where
  codec := credentialCodec
  key := rel.key
  value c c' := rel.token c.token c'.token ∧ c.ttl = c'.ttl
  unique := rel.unique
  written c c' halike := by
    obtain ⟨htoken, httl⟩ := halike
    refine ⟨c.json.compact, c'.json.compact, rfl, rfl, ?_⟩
    rw [decode_credentialCodec, decode_credentialCodec, ← httl]
    cases Cache.Lifetime.normalise c.ttl.secs c.ttl.nanos with
    | error f => exact .none
    | ok ttl => exact .some ⟨htoken, rfl⟩

/-- The records among two lists of emissions have equal views. -/
def RecordsAgree (es es' : List Emission) : Prop :=
  (Emission.records es).map rel.view = (Emission.records es').map rel.view

/-- Two pending calls have the same latency and the same result, and leave records with equal
views. -/
structure Calls (call call' : Pending) : Prop where
  latency : call.latency = call'.latency
  settle : ∀ {α : Type} (decode : String → Attempt α) (clockMs : Nat),
    rel.RecordsAgree (call.settle decode clockMs).1 (call'.settle decode clockMs).1 ∧
      (call.settle decode clockMs).2 = (call'.settle decode clockMs).2
  abandon : ∀ clockMs, rel.RecordsAgree (call.abandon clockMs) (call'.abandon clockMs)

/-- Two pending calls for tokens have the same latency and tokens that correspond as results, and
leave records with equal views. -/
structure TokenCalls (call call' : Pending) : Prop where
  latency : call.latency = call'.latency
  settle : ∀ clockMs,
    rel.RecordsAgree (call.settle readIssued clockMs).1 (call'.settle readIssued clockMs).1 ∧
      Agree (IssuedAlike rel.token) (call.settle readIssued clockMs).2
        (call'.settle readIssued clockMs).2

variable {rel} {t t' : Transport} {p : Pipeline}

theorem RecordsAgree.append {es es' fs fs' : List Emission} (hes : rel.RecordsAgree es es')
    (hfs : rel.RecordsAgree fs fs') : rel.RecordsAgree (es ++ fs) (es' ++ fs') := by
  unfold RecordsAgree Emission.records at *
  rw [List.filterMap_append, List.filterMap_append, List.map_append, List.map_append, hes, hfs]

/-- The records of one outcome of requests that correspond have equal views. -/
theorem view_outcomeRecord {q q' : Request} (hrequest : rel.request q q') (ctx : Call.Context)
    (startMs endMs : Nat) (o : Outcome) :
    rel.view (Interceptor.outcomeRecord ctx { request := q, clockMs := startMs } endMs o) =
      rel.view (Interceptor.outcomeRecord ctx { request := q', clockMs := startMs } endMs o) := by
  cases o with
  | ok response => exact rel.recorded hrequest ctx startMs endMs _ _
  | error e => exact rel.recorded hrequest ctx startMs endMs _ _

theorem recordsAgree_record {record record' : CallRecord}
    (hview : rel.view record = rel.view record') :
    rel.RecordsAgree [.record record] [.record record'] :=
  congrArg (fun record => [record]) hview

/-- Calls with requests that correspond leave transports, records and pending calls that
correspond. -/
theorem begin_calls (hstandard : p.interceptors = Interceptor.standard)
    (htransport : rel.transport t t') {request request' : Attempt Request}
    (hrequest : Agree rel.request request request') (clockMs : Nat) :
    rel.transport (Pending.begin p clockMs t request).1 (Pending.begin p clockMs t' request').1 ∧
      rel.RecordsAgree (Pending.begin p clockMs t request).2.1
        (Pending.begin p clockMs t' request').2.1 ∧
      rel.Calls (Pending.begin p clockMs t request).2.2
        (Pending.begin p clockMs t' request').2.2 := by
  cases hrequest with
  | failure f => exact ⟨htransport, rfl, rfl, fun _ _ => ⟨rfl, rfl⟩, fun _ => rfl⟩
  | crash text => exact ⟨htransport, rfl, rfl, fun _ _ => ⟨rfl, rfl⟩, fun _ => rfl⟩
  | @success q q' hrequest =>
      have hsent := rel.limited p.context.timeoutMs hrequest
      obtain ⟨hnext, hreply⟩ := rel.send htransport hsent
      rw [Pending.begin_standard hstandard, Pending.begin_standard hstandard]
      refine ⟨hnext, rfl, ?_⟩
      simp only [Pipeline.outgoing, ← hreply]
      generalize Call.withinDeadline _ _ = arrives
      obtain ⟨latency, d⟩ := arrives
      refine ⟨rfl, fun decode endMs => ?_, fun endMs => ?_⟩
      · cases d with
        | outcome o => exact ⟨recordsAgree_record (view_outcomeRecord hsent _ clockMs endMs o), rfl⟩
        | crash text => exact ⟨recordsAgree_record (rel.recorded hsent _ clockMs endMs _ _), rfl⟩
      · exact recordsAgree_record (rel.recorded hsent _ clockMs endMs _ _)

/-- Replies of the same latency and related deliveries are related after the deadline was applied to
both. -/
theorem withinDeadline_alike {reply reply' : Http.Reply} (hlatency : reply.latency = reply'.latency)
    (hdelivery : Delivered rel.issued reply.delivery reply'.delivery) (timeoutMs : Nat) :
    (Call.withinDeadline timeoutMs reply).1 = (Call.withinDeadline timeoutMs reply').1 ∧
      Delivered rel.issued (Call.withinDeadline timeoutMs reply).2
        (Call.withinDeadline timeoutMs reply').2 := by
  unfold Call.withinDeadline
  rw [← hlatency]
  split
  · exact ⟨rfl, hdelivery⟩
  · exact ⟨rfl, .outcome (rel.failed _)⟩

/-- Token calls with requests that correspond leave transports, records and pending calls that
correspond. -/
theorem begin_tokenCalls (hstandard : p.interceptors = Interceptor.standard)
    (hphase : p.context.phase = .auth) (htransport : rel.transport t t') {q q' : Request}
    (hrequest : rel.tokenRequest q q') (clockMs : Nat) :
    rel.transport (Pending.begin p clockMs t (.success q)).1
        (Pending.begin p clockMs t' (.success q')).1 ∧
      rel.RecordsAgree (Pending.begin p clockMs t (.success q)).2.1
        (Pending.begin p clockMs t' (.success q')).2.1 ∧
      rel.TokenCalls (Pending.begin p clockMs t (.success q)).2.2
        (Pending.begin p clockMs t' (.success q')).2.2 := by
  have hsent := rel.tokenLimited p.context.timeoutMs hrequest
  obtain ⟨hnext, hlatency, hdelivery⟩ := rel.sendToken htransport hsent
  rw [Pending.begin_standard hstandard, Pending.begin_standard hstandard]
  refine ⟨hnext, rfl, ?_⟩
  obtain ⟨hsame, halike⟩ := withinDeadline_alike hlatency hdelivery p.context.timeoutMs.toNat
  simp only [Pipeline.outgoing]
  generalize Call.withinDeadline _ _ = arrives at hsame halike
  generalize Call.withinDeadline _ _ = arrives' at hsame halike
  obtain ⟨latency, d⟩ := arrives
  obtain ⟨latency', d'⟩ := arrives'
  refine ⟨hsame, fun endMs => ?_⟩
  cases (show Delivered rel.issued d d' from halike) with
  | outcome houtcome =>
      exact ⟨recordsAgree_record (rel.tokenRecorded hsent houtcome _ clockMs endMs hphase),
        rel.read houtcome⟩
  | crash text =>
      exact ⟨recordsAgree_record (rel.tokenAbandoned hsent _ clockMs endMs hphase), .crash text⟩

end Correspondence
end Operation
end SupplierGateway
