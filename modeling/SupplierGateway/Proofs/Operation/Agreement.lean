import SupplierGateway.Proofs.Operation.Crashes
import SupplierGateway.Proofs.Operation.Records
import SupplierGateway.Proofs.Operation.Requests

/-!
# Ends of scripts are determined by the replies

When replies depend on the requests only, the calls of two runs of one script have the same results,
at any times and in any order in which they end.  So do the two runs, up to the times in their
records.  The delays of replies may differ from run to run, as long as no reply is in time in one
run and late in the other.

* `Audit.substance` — the records of calls other than token calls, without their times;
* `Http.Delayed` — two reply functions that differ in delays only;
* `Call.Completed.agree` and `SpreadEnd.agree` — single calls, and calls that are made at once;
* `Run.Alike` — runs that are equal up to the records of token calls and times;
* `Script.Closes.alike` — from runs that are alike a script ends in envelopes that are alike.

`sends` stands for the requests that may be sent.  No call is abandoned here, and no reply crashes:
the record of an abandoned call does not have its reply.
-/

namespace SupplierGateway

namespace Audit

/-- A record without its times. -/
def CallRecord.timeless (r : CallRecord) : CallRecord :=
  { r with request := { r.request with startedAt := { nanos := 0 } }, durationMs := 0 }

/-- The records of calls other than token calls, without their times. -/
def substance (records : List CallRecord) : List CallRecord :=
  (records.filter fun r => r.phase != .auth).map CallRecord.timeless

theorem substance_append (records more : List CallRecord) :
    substance (records ++ more) = substance records ++ substance more := by
  simp [substance]

/-- Records of calls for tokens are left out. -/
theorem substance_of_auth {records : List CallRecord} (hauth : ∀ r ∈ records, r.phase = .auth) :
    substance records = [] := by
  simpa [substance, List.filter_eq_nil_iff] using hauth

/-- Records that differ in times only have the same substance. -/
theorem substance_congr {records others : List CallRecord}
    (hsame : (records.map CallRecord.timeless).Perm (others.map CallRecord.timeless)) :
    (substance records).Perm (substance others) := by
  have htimeless : ∀ records : List CallRecord,
      substance records = (records.map CallRecord.timeless).filter fun r => r.phase != .auth := by
    intro records
    rw [List.filter_map]
    rfl
  rw [htimeless, htimeless]
  exact hsame.filter _

end Audit

namespace Http

/-- Two reply functions differ in delays only, and to a request that may be sent no reply is in time
in one of them and late in the other. -/
def Delayed (sends : Request → Prop) (reply reply' : Request → Reply) : Prop :=
  ∀ q, (reply q).delivery = (reply' q).delivery ∧
    (sends q → ((reply q).latency ≤ q.timeoutMs.toNat ↔ (reply' q).latency ≤ q.timeoutMs.toNat))

variable {sends : Request → Prop}

theorem Delayed.refl (sends : Request → Prop) (reply : Request → Reply) :
    Delayed sends reply reply :=
  fun _ => ⟨rfl, fun _ => .rfl⟩

theorem Delayed.answers {reply reply' : Request → Reply} (hdelayed : Delayed sends reply reply')
    (hcalm : ∀ q, (reply q).Answers) (q : Request) : (reply' q).Answers := by
  rw [Reply.Answers, ← (hdelayed q).1]
  exact hcalm q

end Http

namespace Call

open Audit (CallRecord)
open Http (Delayed Reply Request)

variable {α : Type} {sends : Request → Prop} {reply reply' : Request → Reply}

/-- The reply of the exchange is the one that a function gives for its request. -/
def Exchange.RepliedBy (reply : Request → Reply) (x : Exchange) : Prop := x.reply = reply x.request

theorem Exchange.RepliedBy.unique {x y : Exchange} (hx : x.RepliedBy reply) (hy : y.RepliedBy reply)
    (hrequest : x.request = y.request) : x = y := by
  obtain ⟨q, answer⟩ := x
  obtain ⟨q', answer'⟩ := y
  obtain rfl : q = q' := hrequest
  obtain rfl : answer = answer' := hx.trans hy.symm
  rfl

/-- Under the time limit of a request, replies that differ in delays only have the same delivery. -/
theorem Exchange.delivery_eq_of_delayed (hdelayed : Delayed sends reply reply') {x y : Exchange}
    (hsends : sends x.request) (hx : x.RepliedBy reply) (hy : y.RepliedBy reply')
    (hrequest : x.request = y.request) : x.delivery = y.delivery := by
  obtain ⟨q, answer⟩ := x
  obtain ⟨q', answer'⟩ := y
  obtain rfl : q = q' := hrequest
  obtain rfl : answer = reply q := hx
  obtain rfl : answer' = reply' q := hy
  obtain ⟨hdelivery, hintime⟩ := hdelayed q
  simp only [Exchange.delivery, withinDeadline, hintime hsends]
  split
  · exact hdelivery
  · rfl

/-- Records of one exchange differ in times only. -/
theorem timeless_outcomeRecord (ctx : Context) (q : Request) (startMs endMs startMs' endMs' : Nat)
    (o : Http.Outcome) :
    (Interceptor.outcomeRecord ctx { request := q, clockMs := startMs } endMs o).timeless =
      (Interceptor.outcomeRecord ctx { request := q, clockMs := startMs' } endMs' o).timeless := by
  cases o <;> rfl

/-- The results of one call in two runs are equal. -/
theorem Completed.agree (hdelayed : Delayed sends reply reply') (hcalm : ∀ q, (reply q).Answers)
    {p : Pipeline} {decode : String → Attempt α} {request : Attempt Request}
    {xs xs' : List Exchange} {rs rs' : List CallRecord} {a a' : Attempt α}
    (hcall : Completed p decode request xs rs a) (hcall' : Completed p decode request xs' rs' a')
    (hxs : ∀ x ∈ xs, sends x.request ∧ x.RepliedBy reply) (hxs' : ∀ x ∈ xs', x.RepliedBy reply') :
    a = a' ∧ rs.map CallRecord.timeless = rs'.map CallRecord.timeless := by
  obtain ⟨hsent, hrecorded⟩ := hcall
  obtain ⟨hsent', hrecorded'⟩ := hcall'
  cases hsent with
  | unsent f =>
      cases hsent' with
      | unsent => exact ⟨rfl, rfl⟩
  | crashed text =>
      cases hsent' with
      | crashed => exact ⟨rfl, rfl⟩
  | sent q x record hrequest _ =>
      cases hsent' with
      | sent _ x' record' hrequest' _ =>
          have hx := List.mem_singleton_self x
          have hx' := List.mem_singleton_self x'
          have hsame := hrequest.trans hrequest'.symm
          obtain ⟨hsends, hreplied⟩ := hxs x hx
          have hdelivery :=
            Exchange.delivery_eq_of_delayed hdelayed hsends hreplied (hxs' x' hx') hsame
          -- Since an outcome was delivered, both records are of it.
          obtain ⟨o, ho⟩ := Exchange.answered (x := x) (hreplied ▸ hcalm x.request)
          obtain ⟨startMs, endMs, hrecord⟩ :=
            hrecorded x hx o ho record (List.mem_singleton_self _)
          obtain ⟨startMs', endMs', hrecord'⟩ :=
            hrecorded' x' hx' o (hdelivery.symm.trans ho) record' (List.mem_singleton_self _)
          refine ⟨congrArg (decoded decode) hdelivery, ?_⟩
          rw [hrecord, hrecord', List.map_singleton, List.map_singleton, ← hsame,
            timeless_outcomeRecord p.context x.request startMs endMs startMs' endMs' o]

end Call

namespace Operation

open Audit (CallRecord substance)
open Call (Completed Exchange Pipeline)
open Http (Delayed Reply Request)

variable {α β π : Type} {sends : Request → Prop} {reply reply' : Request → Reply}

/-! ## Calls that are made at once -/

/-- The outcomes of a unit in two runs are equal. -/
theorem UnitEnd.agree (hdelayed : Delayed sends reply reply') (hcalm : ∀ q, (reply q).Answers)
    {p : Pipeline} {decode : String → Attempt α} {unit : Nat} {request : Attempt Request}
    {xs xs' : List Exchange} {rs rs' : List CallRecord} {outcome outcome' : Except Failure α}
    (hend : UnitEnd p decode false unit request xs rs outcome)
    (hend' : UnitEnd p decode false unit request xs' rs' outcome')
    (hxs : ∀ x ∈ xs, sends x.request ∧ x.RepliedBy reply) (hxs' : ∀ x ∈ xs', x.RepliedBy reply') :
    outcome = outcome' ∧ rs.map CallRecord.timeless = rs'.map CallRecord.timeless := by
  cases hend with
  | cancelled hfast => exact absurd hfast Bool.false_ne_true
  | settled _ _ a hcall =>
      cases hend' with
      | cancelled hfast => exact absurd hfast Bool.false_ne_true
      | settled _ _ a' hcall' =>
          obtain ⟨rfl, hrecords⟩ := hcall.agree hdelayed hcalm hcall' hxs hxs'
          exact ⟨rfl, hrecords⟩

/-- An exchange of a unit is one of the exchanges of all units. -/
theorem mem_of_mem_ofUnit {unit : Nat} {xs : List (Nat × Exchange)} {x : Exchange}
    (hx : x ∈ ofUnit unit xs) : x ∈ xs.map Prod.snd := by
  obtain ⟨entry, hentry, rfl⟩ := List.mem_map.mp hx
  exact List.mem_map_of_mem (List.mem_filter.mp hentry).1

/-- Calls that are made at once have the same outcomes in two runs, in the same order, and the same
records up to their order. -/
theorem SpreadEnd.agree (hdelayed : Delayed sends reply reply') (hcalm : ∀ q, (reply q).Answers)
    {p : Pipeline} {decode : String → Attempt α} {requests : List (Attempt Request)}
    {xs xs' : List (Nat × Exchange)} {rs rs' : List (Nat × CallRecord)}
    {outcomes outcomes' : List (Except Failure α)}
    (hend : SpreadEnd p decode false requests xs rs outcomes)
    (hend' : SpreadEnd p decode false requests xs' rs' outcomes')
    (hxs : ∀ x ∈ xs.map Prod.snd, sends x.request ∧ x.RepliedBy reply)
    (hxs' : ∀ x ∈ xs'.map Prod.snd, x.RepliedBy reply') :
    outcomes = outcomes' ∧
      ((rs.map Prod.snd).map CallRecord.timeless).Perm
        ((rs'.map Prod.snd).map CallRecord.timeless) := by
  have hunit : ∀ unit < requests.length, outcomes[unit]? = outcomes'[unit]? ∧
      (ofUnit unit rs).map CallRecord.timeless = (ofUnit unit rs').map CallRecord.timeless := by
    intro unit hunit
    have hrequest := List.getElem?_eq_getElem hunit
    have ho := List.getElem?_eq_getElem (hend.length_eq ▸ hunit)
    have ho' := List.getElem?_eq_getElem (hend'.length_eq ▸ hunit)
    obtain ⟨hsame, hrecords⟩ := (hend.unit unit _ _ hrequest ho).agree hdelayed hcalm
      (hend'.unit unit _ _ hrequest ho') (fun x hx => hxs x (mem_of_mem_ofUnit hx))
      fun x hx => hxs' x (mem_of_mem_ofUnit hx)
    rw [ho, ho', hsame]
    exact ⟨rfl, hrecords⟩
  constructor
  · refine List.ext_getElem? fun unit => ?_
    by_cases hlt : unit < requests.length
    · exact (hunit unit hlt).1
    · rw [List.getElem?_eq_none (hend.length_eq ▸ Nat.le_of_not_lt hlt),
        List.getElem?_eq_none (hend'.length_eq ▸ Nat.le_of_not_lt hlt)]
  · -- Unit by unit the records are the same, apart from times.
    have hperm := (flatMap_ofUnit_perm _ rs hend.record_lt).map CallRecord.timeless
    have hperm' := (flatMap_ofUnit_perm _ rs' hend'.record_lt).map CallRecord.timeless
    refine hperm.trans (.trans (.of_eq ?_) hperm'.symm)
    rw [List.map_flatMap, List.map_flatMap]
    exact List.flatMap_congr fun unit hmem => (hunit unit (List.mem_range.mp hmem)).2

/-! ## Runs and envelopes -/

/-- Runs that are equal up to the records of token calls, times and the order of records. -/
structure Run.Alike (r r' : Run) : Prop where
  context : r.context = r'.context
  authorization : r.authorization = r'.authorization
  errors : r.ledgers.errors = r'.ledgers.errors
  substance : (substance r.ledgers.calls.entries).Perm (substance r'.ledgers.calls.entries)

namespace Run.Alike

variable {r r' r'' : Run}

theorem symm (halike : r.Alike r') : r'.Alike r :=
  ⟨halike.context.symm, halike.authorization.symm, halike.errors.symm, halike.substance.symm⟩

theorem trans (halike : r.Alike r') (halike' : r'.Alike r'') : r.Alike r'' :=
  ⟨halike.context.trans halike'.context, halike.authorization.trans halike'.authorization,
    halike.errors.trans halike'.errors, halike.substance.trans halike'.substance⟩

theorem recordErrors (halike : r.Alike r') (fs : List Failure) :
    (r.recordErrors fs).Alike (r'.recordErrors fs) :=
  ⟨halike.context, halike.authorization, congrArg (·.addAll fs) halike.errors, halike.substance⟩

theorem recordError (halike : r.Alike r') (f : Failure) :
    (r.recordError f).Alike (r'.recordError f) :=
  halike.recordErrors [f]

theorem addRecords (halike : r.Alike r') {rs rs' : List CallRecord}
    (hrecords : (rs.map CallRecord.timeless).Perm (rs'.map CallRecord.timeless)) :
    (r.addRecords rs).Alike (r'.addRecords rs') := by
  refine ⟨halike.context, halike.authorization, halike.errors, ?_⟩
  show (Audit.substance (_ ++ rs)).Perm (Audit.substance (_ ++ rs'))
  rw [Audit.substance_append, Audit.substance_append]
  exact halike.substance.append (Audit.substance_congr hrecords)

theorem pipeline (halike : r.Alike r') (phase : Phase) : r.pipeline phase = r'.pipeline phase := by
  rw [Run.pipeline, halike.context]
  rfl

theorem authorized (halike : r.Alike r') : r.authorized = r'.authorized := by
  funext request
  rw [Run.authorized, halike.authorization]
  rfl

end Run.Alike

/-- Envelopes that are equal up to the records of token calls, times and the order of records. -/
structure Envelope.Alike (e e' : Envelope π) : Prop where
  payload : e.payload = e'.payload
  errors : e.errors = e'.errors
  substance : (substance e.supplierRequests).Perm (substance e'.supplierRequests)

theorem Envelope.Alike.symm {e e' : Envelope π} (halike : e.Alike e') : e'.Alike e :=
  ⟨halike.payload.symm, halike.errors.symm, halike.substance.symm⟩

theorem Envelope.Alike.trans {e e' e'' : Envelope π} (halike : e.Alike e')
    (halike' : e'.Alike e'') : e.Alike e'' :=
  ⟨halike.payload.trans halike'.payload, halike.errors.trans halike'.errors,
    halike.substance.trans halike'.substance⟩

theorem Run.Alike.envelope {r r' : Run} (halike : r.Alike r') (policy : Policy)
    (payload empty : π) :
    (r.envelope policy payload empty).Alike (r'.envelope policy payload empty) where
  payload := by
    have hdiscards : r.discards policy = r'.discards policy := by
      rw [Run.discards, halike.errors]
      rfl
    rw [Run.envelope, Run.envelope, hdiscards]
  errors := congrArg Audit.Ledger.entries halike.errors
  substance := halike.substance

/-! ## Scripts -/

/-- From runs that are alike a script, which does not authenticate, ends in envelopes that are
alike. -/
theorem Script.Closes.alike {P : Phase → Request → Prop} (hdelayed : Delayed sends reply reply')
    (hcalm : ∀ q, (reply q).Answers) {o : FanOut.Options} (hslow : o.failFast = false)
    {latest latest' : Nat} {script : Script (Envelope π)} (hcloses : script.Closes)
    (hasks : script.Asks P)
    {r r' after after' : Run} (halike : r.Alike r') {xs xs' : List Exchange} {env env' : Envelope π}
    (hends : script.Ends o latest r xs after (.ok env))
    (hends' : script.Ends o latest' r' xs' after' (.ok env'))
    (hxs : ∀ x ∈ xs, sends x.request ∧ x.RepliedBy reply) (hxs' : ∀ x ∈ xs', x.RepliedBy reply') :
    env.Alike env' := by
  induction hcloses generalizing r r' xs xs' with
  | report f entry rest _ ih =>
      cases hasks with
      | report _ _ _ hrest => exact ih hrest (halike.recordError f) hends hends' hxs hxs'
  | authenticate rest _ ih => cases hasks
  | call phase request decode rest _ ih =>
      cases hasks with
      | call _ _ _ _ _ hrest =>
          rw [Script.Ends] at hends hends'
          obtain ⟨ys, zs, rs, a, rfl, hcall, hend⟩ := hends
          obtain ⟨ys', zs', rs', a', rfl, hcall', hend'⟩ := hends'
          obtain ⟨hys, hzs⟩ := List.forall_mem_append.mp hxs
          obtain ⟨hys', hzs'⟩ := List.forall_mem_append.mp hxs'
          rw [← halike.pipeline, ← halike.authorized] at hcall'
          obtain ⟨rfl, hrecords⟩ := hcall.agree hdelayed hcalm hcall' hys hys'
          have hafter := halike.addRecords (.of_eq hrecords)
          cases a with
          | success a => exact ih _ (hrest _) hafter hend hend' hzs hzs'
          | failure f => exact ih _ (hrest _) (hafter.recordError f) hend hend' hzs hzs'
          | crash text => cases hend.2.2
  | fanOut phase requests decode rest _ ih =>
      cases hasks with
      | fanOut _ _ _ _ _ hrest =>
          rw [Script.Ends] at hends hends'
          obtain ⟨ys, zs, rs, outcomes, rfl, hspread, hend⟩ := hends
          obtain ⟨ys', zs', rs', outcomes', rfl, hspread', hend'⟩ := hends'
          obtain ⟨hys, hzs⟩ := List.forall_mem_append.mp hxs
          obtain ⟨hys', hzs'⟩ := List.forall_mem_append.mp hxs'
          rw [hslow] at hspread hspread'
          rw [← halike.pipeline, ← halike.authorized] at hspread'
          obtain ⟨rfl, hrecords⟩ := hspread.agree hdelayed hcalm hspread' hys hys'
          exact ih _ (hrest _) ((halike.addRecords hrecords).recordErrors _) hend hend' hzs hzs'
  | finish policy payload empty =>
      rw [Script.Ends, Script.Ends] at hends hends'
      obtain rfl := Except.ok.inj hends.2.2
      obtain rfl := Except.ok.inj hends'.2.2
      exact halike.envelope policy payload empty

end Operation
end SupplierGateway
