import Mathlib.Data.List.Forall2
import SupplierGateway.Proofs.Operation.SpreadUnits

/-!
# Every exchange is recorded once

The records that a script leaves are those of its exchanges, one for each, for any end of the
script.

* `Context.Records` — a record is one that an exchange of an operation may leave;
* `Audited` — records and exchanges correspond to each other, up to their order;
* `Script.Ends.adds` — the records that a script adds to its run are those of its exchanges;
* `Script.Closes` — a script ends in an envelope that is made at its very end, and
  `Script.Closes.envelope` states its contents.

A token call that crashes is the exception: the operation crashes with it, and there is no envelope.
-/

namespace SupplierGateway
namespace Operation

open Audit (CallRecord)
open Call (Exchange Pipeline Undertaken recordKey requestKey)
open Http (Request)

variable {α β π : Type}

/-- A record is one that an exchange of the operation may leave in one of the phases. -/
def Context.Records (c : Context) (x : Exchange) (record : CallRecord) : Prop :=
  ∃ phase request, x.request = (c.derive phase).pipeline.outgoing request ∧
    x.RecordedAs (c.derive phase).pipeline.context record

/-- There is one record for each exchange, in any order. -/
def Audited (c : Context) (xs : List Exchange) (rs : List CallRecord) : Prop :=
  ∃ rs', List.Forall₂ c.Records xs rs' ∧ rs'.Perm rs

namespace Audited

variable {c : Context} {xs ys : List Exchange} {rs ws : List CallRecord}

theorem nil (c : Context) : Audited c [] [] := ⟨[], .nil, .nil⟩

theorem append (hfirst : Audited c xs rs) (hsecond : Audited c ys ws) :
    Audited c (xs ++ ys) (rs ++ ws) := by
  obtain ⟨rs', hxs, hrs⟩ := hfirst
  obtain ⟨ws', hys, hws⟩ := hsecond
  exact ⟨rs' ++ ws', List.rel_append hxs hys, hrs.append hws⟩

theorem perm (haudited : Audited c xs rs) (hxs : ys.Perm xs) (hrs : rs.Perm ws) :
    Audited c ys ws := by
  obtain ⟨rs', hrecords, hperm⟩ := haudited
  obtain ⟨ws', hrecords', hperm'⟩ := List.perm_comp_forall₂ hxs hrecords
  exact ⟨ws', hrecords', (hperm'.trans hperm).trans hrs⟩

theorem keys (haudited : Audited c xs rs) :
    (rs.map recordKey).Perm (xs.map fun x => requestKey x.request) := by
  obtain ⟨rs', hrecords, hperm⟩ := haudited
  refine (hperm.map recordKey).symm.trans (.of_eq ?_)
  clear hperm
  induction hrecords with
  | nil => rfl
  | cons hrecord _ ih =>
      obtain ⟨phase, request, -, hrecorded⟩ := hrecord
      rw [List.map_cons, List.map_cons, hrecorded.key, ih]

theorem response_xor_error (haudited : Audited c xs rs) {record : CallRecord}
    (hrecord : record ∈ rs) : record.response.isSome = !record.error.isSome := by
  obtain ⟨rs', hrecords, hperm⟩ := haudited
  have hmem := hperm.mem_iff.mpr hrecord
  clear hperm
  induction hrecords with
  | nil => exact absurd hmem List.not_mem_nil
  | cons hfirst _ ih =>
      rcases List.mem_cons.mp hmem with rfl | hrest
      · obtain ⟨phase, request, -, hrecorded⟩ := hfirst
        exact hrecorded.response_xor_error
      · exact ih hrest

end Audited

/-! ## Single calls -/

theorem audited_of_undertaken {c : Context} {phase : Phase} {decode : String → Attempt α}
    {request : Attempt Request} {xs : List Exchange} {rs : List CallRecord} {a : Attempt α}
    (hcall : Undertaken (c.derive phase).pipeline decode request xs rs a) : Audited c xs rs := by
  cases hcall with
  | unsent f => exact .nil c
  | crashed text => exact .nil c
  | sent q x record hrequest hrecord =>
      exact ⟨[record], .cons ⟨phase, q, hrequest, hrecord⟩ .nil, .refl _⟩

/-! ## Calls that are made at once -/

/-- A call among several leaves one record for each exchange, also when it is abandoned. -/
theorem audited_of_unitEnd {c : Context} {phase : Phase} {decode : String → Attempt α}
    {failFast : Bool} {unit : Nat} {request : Attempt Request} {xs : List Exchange}
    {rs : List CallRecord} {o : Except Failure α}
    (hend : UnitEnd (c.derive phase).pipeline decode failFast unit request xs rs o) :
    Audited c xs rs := by
  cases hend with
  | settled _ _ a hcall => exact audited_of_undertaken hcall.undertaken
  | cancelled hfast _ _ hrecorded hrequests =>
      refine ⟨rs, ?_, .refl _⟩
      induction hrecorded with
      | nil => exact .nil
      | cons hrecord _ ih =>
          obtain ⟨q, -, hrequest⟩ := hrequests _ List.mem_cons_self
          exact .cons ⟨phase, q, hrequest, hrecord⟩
            (ih fun x hx => hrequests x (List.mem_cons_of_mem _ hx))

/-- Calls that are made at once leave one record for each exchange. -/
theorem audited_of_spreadEnd {c : Context} {phase : Phase} {decode : String → Attempt α}
    {failFast : Bool} {requests : List (Attempt Request)} {xs : List (Nat × Exchange)}
    {rs : List (Nat × CallRecord)} {outcomes : List (Except Failure α)}
    (hend : SpreadEnd (c.derive phase).pipeline decode failFast requests xs rs outcomes) :
    Audited c (xs.map Prod.snd) (rs.map Prod.snd) := by
  have hunits : ∀ units : List Nat, (∀ unit ∈ units, unit < requests.length) →
      Audited c (units.flatMap fun unit => ofUnit unit xs)
        (units.flatMap fun unit => ofUnit unit rs) := by
    intro units hlt
    induction units with
    | nil => exact .nil c
    | cons unit units ih =>
        have hunit := hlt unit List.mem_cons_self
        have hcall := hend.unit unit _ _ (List.getElem?_eq_getElem hunit)
          (List.getElem?_eq_getElem (hend.length_eq ▸ hunit))
        exact (audited_of_unitEnd hcall).append
          (ih fun other hother => hlt other (List.mem_cons_of_mem unit hother))
  exact (hunits (List.range requests.length) fun unit hunit => List.mem_range.mp hunit).perm
    (flatMap_ofUnit_perm _ xs hend.exchange_lt)
    (flatMap_ofUnit_perm _ rs hend.record_lt).symm

/-! ## Scripts -/

/-- From one moment of a run to a later one, the records of some exchanges were added. -/
structure Run.Adds (r : Run) (xs : List Exchange) (r' : Run) : Prop where
  context_eq : r'.context = r.context
  records : ∃ rs, r'.ledgers.calls.entries = r.ledgers.calls.entries ++ rs ∧
    Audited r.context xs rs

namespace Run

theorem Adds.refl (r : Run) : r.Adds [] r :=
  ⟨rfl, [], (List.append_nil _).symm, .nil _⟩

theorem Adds.trans {r after r' : Run} {ys zs : List Exchange} (hfirst : r.Adds ys after)
    (hsecond : after.Adds zs r') : r.Adds (ys ++ zs) r' := by
  obtain ⟨rs, hrs, hys⟩ := hfirst.records
  obtain ⟨ws, hws, hzs⟩ := hsecond.records
  refine ⟨hsecond.context_eq.trans hfirst.context_eq, rs ++ ws, ?_, ?_⟩
  · rw [hws, hrs, List.append_assoc]
  · rw [hfirst.context_eq] at hzs
    exact hys.append hzs

theorem adds_addRecords (r : Run) {xs : List Exchange} {rs : List CallRecord}
    (haudited : Audited r.context xs rs) : r.Adds xs (r.addRecords rs) :=
  ⟨rfl, rs, rfl, haudited⟩

end Run

/-- Authentication that does not crash adds the records of its exchanges. -/
theorem Authenticates.adds {latest : Nat} {r after : Run} {xs : List Exchange} {a : Attempt Unit}
    (hauth : Authenticates latest r xs a after) (hlasts : ∀ text, a ≠ .crash text) :
    r.Adds xs after := by
  cases hauth with
  | notRequired hcredential => exact .refl r
  | cached hcredential c => exact ⟨rfl, [], (List.append_nil _).symm, .nil _⟩
  | issued hcredential xs rs t hcall => exact ⟨rfl, rs, rfl, audited_of_undertaken hcall⟩
  | refused hcredential xs rs f hcall => exact ⟨rfl, rs, rfl, audited_of_undertaken hcall⟩
  | crashed hcredential xs rs text hcall => exact absurd rfl (hlasts text)
  | unstorable hcredential xs rs t hcall hbeyond => exact absurd rfl (hlasts _)

/-- A script that has a result adds the records of its exchanges. -/
theorem Script.Ends.adds {o : FanOut.Options} {latest : Nat} {script : Script β} {r r' : Run}
    {xs : List Exchange} {b : β} (hends : script.Ends o latest r xs r' (.ok b)) : r.Adds xs r' := by
  induction script generalizing r xs with
  | done result =>
      rw [Script.Ends] at hends
      obtain ⟨rfl, rfl, -⟩ := hends
      exact .refl _
  | report f entry rest ih =>
      have hrest := ih hends
      exact ⟨hrest.context_eq, hrest.records⟩
  | authenticate rest ih =>
      rw [Script.Ends] at hends
      obtain ⟨ys, zs, a, after, rfl, hauth, hend⟩ := hends
      cases a with
      | success _ => exact (hauth.adds nofun).trans (ih _ hend)
      | failure f => exact (hauth.adds nofun).trans (ih _ hend)
      | crash text => exact nomatch hend.2.2
  | call phase request decode rest ih =>
      rw [Script.Ends] at hends
      obtain ⟨ys, zs, rs, a, rfl, hcall, hend⟩ := hends
      have hadds := r.adds_addRecords (audited_of_undertaken hcall.undertaken)
      cases a with
      | success x => exact hadds.trans (ih _ hend)
      | failure f =>
          have hrest := ih _ hend
          exact hadds.trans ⟨hrest.context_eq, hrest.records⟩
      | crash text => exact nomatch hend.2.2
  | fanOut phase requests decode rest ih =>
      rw [Script.Ends] at hends
      obtain ⟨ys, zs, rs, outcomes, rfl, hspread, hend⟩ := hends
      have hrest := ih _ hend
      exact (r.adds_addRecords (audited_of_spreadEnd hspread)).trans
        ⟨hrest.context_eq, hrest.records⟩
  | finish policy payload empty rest ih => exact ih _ hends

/-- A script ends in an envelope that is made at its very end, for any replies. -/
inductive Script.Closes : Script (Envelope π) → Prop
  | report (f : Failure) (entry : Option LogEntry) (rest : Script (Envelope π))
      (hrest : rest.Closes) : Closes (.report f entry rest)
  | authenticate (rest : Except Failure Unit → Script (Envelope π))
      (hrest : ∀ a, (rest a).Closes) : Closes (.authenticate rest)
  | call {α : Type} (phase : Phase) (request : Attempt Request) (decode : String → Attempt α)
      (rest : Option α → Script (Envelope π)) (hrest : ∀ a, (rest a).Closes) :
      Closes (.call phase request decode rest)
  | fanOut {α : Type} (phase : Phase) (requests : List (Attempt Request))
      (decode : String → Attempt α) (rest : List α → Script (Envelope π))
      (hrest : ∀ values, (rest values).Closes) : Closes (.fanOut phase requests decode rest)
  | finish (policy : Policy) (payload empty : π) : Closes (.finish policy payload empty .done)

/-- The envelope has the records and failures of the run at the end. -/
theorem Script.Closes.envelope {o : FanOut.Options} {latest : Nat} {script : Script (Envelope π)}
    (hcloses : script.Closes) {r r' : Run} {xs : List Exchange} {env : Envelope π}
    (hends : script.Ends o latest r xs r' (.ok env)) :
    env.supplierRequests = r'.ledgers.calls.entries ∧ env.errors = r'.ledgers.errors.entries := by
  induction hcloses generalizing r xs with
  | report f entry rest hrest ih => exact ih hends
  | authenticate rest hrest ih =>
      rw [Script.Ends] at hends
      obtain ⟨ys, zs, a, after, -, hauth, hend⟩ := hends
      cases a with
      | success _ => exact ih _ hend
      | failure f => exact ih _ hend
      | crash text => exact nomatch hend.2.2
  | call phase request decode rest hrest ih =>
      rw [Script.Ends] at hends
      obtain ⟨ys, zs, rs, a, -, hcall, hend⟩ := hends
      cases a with
      | success x => exact ih _ hend
      | failure f => exact ih _ hend
      | crash text => exact nomatch hend.2.2
  | fanOut phase requests decode rest hrest ih =>
      rw [Script.Ends] at hends
      obtain ⟨ys, zs, rs, outcomes, -, hspread, hend⟩ := hends
      exact ih _ hend
  | finish policy payload empty =>
      rw [Script.Ends, Script.Ends] at hends
      obtain ⟨-, rfl, henv⟩ := hends
      obtain rfl := Except.ok.inj henv
      exact ⟨rfl, rfl⟩

end Operation
end SupplierGateway
