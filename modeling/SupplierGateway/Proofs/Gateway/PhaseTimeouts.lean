import SupplierGateway.Proofs.Gateway.LoneOperations
import SupplierGateway.Proofs.Operation.Allowances

/-!
# Each phase has its own budget

An operation makes its calls in phases, and the time limit of each call is the timeout of its own
phase.  The latency of a call does not reduce the time limits of later ones.  So answers depend on
the delays of replies only where a reply exceeds its time limit.

* `Service.tags` and `inPhases_script` — the phases of the operations;
* `Budgeted` — the timeouts of the requests of an operation, at any moment and in its answer;
* `budgeted` — every operation is budgeted after any events;
* `each_phase_has_its_own_budget` — besides, answers do not depend on delays within the time limits;
* `slower_in_time` — a token call that takes longer within its time limit.
-/

namespace SupplierGateway
namespace Service

open Audit (CallRecord)
open Call (Exchange)
open Http (Reply Request)
open Operation (Envelope Event Ordered Resources Run Script Task World)

variable {g : Gateway} {s : Service}

/-! ## Phases -/

/-- The phases in which an operation makes calls, one after another. -/
def tags : Service → List Phase
  | locations => [.auth, .locations]
  | rates _ => [.auth, .rates, .quote]
  | book _ => [.auth, .booking]
  | status _ => [.auth, .bookingStatus]
  | cancel _ => [.auth, .cancel]

theorem inPhases_close (s : Service) (payload : Payload) (tags : List Phase) :
    (s.close payload).InPhases tags :=
  .finish _ _ _ _ fun env => .done env

theorem inPhases_afterFirstPage (g : Gateway) (first : Rental.LocationPage) :
    (afterFirstPage g first).InPhases [.locations] := by
  unfold afterFirstPage
  split
  · exact .report _ _ _ (inPhases_close ..)
  · split
    · exact inPhases_close ..
    · exact .fanOut List.suffix_rfl _ _ _ fun pages => inPhases_close ..

theorem inPhases_afterAvailability (g : Gateway) (r : Rental.RateRequest)
    (candidates : List Rental.VehicleCandidate) :
    (afterAvailability g r candidates).InPhases [.rates, .quote] := by
  unfold afterAvailability
  split
  · exact inPhases_close ..
  · exact .fanOut (List.suffix_cons _ _) _ _ _ fun quotes => inPhases_close ..

/-- After authentication an operation makes its calls in its own phases. -/
theorem inPhases_mainCall (g : Gateway) (s : Service) : (s.mainCall g).InPhases s.tags.tail := by
  cases s with
  | locations =>
      refine .call List.suffix_rfl _ _ _ fun first => ?_
      cases first with
      | none => exact inPhases_close ..
      | some first => exact inPhases_afterFirstPage g first
  | rates r => exact .call List.suffix_rfl _ _ _ fun candidates => inPhases_afterAvailability ..
  | book r => exact .call List.suffix_rfl _ _ _ fun c => inPhases_close ..
  | status reference => exact .call List.suffix_rfl _ _ _ fun c => inPhases_close ..
  | cancel reference => exact .call List.suffix_rfl _ _ _ fun c => inPhases_close ..

/-- An operation makes its calls in its phases, and authentication is the first. -/
theorem inPhases_script (g : Gateway) (s : Service) : (s.script g).InPhases s.tags := by
  have hsuffix : .auth :: s.tags.tail <:+ s.tags := by cases s <;> exact List.suffix_rfl
  refine .authenticate hsuffix _ fun a => ?_
  cases a with
  | error f => exact inPhases_close ..
  | ok _ => exact inPhases_mainCall g s

/-! ## Budgets -/

/-- The requests of an operation carry the timeouts of their phases. -/
structure Budgeted (g : Gateway) (s : Service) (xs : List Exchange)
    (result? : Option (Except String (Envelope Payload))) : Prop where
  /-- Each request carries the timeout of one of the phases, and the phases come in their order. -/
  requests : ∃ phases, Ordered s.tags phases ∧
    List.Forall₂ (fun x phase => x.request.timeoutMs = g.timeouts.resolve phase) xs phases
  /-- When the operation has answered, there is one record for each request, and the request carries
  the timeout of the phase of its record. -/
  records : ∀ env, result? = some (.ok env) → ∃ records,
    records.Perm env.supplierRequests ∧ Ordered s.tags (records.map CallRecord.phase) ∧
    List.Forall₂ (fun x record =>
      x.RecordedAs (g.context record.phase).pipeline.context record ∧
        x.request.timeoutMs = g.timeouts.resolve record.phase) xs records

/-- The phase of a record that an exchange of an operation leaves is one whose timeout the exchange
has. -/
theorem timeoutMs_of_records {x : Exchange} {record : CallRecord}
    (hrecord : (g.context s.phase).Records x record) :
    x.RecordedAs (g.context record.phase).pipeline.context record ∧
      x.request.timeoutMs = g.timeouts.resolve record.phase := by
  refine ⟨?_, Operation.Context.timeoutMs_of_sends hrecord.sends⟩
  obtain ⟨phase, q, -, hrecorded⟩ := hrecord
  have hphase : record.phase = phase := hrecorded.phase
  exact hphase ▸ hrecorded

/-- For any supplier and in any interleaving with other operations, an operation is budgeted. -/
theorem budgeted {r : Resources} (haddress : r.transport.address = id)
    {orders : List (Gateway × Nat × Service)} {who cache : Nat}
    (horder : orders[who]? = some (g, cache, s)) (events : List Event) :
    Budgeted g s ((opening r orders).exchangesOf who events)
      (((opening r orders).run events).tasks[who]?.bind Task.result?) where
  requests := by
    have hget : (opening r orders).tasks[who]? = some (s.task g cache) := by
      rw [tasks_opening, List.getElem?_map, horder]
      rfl
    have haddress' : (opening r orders).resources.transport.address = id := by
      rw [transport_opening]
      exact haddress
    obtain ⟨t, -, hpath⟩ := World.path_run haddress' hget events
    obtain ⟨phases, hsends, hordered⟩ := Task.sends_of_path hpath (inPhases_script g s)
    exact ⟨phases, hordered,
      hsends.imp fun x phase hsent => Operation.Context.timeoutMs_of_sends hsent⟩
  records env hresult := by
    obtain ⟨r', hends⟩ := ends_of_result haddress horder hresult
    obtain ⟨-, records, hrecords, records', hmatched, hperm, hordered⟩ :=
      (inPhases_script g s).tags hends
    refine ⟨records', ?_, hordered, hmatched.imp fun x record => timeoutMs_of_records⟩
    rw [((closes_script g s).envelope hends).1, hrecords]
    exact hperm

/-- Each phase has its own budget.  For any timeouts and any supplier, and in any interleaving with
other operations, every request of an operation carries the timeout of the phase of its own record.
If replies depend on the requests only, no reply crashes and fail-fast is off, an operation answers
with the same payload and the same errors when replies take longer or shorter, as long as each stays
on the same side of the timeout of its request.  This holds for an operation without others, for any
content of its cache, and for one among others that share caches which were empty in the beginning,
for any failures of stores.  Operations end in fair and in lively schedules, respectively. -/
theorem each_phase_has_its_own_budget (g : Gateway) (s : Service) :
    (∀ (r : Resources), r.transport.address = id →
      ∀ (orders : List (Gateway × Nat × Service)) (who cache : Nat),
      orders[who]? = some (g, cache, s) → ∀ events,
        Budgeted g s ((opening r orders).exchangesOf who events)
          (((opening r orders).run events).tasks[who]?.bind Task.result?)) ∧
    ∀ (reply reply' : Request → Reply), Http.Delayed (MaySend g s) reply reply' →
      (∀ q, (reply q).Answers) → g.fanOut.failFast = false →
      (∀ (first : Solitude reply g s) (second : Solitude reply' g s), first.cache = second.cache →
        (first.cache.locks.Idle (Cache.key g.endpoint g.credential) →
          ∀ schedule, first.world.Fair 0 schedule →
            ∃ n result, first.result? ((List.range n).map schedule) = some result) ∧
        ∀ events events', first.world.lookedAt? 0 events = second.world.lookedAt? 0 events' →
          first.Admits events → second.Admits events' → ∀ result result',
          first.result? events = some result → second.result? events' = some result' →
            ∃ env env', result = .ok env ∧ result' = .ok env' ∧ env.Alike env') ∧
      ∀ (first : Setup reply g s) (second : Setup reply' g s),
        (∀ schedule, first.world.Lively schedule →
          ∃ n result, first.result? ((List.range n).map schedule) = some result) ∧
        ∀ events events', first.Admits events → second.Admits events' → ∀ result result',
          first.result? events = some result → second.result? events' = some result' →
            ∃ env env', result = .ok env ∧ result' = .ok env' ∧ env.Alike env' := by
  refine ⟨fun r haddress orders who cache horder events => budgeted haddress horder events, ?_⟩
  intro reply reply' hdelayed hcalm hslow
  refine ⟨fun first second hcache => ⟨fun hidle schedule => first.exists_result hidle, ?_⟩,
    fun first second => ⟨fun schedule => first.exists_result, ?_⟩⟩
  · intro events events' hlook hfirst hsecond result result' hresult hresult'
    exact first.agree_of_delayed hdelayed hcalm hslow second hcache hlook hfirst hsecond hresult
      hresult'
  · intro events events' hfirst hsecond result result' hresult hresult'
    exact first.agree_of_delayed hdelayed hcalm hslow second hfirst hsecond hresult hresult'

/-! ## A slow token call -/

/-- A gateway whose timeout for token calls is longer than for others. -/
def patientGateway : Gateway :=
  { clientGateway with timeouts := { Timeouts.withPhase {} .auth 50 with default := 30 } }

/-- A supplier that issues a token after a delay. -/
def slowToken (ms : Nat) (q : Request) : Reply :=
  if q.method = .post then .delay ms (steady q) else steady q

/-- The state of a booking is asked for, with an empty cache. -/
def slowly (ms : Nat) : Solitude (slowToken ms) patientGateway (status "B1") where
  resources := { transport.otherwise := fun _ => slowToken ms }
  number := 0
  address := rfl
  memoryless := Http.Transport.memoryless_of_rule _

/-- The token call takes the given time. -/
def tokenAfter (ms : Nat) : List Event := tokenFirst.take 2 ++ .wait ms :: tokenFirst.drop 2

/-- After 20 milliseconds as well as after 40 the token is in time, although 40 exceed the timeout
of the other phases. -/
theorem delayed_slowToken :
    Http.Delayed (MaySend patientGateway (status "B1")) (slowToken 20) (slowToken 40) := by
  intro q
  constructor
  · unfold slowToken
    split <;> rfl
  · intro hsends
    cases hsends with
    | token asked hbuilt =>
        have hintime : 20 + 0 ≤ (50 : UInt64).toNat ↔ 40 + 0 ≤ (50 : UInt64).toNat := by decide
        unfold slowToken
        split
        · exact hintime
        · exact .rfl
    | main phase z asked _ hasked hcarries _ =>
        cases hasked with
        | status _ _ hbuilt =>
            have hmethod : q.method = .get :=
              hcarries.method.trans (Supplier.aboutBooking_ok hbuilt).2.1
            simp [slowToken, hmethod]

theorem admits_slowly {ms : Nat}
    (hlifetime : ((patientGateway.context .auth).tokenAnswer (slowToken ms)).map
      Supplier.IssuedToken.lifetimeSecs = .success 300)
    (hclock : ((slowly ms).world.run (tokenAfter ms)).resources.clockMs = ms) (hms : ms ≤ 40) :
    (slowly ms).Admits (tokenAfter ms) where
  quiet number backend := by simp [tokenAfter, tokenFirst]
  lifetimes t hanswer hbeyond := by
    rw [hanswer] at hlifetime
    rw [hclock, Attempt.success.inj hlifetime] at hbeyond
    exact absurd (hbeyond.mono hms) (by unfold Cache.BeyondClock; decide)

/-- A token call that takes longer does not reduce the timeout of the call after it, and the answer
is the same. -/
theorem slower_in_time :
    ((slowly 20).world.exchangesOf 0 (tokenAfter 20)).map (fun x => x.request.timeoutMs) = [50, 30] ∧
    ((slowly 40).world.exchangesOf 0 (tokenAfter 40)).map (fun x => x.request.timeoutMs) = [50, 30] ∧
    Budgeted patientGateway (status "B1") ((slowly 40).world.exchangesOf 0 (tokenAfter 40))
      ((slowly 40).result? (tokenAfter 40)) ∧
    ∃ env env', (slowly 20).result? (tokenAfter 20) = some (.ok env) ∧
      (slowly 40).result? (tokenAfter 40) = some (.ok env') ∧ env.Alike env' := by
  obtain ⟨hbudget, hagree⟩ := each_phase_has_its_own_budget patientGateway (status "B1")
  refine ⟨by decide +kernel, by decide +kernel,
    hbudget _ rfl [(patientGateway, 0, status "B1")] 0 0 rfl _, ?_⟩
  have hcalm : ∀ q, (slowToken 20 q).Answers := by
    intro q
    unfold slowToken
    split <;> exact ⟨_, rfl⟩
  have hends : ((slowly 20).result? (tokenAfter 20)).isSome = true := by decide +kernel
  have hends' : ((slowly 40).result? (tokenAfter 40)).isSome = true := by decide +kernel
  obtain ⟨result, hresult⟩ := Option.isSome_iff_exists.mp hends
  obtain ⟨result', hresult'⟩ := Option.isSome_iff_exists.mp hends'
  obtain ⟨env, env', rfl, rfl, halike⟩ :=
    ((hagree _ _ delayed_slowToken hcalm rfl).1 (slowly 20) (slowly 40) rfl).2 (tokenAfter 20)
      (tokenAfter 40) (by decide +kernel)
      (admits_slowly (by decide +kernel) (by decide +kernel) (by decide))
      (admits_slowly (by decide +kernel) (by decide +kernel) (by decide)) result result' hresult
      hresult'
  exact ⟨env, env', hresult, hresult', halike⟩

end Service
end SupplierGateway
