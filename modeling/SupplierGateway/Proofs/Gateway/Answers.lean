import SupplierGateway.Proofs.Gateway.Catalogue
import SupplierGateway.Proofs.Operation.Crashes

/-!
# Operations answer

For any replies of a supplier, an operation answers with an envelope, with one exception: a token
whose expiry lies beyond the clock.  Storing such a token crashes, while no other fault of a store
affects the operation.

* `Service.careful_mainCall` — the instructions after authentication do not crash of their own;
* `OverlongToken` — the exception;
* `answers_of_ends` — an operation answers, or the exception applies;
* `answers_unless_token_overlong` — operations of all kinds end and answer;
* `overlong_token_crashes` — an operation to which the exception applies.
-/

namespace SupplierGateway
namespace Service

open Call (Exchange)
open Operation (Envelope Event Resources Run Script Task readIssued)

variable {g : Gateway}

/-! ## Scripts that do not crash -/

theorem careful_close (s : Service) (payload : Payload) : (s.close payload).Careful :=
  .finish s.policy payload s.empty _ fun env => .done env

theorem careful_afterFirstPage (g : Gateway) (first : Rental.LocationPage) :
    (afterFirstPage g first).Careful := by
  unfold afterFirstPage
  split
  · exact .report _ _ _ (careful_close ..)
  · split
    · exact careful_close ..
    · exact .fanOut _ _ _ _ fun pages => careful_close ..

theorem careful_afterAvailability (g : Gateway) (r : Rental.RateRequest)
    (candidates : List Rental.VehicleCandidate) : (afterAvailability g r candidates).Careful := by
  unfold afterAvailability
  split
  · exact careful_close ..
  · exact .fanOut _ _ _ _ fun quotes => careful_close ..

/-- The requests and decoders of the instructions after authentication do not crash. -/
theorem careful_mainCall (g : Gateway) (s : Service) : (s.mainCall g).Careful := by
  cases s with
  | locations =>
      refine .call _ _ _ _ nofun (fun body => Attempt.ofExcept_ne_crash _) fun first => ?_
      cases first with
      | none => exact careful_close ..
      | some first => exact careful_afterFirstPage g first
  | rates r =>
      exact .call _ _ _ _ nofun (fun body => Attempt.ofExcept_ne_crash _)
        fun candidates => careful_afterAvailability ..
  | book r =>
      exact .call _ _ _ _ nofun (fun body => Attempt.ofExcept_ne_crash _) fun c => careful_close ..
  | status reference =>
      exact .call _ _ _ _ (Attempt.ofExcept_ne_crash _) (fun body => Attempt.ofExcept_ne_crash _)
        fun c => careful_close ..
  | cancel reference =>
      exact .call _ _ _ _ (Attempt.ofExcept_ne_crash _) (fun body => Attempt.ofExcept_ne_crash _)
        fun c => careful_close ..

/-! ## Answers -/

/-- The operation was issued a token and made no further request, and the token would expire beyond
the clock when stored at the given milliseconds. -/
structure OverlongToken (g : Gateway) (latest : Nat) (xs : List Exchange) : Prop where
  required : g.credential.requiresToken = true
  exchanges : TokenExchanges g xs
  issued : ∃ x t, xs = [x] ∧ x.comesTo readIssued = .success t ∧
    Cache.BeyondClock latest (.ofSecs t.lifetimeSecs)

/-- When every exchange has an outcome, an operation answers, unless the token that it is issued
expires beyond the clock. -/
theorem answers_of_ends {latest : Nat} {s : Service} {r' : Run} {xs : List Exchange}
    {result : Except String (Envelope Payload)}
    (hends : (s.script g).Ends g.fanOut latest (Run.begin (g.context s.phase)) xs r' result)
    (hanswered : ∀ x ∈ xs, x.Answered) :
    (∃ env, result = .ok env) ∨
      result = .error Cache.CacheError.beyondClock.message ∧ OverlongToken g latest xs := by
  rw [script, Script.Ends] at hends
  obtain ⟨tokens, calls, a, after, rfl, hauth, hend⟩ := hends
  obtain ⟨htokens, hcalls⟩ := List.forall_mem_append.mp hanswered
  cases a with
  | success _ => exact .inl ((careful_mainCall g s).exists_result hend hcalls)
  | failure f => exact .inl ((careful_close s s.empty).exists_result hend hcalls)
  | crash text =>
      obtain ⟨rfl, -, rfl⟩ := hend
      obtain ⟨hrequired, rfl, hissued⟩ := hauth.of_crash htokens
      rw [List.append_nil]
      exact .inr ⟨rfl, hrequired, tokenExchanges_of_authenticates hauth, hissued⟩

/-- Over a transport that does not crash, an operation of any kind and with any credentials ends in
a fair schedule, when no other operation holds or queues for the lock of its key.  An operation that
ends answers with an envelope, in any interleaving with other operations and for any stores behind
the caches, unless it is issued a token whose expiry lies beyond the clock.  No other fault of a
store affects authentication. -/
theorem answers_unless_token_overlong (r : Resources) (haddress : r.transport.address = id)
    (hcalm : r.transport.Calm) (g : Gateway) (cache : Nat) (s : Service) :
    ((r.cache cache).locks.Idle (Cache.key g.endpoint g.credential) →
      ∀ schedule, (opening r [(g, cache, s)]).Fair 0 schedule →
        ∃ n result, ((opening r [(g, cache, s)]).after schedule n).tasks[0]?.bind
          Task.result? = some result) ∧
    (∀ (orders : List (Gateway × Nat × Service)) (events : List Event) (who : Nat) result,
      orders[who]? = some (g, cache, s) →
      ((opening r orders).run events).tasks[who]?.bind Task.result? = some result →
        (∃ env, result = .ok env) ∨
          result = .error Cache.CacheError.beyondClock.message ∧
            OverlongToken g ((opening r orders).run events).resources.clockMs
              ((opening r orders).exchangesOf who events)) ∧
    ∀ (c : Cache) (clockMs who : Nat) (key : String) (lock? : Option Nat)
      (a : Cache.CachedCredential) (ttl : Cache.Lifetime), ¬ Cache.BeyondClock clockMs ttl →
      (c.advance Operation.credentialCodec clockMs who key (.storing lock? a ttl)).phase =
        .leaving lock? (.success a) := by
  refine ⟨fun hidle schedule hfair => ?_, fun orders events who result horder hresult => ?_,
    fun c clockMs who key lock? a ttl hbeyond => Cache.phase_storing _ c who key lock? a hbeyond⟩
  · have hsolo : (opening r [(g, cache, s)]).Solo (s.task g cache) :=
      { tasks := rfl
        address := haddress
        unhindered := hidle }
    exact hsolo.ends_of_fair hfair
  · obtain ⟨r', hends⟩ := ends_of_result haddress horder hresult
    have hcalm' : (opening r orders).resources.transport.Calm := by
      rw [transport_opening]
      exact hcalm
    exact answers_of_ends hends (Operation.World.answered_exchangesOf hcalm' who events)

theorem calm_issuing (seconds : String) : (issuing seconds).transport.Calm where
  routes := by simp [issuing, Http.Reply.Answers, Http.Reply.delivery]
  otherwise := fun log q => ⟨_, rfl⟩

/-- A token is obtained before the state of the booking is asked for. -/
def tokenFirst : List Event :=
  [.proceed, .proceed, .arrive, .proceed, .proceed, .proceed, .arrive, .proceed, .proceed].map
    (.task 0)

/-- A gateway that needs a token is asked for the state of a booking.  The operation ends in some
fair schedule, and it answers when its token is issued and stored at once. -/
theorem token_gateway_answers :
    (∃ schedule, (opening (issuing "300") [(clientGateway, 0, status "B1")]).Fair 0 schedule ∧
      ∃ n result, ((opening (issuing "300") [(clientGateway, 0, status "B1")]).after schedule
        n).tasks[0]?.bind Task.result? = some result) ∧
    (∃ env, ((opening (issuing "300") [(clientGateway, 0, status "B1")]).run
      tokenFirst).tasks[0]?.bind Task.result? = some (.ok env)) ∧
    ∀ (c : Cache) (a : Cache.CachedCredential),
      (c.advance Operation.credentialCodec 0 0
        (Cache.key clientGateway.endpoint clientGateway.credential)
        (.storing none a (.ofSecs 300))).phase = .leaving none (.success a) := by
  obtain ⟨hends, hanswers, hstores⟩ := answers_unless_token_overlong (issuing "300") rfl
    (calm_issuing "300") clientGateway 0 (status "B1")
  refine ⟨?_, ?_, fun c a => ?_⟩
  · obtain ⟨schedule, hfair⟩ :=
      (opening (issuing "300") [(clientGateway, 0, status "B1")]).exists_fair 0
    exact ⟨schedule, hfair, hends (fun lock hlock => nomatch hlock) schedule hfair⟩
  · have hended : (((opening (issuing "300") [(clientGateway, 0, status "B1")]).run
        tokenFirst).tasks[0]?.bind Task.result?).isSome = true := by decide +kernel
    obtain ⟨result, hresult⟩ := Option.isSome_iff_exists.mp hended
    rcases hanswers [(clientGateway, 0, status "B1")] tokenFirst 0 result rfl hresult with
      ⟨env, rfl⟩ | ⟨-, hoverlong⟩
    · exact ⟨env, hresult⟩
    · -- The operation has had two exchanges, so that it got further than to its token.
      have htwo : ((opening (issuing "300") [(clientGateway, 0, status "B1")]).exchangesOf 0
          tokenFirst).length = 2 := by decide +kernel
      obtain ⟨x, t, hone, -⟩ := hoverlong.issued
      rw [hone] at htwo
      exact nomatch htwo
  · exact hstores c 0 0 _ none a (.ofSecs 300) (by unfold Cache.BeyondClock; decide)

/-- A token with the largest lifetime crashes the operation, over a transport that does not
crash. -/
theorem overlong_token_crashes :
    (issuing "18446744073709551615").transport.Calm ∧
      ((opening (issuing "18446744073709551615") [(clientGateway, 0, status "B1")]).run
        tokenFirst).tasks[0]?.bind Task.result? =
          some (.error "overflow when adding duration to instant") :=
  ⟨calm_issuing _, by decide +kernel⟩

end Service
end SupplierGateway
