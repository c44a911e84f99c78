import SupplierGateway.Proofs.Gateway.AuthenticationGate

/-!
# Every quote that succeeded is kept

A search for rates asks which vehicles are available, and then for a quote for each candidate at
once.  Candidates and quotes correspond one to one: the quote for each candidate is a rate or a
failure of the answer, and rates and failures stand in the order of the candidates, for any order in
which the quotes arrive.

* `availabilityRequest` and `quoteRequest` — the requests for vehicles and quotes;
* `QuoteEnd` and `Quoted` — the end of the quote for one candidate, and of those for all;
* `KeepsSuccesses` — the properties of an answer, given the exchanges after authentication;
* `rates_keep_successes` — a search for rates answers, and its answer keeps every success.
-/

namespace SupplierGateway
namespace Service

open Call (Exchange)
open FanOut (unitOutcome)
open Http (Authorization Request)
open Operation (Envelope Event Resources Run Script SpreadEnd Task World failuresOf ofUnit valuesOf)
open Rental (RateRequest VehicleCandidate VehicleRate)

/-! ## Requests -/

/-- The request for the vehicles that are available, as it is sent. -/
def availabilityRequest (g : Gateway) (z : Authorization) (r : RateRequest) : Request :=
  (g.context .rates).pipeline.outgoing ((Supplier.availability g.endpoint r).withAuthorization z)

/-- The request for a quote for a candidate, as it is sent. -/
def quoteRequest (g : Gateway) (z : Authorization) (r : RateRequest) (c : VehicleCandidate) :
    Request :=
  (g.context .quote).pipeline.outgoing ((Supplier.quote g.endpoint r c).withAuthorization z)

/-- Reads the body of an availability. -/
def readCandidates (body : String) : Attempt (List VehicleCandidate) :=
  .ofExcept (Supplier.readAvailability body)

/-- Reads the body of a quote. -/
def readRate (body : String) : Attempt VehicleRate := .ofExcept (Supplier.readQuote body)

/-- The body of a quote request has the fields of the search and the class of the candidate. -/
theorem body_quoteRequest (g : Gateway) (r : RateRequest) :
    ∃ fields, ∀ z,
      (availabilityRequest g z r).body = some (Json.Value.object fields).compact ∧
      ∀ c, (quoteRequest g z r c).body =
        some (Json.Value.object (fields ++ [("vehicle_class", .string c.vehicleClass)])).compact :=
  by
  refine ⟨_, fun z => ⟨rfl, fun c => ?_⟩⟩
  change some (Supplier.searchBody r (some c.vehicleClass)).compact = _
  simp [Supplier.searchBody, Json.member?]

/-! ## Quotes -/

/-- The end of the quote for the candidate of a number: its exchanges, and a rate or a failure. -/
inductive QuoteEnd (g : Gateway) (z : Authorization) (r : RateRequest) (unit : Nat)
    (c : VehicleCandidate) : List Exchange → Except Failure VehicleRate → Prop
  | asked (x : Exchange) (hrequest : x.request = quoteRequest g z r c) :
      QuoteEnd g z r unit c [x] (unitOutcome unit (x.comesTo readRate))
  /-- The quote was cancelled before or after it was asked for. -/
  | cancelled (hfast : g.fanOut.failFast = true) (xs : List Exchange)
      (hrequests : ∀ x ∈ xs, x.request = quoteRequest g z r c) :
      QuoteEnd g z r unit c xs (.error FanOut.cancelledFailure)

/-- The ends of the quotes for all candidates: the exchanges after the first, the outcome of each
candidate, and the answer. -/
structure Quoted (g : Gateway) (z : Authorization) (r : RateRequest)
    (candidates : List VehicleCandidate) (later : List Exchange)
    (outcomes : List (Except Failure VehicleRate)) (env : Envelope Payload) : Prop where
  /-- There is one outcome for each candidate. -/
  length_eq : outcomes.length = candidates.length
  /-- The rates are those of the candidates that succeeded, in order. -/
  payload : env.payload = .rates (valuesOf outcomes)
  /-- The failures are those of the other candidates, in order. -/
  errors : env.errors = failuresOf outcomes
  accounts : (valuesOf outcomes).length + env.errors.length = candidates.length
  /-- All exchanges belong to candidates, and the outcome of a candidate is that of its own
  exchange. -/
  each : ∃ sent : List (Nat × Exchange), later = sent.map Prod.snd ∧
    (∀ x ∈ sent, x.1 < candidates.length) ∧
    ∀ (unit : Nat) c o, candidates[unit]? = some c → outcomes[unit]? = some o →
      QuoteEnd g z r unit c (ofUnit unit sent) o
  /-- Without fail-fast a quote is asked for once for each candidate. -/
  all_asked : g.fanOut.failFast = false → ∃ asked : List Exchange, later.Perm asked ∧
    asked.map Exchange.request = candidates.map (quoteRequest g z r) ∧
    outcomes = asked.mapIdx fun unit x => unitOutcome unit (x.comesTo readRate)

/-- The properties of an answer, given the exchanges after authentication: availability is asked for
first, and it failed or there are candidates, possibly none. -/
inductive KeepsSuccesses (g : Gateway) (z : Authorization) (r : RateRequest)
    (env : Envelope Payload) : List Exchange → Prop
  | unavailable (first : Exchange) (f : Failure)
      (hrequest : first.request = availabilityRequest g z r)
      (hfails : first.comesTo readCandidates = .failure f)
      (hpayload : env.payload = .rates []) (herrors : env.errors = [f]) :
      KeepsSuccesses g z r env [first]
  | available (first : Exchange) (candidates : List VehicleCandidate) (later : List Exchange)
      (outcomes : List (Except Failure VehicleRate))
      (hrequest : first.request = availabilityRequest g z r)
      (havailable : first.comesTo readCandidates = .success candidates)
      (hquoted : Quoted g z r candidates later outcomes env) :
      KeepsSuccesses g z r env (first :: later)

variable {g : Gateway} {z : Authorization} {req : RateRequest} {latest : Nat} {r r' : Run}
  {xs : List Exchange} {result : Except String (Envelope Payload)}
  {candidates : List VehicleCandidate}

/-- Calls for quotes that are made at once. -/
theorem quoted_of_spread {env : Envelope Payload} {ys : List (Nat × Exchange)}
    {rs : List (Nat × Audit.CallRecord)} {outcomes : List (Except Failure VehicleRate)}
    (hspread : SpreadEnd (g.context .quote).pipeline readRate g.fanOut.failFast
      ((candidates.map fun c => (Supplier.quote g.endpoint req c).withAuthorization z).map .success)
      ys rs outcomes)
    (hpayload : env.payload = .rates (valuesOf outcomes))
    (herrors : env.errors = failuresOf outcomes) :
    Quoted g z req candidates (ys.map Prod.snd) outcomes env where
  length_eq := by simpa using hspread.length_eq
  payload := hpayload
  errors := herrors
  accounts := by
    rw [herrors, Operation.length_valuesOf_add_failuresOf]
    simpa using hspread.length_eq
  each := by
    refine ⟨ys, rfl, fun x hx => by simpa using hspread.exchange_lt x hx, ?_⟩
    intro unit c o hc ho
    have hrequest : ((candidates.map fun c =>
        (Supplier.quote g.endpoint req c).withAuthorization z).map Attempt.success)[unit]? =
          some (.success ((Supplier.quote g.endpoint req c).withAuthorization z)) := by
      simp [hc]
    have hend := hspread.unit unit _ o hrequest ho
    generalize ofUnit unit ys = sent, ofUnit unit rs = records at hend ⊢
    cases hend with
    | settled _ _ a hcall =>
        cases hcall.undertaken with
        | sent _ x record hsent _ => exact .asked x hsent
    | cancelled hfast _ _ _ hrequests =>
        refine .cancelled hfast _ fun x hx => ?_
        obtain ⟨q, hq, hsent⟩ := hrequests x hx
        obtain rfl := Attempt.success.inj hq
        exact hsent
  all_asked hslow := by
    obtain ⟨asked, hperm, hrequests, houtcomes⟩ := hspread.settled (.inl hslow)
    refine ⟨asked, hperm, ?_, houtcomes⟩
    rw [hrequests, List.map_map]
    rfl

/-- The instructions after the available vehicles, in a run without failures. -/
theorem quoted_of_afterAvailability (hcontext : r.context = g.context .rates)
    (hclean : r.ledgers.errors.entries = [])
    (hends : (afterAvailability g req candidates).Ends g.fanOut latest r xs r' result) :
    ∃ env outcomes, result = .ok env ∧
      Quoted g r.authorization req candidates xs outcomes env := by
  unfold afterAvailability at hends
  by_cases hnone : candidates.isEmpty = true
  · rw [if_pos hnone] at hends
    obtain rfl := List.isEmpty_iff.mp hnone
    obtain ⟨rfl, rfl⟩ := ends_close hends
    have hquoted : Quoted g r.authorization req [] (([] : List (Nat × Exchange)).map Prod.snd) []
        (r.envelope (policy (rates req)) (.rates []) (empty (rates req))) :=
      quoted_of_spread .nil rfl hclean
    exact ⟨_, [], rfl, hquoted⟩
  · rw [if_neg hnone, Script.Ends] at hends
    obtain ⟨ys, zs, rs, outcomes, rfl, hspread, hend⟩ := hends
    obtain ⟨rfl, rfl⟩ := ends_close hend
    have hrequests : (candidates.map fun c =>
        Attempt.success (Supplier.quote g.endpoint req c)).map r.authorized =
          (candidates.map fun c =>
            (Supplier.quote g.endpoint req c).withAuthorization r.authorization).map .success := by
      rw [List.map_map, List.map_map]
      rfl
    have hpipeline : r.pipeline .quote = (g.context .quote).pipeline := by
      rw [Run.pipeline, hcontext]
      rfl
    rw [hrequests, hpipeline] at hspread
    rw [List.append_nil]
    refine ⟨_, outcomes, rfl, quoted_of_spread hspread rfl ?_⟩
    show r.ledgers.errors.entries ++ failuresOf outcomes = _
    rw [hclean, List.nil_append]

/-- The instructions after authentication, in a run without failures. -/
theorem keepsSuccesses_of_mainCall (hcontext : r.context = g.context .rates)
    (hclean : r.ledgers.errors.entries = [])
    (hends : (mainCall g (rates req)).Ends g.fanOut latest r xs r' result) :
    match (motive := Except String (Envelope Payload) → Prop) result with
    | .ok env => KeepsSuccesses g r.authorization req env xs
    | .error text => ∃ first, xs = [first] ∧
        first.request = availabilityRequest g r.authorization req ∧
        first.delivery = .crash text := by
  obtain ⟨first, later, record, rfl, hsent, hend⟩ := Script.Ends.of_call hends
  have hread : first.comesTo (fun body => Attempt.ofExcept (Supplier.readAvailability body)) =
      first.comesTo readCandidates := rfl
  have hrequest : first.request = availabilityRequest g r.authorization req := by
    rw [hsent, Run.pipeline, hcontext]
    rfl
  rw [hread] at hend
  cases hcomes : first.comesTo readCandidates with
  | success candidates =>
      rw [hcomes] at hend
      obtain ⟨env, outcomes, rfl, hquoted⟩ :=
        quoted_of_afterAvailability (r := r.addRecords [record]) hcontext hclean hend
      exact .available first candidates later outcomes hrequest hcomes hquoted
  | failure f =>
      rw [hcomes] at hend
      obtain ⟨rfl, rfl⟩ := ends_close hend
      refine .unavailable first f hrequest hcomes rfl ?_
      show r.ledgers.errors.entries ++ [f] = [f]
      rw [hclean, List.nil_append]
  | crash text =>
      rw [hcomes] at hend
      obtain ⟨rfl, -, rfl⟩ := hend
      exact ⟨first, rfl, hrequest,
        first.delivery_of_crash (fun body => Attempt.ofExcept_ne_crash _) hcomes⟩

/-- For any supplier and any order in which quotes arrive, a search for rates answers, and its
answer keeps every success unless authentication or availability crashed.  It answers in a fair
schedule when no other operation holds or queues for the lock of its key; the properties of its
answer hold in any interleaving with other operations. -/
theorem rates_keep_successes (r : Resources) (haddress : r.transport.address = id) (g : Gateway)
    (cache : Nat) (req : RateRequest) :
    ((r.cache cache).locks.Idle (Cache.key g.endpoint g.credential) →
      ∀ schedule, (opening r [(g, cache, rates req)]).Fair 0 schedule →
        ∃ n result, ((opening r [(g, cache, rates req)]).after schedule n).tasks[0]?.bind
          Task.result? = some result) ∧
    (∃ fields, ∀ z,
      (availabilityRequest g z req).body = some (Json.Value.object fields).compact ∧
      ∀ c, (quoteRequest g z req c).body =
        some (Json.Value.object (fields ++ [("vehicle_class", .string c.vehicleClass)])).compact) ∧
    ∀ (orders : List (Gateway × Nat × Service)) (events : List Event) (who : Nat) result,
      orders[who]? = some (g, cache, rates req) →
      ((opening r orders).run events).tasks[who]?.bind Task.result? = some result →
        ∃ tokens calls, (opening r orders).exchangesOf who events = tokens ++ calls ∧
          TokenExchanges g tokens ∧
          ((calls = [] ∧
              Stopped g (rates req) ((opening r orders).run events).resources.clockMs tokens
                result) ∨
            ∃ z, Authorizes (opening r orders) events who cache g tokens z ∧
              match result with
              | .ok env => KeepsSuccesses g z req env calls
              | .error text => ∃ first, calls = [first] ∧
                  first.request = availabilityRequest g z req ∧ first.delivery = .crash text) := by
  refine ⟨fun hidle schedule hfair => ?_, body_quoteRequest g req, ?_⟩
  · have hsolo : (opening r [(g, cache, rates req)]).Solo ((rates req).task g cache) :=
      { tasks := rfl
        address := haddress
        unhindered := hidle }
    exact hsolo.ends_of_fair hfair
  · intro orders events who result horder hresult
    obtain ⟨r', hends, hknown⟩ := ends_of_result_vouched haddress horder hresult
    obtain ⟨tokens, calls, hsplit, htokens, -, hgoes⟩ := passes_or_stops hends hknown
    refine ⟨tokens, calls, hsplit, htokens, ?_⟩
    rcases hgoes with ⟨after, hcontext, hclean, hauthorizes, hend⟩ | hstops
    · exact .inr ⟨_, hauthorizes, keepsSuccesses_of_mainCall hcontext hclean hend⟩
    · exact .inl hstops

/-- Three vehicles are available, two of them of one class.  Of the quotes that are asked for, the
first is given, the second is refused and the third crashes. -/
def threeVehicles : Resources where
  transport.routes :=
    [{ method := .post, url := "https://supplier.example/availability"
       replies :=
        [.respond
          { status := 200
            body := "\x7b\"vehicles\":[\x7b\"vehicle_class\":\"A\"\x7d," ++
              "\x7b\"vehicle_class\":\"B\"\x7d,\x7b\"vehicle_class\":\"A\"\x7d]\x7d" }] },
      { method := .post, url := "https://supplier.example/quotes"
        replies :=
          [.respond
            { status := 200
              body := "\x7b\"vehicle_class\":\"A\",\"total\":\x7b\"amount\":10," ++
                "\"currency\":\"EUR\"\x7d,\"rate_reference\":\"r\"\x7d" },
            .respond { status := 200, body := "\x7b\"error\":\"sold out\"\x7d" },
            .crash "no such class"] }]

/-- A search for a week. -/
def aWeek : RateRequest :=
  { pickupLocation := "X", dropoffLocation := "Y", pickupAt := { nanos := 0 },
    dropoffAt := { nanos := 604800000000000 }, driverAge := none }

/-- The last two quotes arrive before the first. -/
def quotesOutOfOrder : List Event :=
  [.proceed, .proceed, .arrive, .proceed, .begin 0, .begin 1, .begin 2, .settle 1, .settle 2,
    .settle 0, .receive, .receive, .receive, .take 0, .take 1, .take 2, .proceed, .proceed,
    .proceed].map (.task 0)

/-- Rates and failures account for all three vehicles. -/
theorem three_vehicles_accounted :
    ∃ env quotes, ((opening threeVehicles [(plainGateway, 0, rates aWeek)]).run
        quotesOutOfOrder).tasks[0]?.bind Task.result? = some (.ok env) ∧
      env.payload = .rates quotes ∧ quotes.length + env.errors.length = 3 := by
  have hends : ((((opening threeVehicles [(plainGateway, 0, rates aWeek)]).run
      quotesOutOfOrder).tasks[0]?.bind Task.result?).bind Except.toOption).isSome = true := by
    decide +kernel
  have havailable : ((opening threeVehicles [(plainGateway, 0, rates aWeek)]).exchangesOf 0
      quotesOutOfOrder).head?.map (Exchange.comesTo readCandidates) =
        some (.success (["A", "B", "A"].map fun vehicleClass =>
          { vehicleClass, description := none })) := by
    decide +kernel
  obtain ⟨env, henv⟩ := Option.isSome_iff_exists.mp hends
  obtain ⟨result, hresult, hok⟩ := Option.bind_eq_some_iff.mp henv
  obtain ⟨tokens, calls, hsplit, htokens, hgoes⟩ :=
    (rates_keep_successes threeVehicles rfl plainGateway 0 aWeek).2.2
      [(plainGateway, 0, rates aWeek)] quotesOutOfOrder 0 result rfl hresult
  -- The gateway needs no token, so that the first exchange is the one for the vehicles.
  have hnone : tokens = [] := by
    refine List.eq_nil_iff_forall_not_mem.mpr fun x hx => ?_
    obtain ⟨q, hbuilt, -⟩ := htokens.2 x hx
    exact nomatch hbuilt
  rw [hsplit, hnone, List.nil_append] at havailable
  rcases hgoes with ⟨rfl, -⟩ | ⟨z, -, hkeeps⟩
  · exact nomatch havailable
  cases result with
  | error text => exact nomatch hok
  | ok found =>
      obtain rfl := Option.some.inj hok
      cases hkeeps with
      | unavailable first f hrequest hfails hpayload herrors =>
          exact nomatch hfails.symm.trans (Option.some.inj havailable)
      | available first candidates later outcomes hrequest hcandidates hquoted =>
          obtain rfl := Attempt.success.inj (hcandidates.symm.trans (Option.some.inj havailable))
          exact ⟨found, _, hresult, hquoted.payload, hquoted.accounts⟩

end Service
end SupplierGateway
