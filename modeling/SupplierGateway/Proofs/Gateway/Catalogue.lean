import SupplierGateway.Proofs.Gateway.AuditTrail
import SupplierGateway.Proofs.Operation.Fairness
import SupplierGateway.Proofs.Operation.Requests
import SupplierGateway.Proofs.Operation.Settled

/-!
# The catalogue of locations is complete or empty

A supplier lists its locations page by page.  The operation asks for the first page and then for all
others at once, and its answer has either the locations of all pages in order or none.

* `pageRequest` and `readPage` — the request for a page, and the reader of its body;
* `CompleteOrEmpty` — the properties of an answer with an envelope;
* `Listing` — the courses of the operation;
* `locations_complete_or_empty` — the operation answers, and its answer is complete or empty.
-/

namespace SupplierGateway
namespace Service

open Call (Exchange)
open FanOut (unitOutcome)
open Http (Authorization Request)
open Operation (Authenticates Context Envelope Event Resources Run Script SpreadEnd Task World
  failuresOf valuesOf)
open Rental (LocationPage)

/-! ## Pages -/

/-- The request for a page, as it is sent. -/
def pageRequest (g : Gateway) (z : Authorization) (page : UInt32) : Request :=
  (g.context .locations).pipeline.outgoing
    ((Supplier.locations g.endpoint page).withAuthorization z)

/-- Reads the body of a page. -/
def readPage (body : String) : Attempt LocationPage := .ofExcept (Supplier.readLocations body)

/-- The numbers of all pages. -/
def pageNumbers (pages : UInt32) : List UInt32 :=
  (List.range pages.toNat).map fun i => UInt32.ofNat (i + 1)

/-- The properties of an answer, given the exchanges after authentication. -/
structure CompleteOrEmpty (g : Gateway) (z : Authorization) (calls : List Exchange)
    (env : Envelope Payload) : Prop where
  /-- The first call is for the first page. -/
  first_page : ∀ first, calls.head? = some first → first.request = pageRequest g z 1
  /-- With a failure there are no locations. -/
  empty : env.errors ≠ [] → env.payload = .locations []
  /-- Without a failure every page was asked for once, and the locations are those of all pages in
  order.  The first page says how many pages there are. -/
  complete : env.errors = [] → ∃ (n : UInt32) (pages : List LocationPage) (ordered : List Exchange),
    pages.head?.map LocationPage.totalPages = some n ∧ calls.Perm ordered ∧
    ordered.map Exchange.request = (pageNumbers n).map (pageRequest g z) ∧
    ordered.map (Exchange.comesTo readPage) = pages.map .success ∧
    env.payload = .locations (pages.flatMap LocationPage.locations)
  /-- When there are more pages than admitted, only the first one is asked for. -/
  too_many : ∀ first page, calls.head? = some first → first.comesTo readPage = .success page →
    g.maxPages < page.totalPages →
    calls = [first] ∧ env.payload = .locations [] ∧
      env.errors = [tooManyPages page.totalPages g.maxPages]
  /-- Without fail-fast there is one failure for each page that failed, in order. -/
  best_effort : g.fanOut.failFast = false → ∀ first page, calls.head? = some first →
    first.comesTo readPage = .success page → page.totalPages ≤ g.maxPages →
    ∃ later, calls.Perm (first :: later) ∧
      later.map Exchange.request = (laterPages page.totalPages).map (pageRequest g z) ∧
      env.errors = failuresOf (later.mapIdx fun unit x => unitOutcome unit (x.comesTo readPage))

/-- The exchanges of authentication: at most one, with the address for tokens. -/
def TokenExchanges (g : Gateway) (tokens : List Exchange) : Prop :=
  tokens.length ≤ 1 ∧ ∀ x ∈ tokens, ∃ q, Supplier.token g.endpoint g.credential = .ok q ∧
    x.request = (g.context .auth).pipeline.outgoing q

/-- Authentication or the first page crashed, when the clock showed at most the given
milliseconds. -/
inductive CrashesEarly (g : Gateway) (latest : Nat) (tokens calls : List Exchange)
    (text : String) : Prop
  | authentication (after : Run) (hcalls : calls = [])
      (hauth : Authenticates latest (Run.begin (g.context .locations)) tokens (.crash text) after)
  | firstPage (z : Authorization) (first : Exchange) (hcalls : calls = [first])
      (hrequest : first.request = pageRequest g z 1) (hcrash : first.delivery = .crash text)

/-- There is always at least one page. -/
theorem one_le_totalPages {x : Exchange} {page : LocationPage}
    (hpage : x.comesTo readPage = .success page) : 1 ≤ page.totalPages := by
  obtain ⟨body, hread⟩ := x.exists_body hpage
  unfold readPage Supplier.readLocations at hread
  cases hbody : Supplier.readBody Supplier.locationsPayload body with
  | error f =>
      rw [hbody] at hread
      exact nomatch hread
  | ok found =>
      rw [hbody] at hread
      obtain rfl := Attempt.success.inj hread
      show 1 ≤ if found.totalPages ≤ 1 then 1 else found.totalPages
      split
      · exact UInt32.le_refl 1
      · next hmore => exact UInt32.le_of_lt (UInt32.not_le.mp hmore)

/-- The numbers of all pages are that of the first and those of the others. -/
theorem pageNumbers_eq {pages : UInt32} (hpages : 1 ≤ pages) :
    pageNumbers pages = 1 :: laterPages pages := by
  have hpos : 1 ≤ pages.toNat := UInt32.le_iff_toNat_le.mp hpages
  obtain ⟨n, hn⟩ := Nat.exists_eq_add_of_le' hpos
  rw [pageNumbers, laterPages, hn, List.range_succ_eq_map, List.map_cons, List.map_map]
  rfl

/-! ## Courses of the operation -/

/-- The courses of the operation when it answers with an envelope. -/
inductive Listing (g : Gateway) (z : Authorization) (env : Envelope Payload) :
    List Exchange → Prop
  | unauthenticated (f : Failure) (hpayload : env.payload = .locations [])
      (herrors : env.errors = [f]) : Listing g z env []
  | firstFailed (first : Exchange) (f : Failure) (hrequest : first.request = pageRequest g z 1)
      (hfails : first.comesTo readPage = .failure f) (hpayload : env.payload = .locations [])
      (herrors : env.errors = [f]) : Listing g z env [first]
  | tooMany (first : Exchange) (page : LocationPage) (hrequest : first.request = pageRequest g z 1)
      (hpage : first.comesTo readPage = .success page) (hmany : g.maxPages < page.totalPages)
      (hpayload : env.payload = .locations [])
      (herrors : env.errors = [tooManyPages page.totalPages g.maxPages]) : Listing g z env [first]
  | asked (first : Exchange) (page : LocationPage) (hrequest : first.request = pageRequest g z 1)
      (hpage : first.comesTo readPage = .success page) (hfew : page.totalPages ≤ g.maxPages)
      (xs : List (Nat × Exchange)) (rs : List (Nat × Audit.CallRecord))
      (outcomes : List (Except Failure LocationPage))
      (hspread : SpreadEnd (g.context .locations).pipeline readPage g.fanOut.failFast
        (((laterPages page.totalPages).map fun k =>
          (Supplier.locations g.endpoint k).withAuthorization z).map .success) xs rs outcomes)
      (herrors : env.errors = failuresOf outcomes)
      (hempty : env.errors ≠ [] → env.payload = .locations [])
      (hpayload : env.errors = [] →
        env.payload = .locations (page.locations ++ (valuesOf outcomes).flatMap (·.locations))) :
      Listing g z env (first :: xs.map Prod.snd)

variable {g : Gateway} {o : FanOut.Options} {latest : Nat} {r r' : Run} {xs : List Exchange}
  {result : Except String (Envelope Payload)}

/-- An operation that ends with a payload has no further exchange. -/
theorem ends_close {s : Service} {payload : Payload}
    (hends : (s.close payload).Ends o latest r xs r' result) :
    xs = [] ∧ result = .ok (r.envelope s.policy payload s.empty) := by
  rw [close, Script.Ends, Script.Ends] at hends
  exact ⟨hends.1, hends.2.2⟩

/-- The locations are discarded iff there was a failure. -/
theorem payload_envelope_locations (r : Run) (payload : Payload) :
    ((r.envelope (policy locations) payload (empty locations)).errors ≠ [] →
      (r.envelope (policy locations) payload (empty locations)).payload = .locations []) ∧
    ((r.envelope (policy locations) payload (empty locations)).errors = [] →
      (r.envelope (policy locations) payload (empty locations)).payload = payload) := by
  constructor
  · intro herrors
    have hdiscards : r.discards (policy locations) = true := by
      simpa [Run.discards, policy, Run.envelope] using herrors
    simp [Run.envelope, hdiscards, empty]
  · intro herrors
    have hdiscards : r.discards (policy locations) = false := by
      simpa [Run.discards, policy, Run.envelope] using herrors
    simp [Run.envelope, hdiscards]

/-- The instructions after the first page, in a run without failures. -/
theorem listing_of_afterFirstPage {first : Exchange} {page : LocationPage}
    (hcontext : r.context = g.context .locations) (hclean : r.ledgers.errors.entries = [])
    (hrequest : first.request = pageRequest g r.authorization 1)
    (hpage : first.comesTo readPage = .success page)
    (hends : (afterFirstPage g page).Ends g.fanOut latest r xs r' result) :
    ∃ env, result = .ok env ∧ Listing g r.authorization env (first :: xs) := by
  unfold afterFirstPage at hends
  by_cases hmany : g.maxPages < page.totalPages
  · rw [if_pos hmany, Script.Ends] at hends
    obtain ⟨rfl, rfl⟩ := ends_close hends
    have herrors : ((r.recordError (tooManyPages page.totalPages g.maxPages)).envelope
        (policy locations) (.locations []) (empty locations)).errors =
          [tooManyPages page.totalPages g.maxPages] := by
      show r.ledgers.errors.entries ++ [_] = [_]
      rw [hclean, List.nil_append]
    refine ⟨_, rfl, .tooMany first page hrequest hpage hmany ?_ herrors⟩
    refine (payload_envelope_locations _ _).1 ?_
    rw [herrors]
    exact List.cons_ne_nil _ _
  have hfew : page.totalPages ≤ g.maxPages := UInt32.not_lt.mp hmany
  rw [if_neg hmany] at hends
  by_cases hsingle : page.totalPages ≤ 1
  · rw [if_pos hsingle] at hends
    obtain ⟨rfl, rfl⟩ := ends_close hends
    have hone : page.totalPages = 1 := UInt32.le_antisymm hsingle (one_le_totalPages hpage)
    -- No other pages are asked for, which is the same as asking for none of them at once.
    have hnone : SpreadEnd (g.context .locations).pipeline readPage g.fanOut.failFast
        (((laterPages page.totalPages).map fun k =>
          (Supplier.locations g.endpoint k).withAuthorization r.authorization).map .success)
        [] [] [] := by
      rw [hone]
      exact .nil
    refine ⟨_, rfl, .asked first page hrequest hpage hfew [] [] [] hnone hclean
      (payload_envelope_locations r _).1 fun herrors => ?_⟩
    rw [(payload_envelope_locations r _).2 herrors]
    exact congrArg Payload.locations (List.append_nil _).symm
  · rw [if_neg hsingle, Script.Ends] at hends
    obtain ⟨ys, zs, rs, outcomes, rfl, hspread, hend⟩ := hends
    obtain ⟨rfl, rfl⟩ := ends_close hend
    have hrequests : ((laterPages page.totalPages).map fun k =>
        Attempt.success (Supplier.locations g.endpoint k)).map r.authorized =
          ((laterPages page.totalPages).map fun k =>
            (Supplier.locations g.endpoint k).withAuthorization r.authorization).map .success := by
      rw [List.map_map, List.map_map]
      rfl
    have hpipeline : r.pipeline .locations = (g.context .locations).pipeline := by
      rw [Run.pipeline, hcontext]
      rfl
    rw [hrequests, hpipeline] at hspread
    rw [List.append_nil]
    refine ⟨_, rfl, .asked first page hrequest hpage hfew ys rs outcomes hspread ?_
      (payload_envelope_locations _ _).1 (payload_envelope_locations _ _).2⟩
    show r.ledgers.errors.entries ++ failuresOf outcomes = _
    rw [hclean, List.nil_append]

/-- The instructions after authentication, in a run without failures. -/
theorem listing_of_mainCall (hcontext : r.context = g.context .locations)
    (hclean : r.ledgers.errors.entries = [])
    (hends : (mainCall g locations).Ends g.fanOut latest r xs r' result) :
    (∃ env, result = .ok env ∧ Listing g r.authorization env xs) ∨
      ∃ first text, result = .error text ∧ xs = [first] ∧
        first.request = pageRequest g r.authorization 1 ∧ first.delivery = .crash text := by
  obtain ⟨first, zs, record, rfl, hsent, hend⟩ := Script.Ends.of_call hends
  have hread : first.comesTo (fun body => Attempt.ofExcept (Supplier.readLocations body)) =
      first.comesTo readPage := rfl
  have hrequest : first.request = pageRequest g r.authorization 1 := by
    rw [hsent, Run.pipeline, hcontext]
    rfl
  rw [hread] at hend
  cases hcomes : first.comesTo readPage with
  | success page =>
      rw [hcomes] at hend
      exact .inl (listing_of_afterFirstPage (r := r.addRecords [record]) hcontext hclean
        hrequest hcomes hend)
  | failure f =>
      rw [hcomes] at hend
      obtain ⟨rfl, rfl⟩ := ends_close hend
      have herrors : (((r.addRecords [record]).recordError f).envelope (policy locations)
          (empty locations) (empty locations)).errors = [f] := by
        show r.ledgers.errors.entries ++ [f] = [f]
        rw [hclean, List.nil_append]
      refine .inl ⟨_, rfl, .firstFailed first f hrequest hcomes ?_ herrors⟩
      refine (payload_envelope_locations _ _).1 ?_
      rw [herrors]
      exact List.cons_ne_nil _ _
  | crash text =>
      rw [hcomes] at hend
      obtain ⟨rfl, -, rfl⟩ := hend
      have hcrash := first.delivery_of_crash (fun body => Attempt.ofExcept_ne_crash _) hcomes
      exact .inr ⟨first, text, rfl, rfl, hrequest, hcrash⟩

/-- Authentication has at most one exchange, which is for a token. -/
theorem tokenExchanges_of_authenticates {phase : Phase} {a : Attempt Unit}
    (hauth : Authenticates latest (Run.begin (g.context phase)) xs a r) : TokenExchanges g xs := by
  refine ⟨hauth.requests.1, fun x hx => ?_⟩
  obtain ⟨q, hq, hrequest⟩ := hauth.requests.2 x hx
  refine ⟨q, ?_, hrequest⟩
  have htoken : Attempt.ofExcept (Supplier.token g.endpoint g.credential) = .success q := hq
  cases hbuilt : Supplier.token g.endpoint g.credential with
  | ok request =>
      rw [hbuilt] at htoken
      exact congrArg _ (Attempt.success.inj htoken)
  | error f =>
      rw [hbuilt] at htoken
      exact nomatch htoken

/-- An operation that has a result had one of these courses. -/
theorem listing_of_ends
    (hends : (script g locations).Ends g.fanOut latest (Run.begin (g.context .locations)) xs r'
      result) :
    ∃ tokens calls, xs = tokens ++ calls ∧ TokenExchanges g tokens ∧
      match result with
      | .ok env => ∃ z, Listing g z env calls
      | .error text => CrashesEarly g latest tokens calls text := by
  rw [script, Script.Ends] at hends
  obtain ⟨tokens, calls, a, after, rfl, hauth, hend⟩ := hends
  have htokens := tokenExchanges_of_authenticates hauth
  refine ⟨tokens, calls, rfl, htokens, ?_⟩
  cases a with
  | success _ =>
      obtain ⟨hcontext, herrors⟩ := hauth.of_success
      have hclean : after.ledgers.errors.entries = [] := by
        rw [herrors]
        rfl
      rcases listing_of_mainCall hcontext hclean hend with
        ⟨env, rfl, hlisting⟩ | ⟨first, text, rfl, rfl, hrequest, hcrash⟩
      · exact ⟨_, hlisting⟩
      · exact .firstPage _ first rfl hrequest hcrash
  | failure f =>
      obtain ⟨rfl, rfl⟩ := ends_close hend
      have herrors : (after.envelope (policy locations) (empty locations)
          (empty locations)).errors = [f] := by
        show after.ledgers.errors.entries = [f]
        rw [hauth.of_failure]
        rfl
      refine ⟨after.authorization, .unauthenticated f ?_ herrors⟩
      refine (payload_envelope_locations _ _).1 ?_
      rw [herrors]
      exact List.cons_ne_nil _ _
  | crash text =>
      obtain ⟨rfl, -, rfl⟩ := hend
      exact .authentication after rfl hauth

/-! ## Complete or empty -/

/-- The answer of every course is complete or empty. -/
theorem Listing.completeOrEmpty {z : Authorization} {env : Envelope Payload}
    {calls : List Exchange} (hlisting : Listing g z env calls) : CompleteOrEmpty g z calls env := by
  -- In most courses there is at most one call, and a failure.
  have hhead : ∀ {first other : Exchange} {rest : List Exchange},
      (first :: rest).head? = some other → other = first :=
    fun h => (Option.some.inj h).symm
  cases hlisting with
  | unauthenticated f hpayload herrors =>
      exact
        { first_page := fun first h => nomatch h
          empty := fun _ => hpayload
          complete := fun h => absurd (herrors.symm.trans h) (List.cons_ne_nil _ _)
          too_many := fun first page h => nomatch h
          best_effort := fun _ first page h => nomatch h }
  | firstFailed first f hrequest hfails hpayload herrors =>
      refine ⟨?_, fun _ => hpayload, ?_, ?_, ?_⟩
      · intro other hother
        exact hhead hother ▸ hrequest
      · intro hnone
        exact absurd (herrors.symm.trans hnone) (List.cons_ne_nil _ _)
      · intro other page hother hpage
        rw [hhead hother, hfails] at hpage
        exact nomatch hpage
      · intro _ other page hother hpage
        rw [hhead hother, hfails] at hpage
        exact nomatch hpage
  | tooMany first page hrequest hpage hmany hpayload herrors =>
      refine ⟨?_, fun _ => hpayload, ?_, ?_, ?_⟩
      · intro other hother
        exact hhead hother ▸ hrequest
      · intro hnone
        exact absurd (herrors.symm.trans hnone) (List.cons_ne_nil _ _)
      · intro other page' hother hpage' _
        rw [hhead hother, hpage] at hpage'
        obtain rfl := Attempt.success.inj hpage'
        exact ⟨by rw [hhead hother], hpayload, herrors⟩
      · intro _ other page' hother hpage' hfew
        rw [hhead hother, hpage] at hpage'
        obtain rfl := Attempt.success.inj hpage'
        exact absurd hmany (UInt32.not_lt.mpr hfew)
  | asked first page hrequest hpage hfew xs rs outcomes hspread herrors hempty hpayload =>
      refine ⟨?_, hempty, ?_, ?_, ?_⟩
      · intro other hother
        exact hhead hother ▸ hrequest
      · intro hnone
        -- Without a failure no page was given up, so that each was sent for once.
        obtain ⟨later, hperm, hrequests, houtcomes⟩ :=
          hspread.settled (.inr (herrors.symm.trans hnone))
        have hpages : later.map (Exchange.comesTo readPage) =
            (valuesOf outcomes).map .success := by
          rw [herrors, houtcomes] at hnone
          rw [houtcomes]
          exact Operation.map_comesTo_of_no_failures later id hnone
        refine ⟨page.totalPages, page :: valuesOf outcomes, first :: later, rfl, hperm.cons first,
          ?_, ?_, ?_⟩
        · rw [pageNumbers_eq (one_le_totalPages hpage), List.map_cons, List.map_cons, hrequest,
            hrequests, List.map_map]
          rfl
        · rw [List.map_cons, List.map_cons, hpage, hpages]
        · rw [hpayload hnone, List.flatMap_cons]
      · intro other page' hother hpage' hmany
        rw [hhead hother, hpage] at hpage'
        obtain rfl := Attempt.success.inj hpage'
        exact absurd hmany (UInt32.not_lt.mpr hfew)
      · intro hslow other page' hother hpage' _
        rw [hhead hother, hpage] at hpage'
        obtain rfl := Attempt.success.inj hpage'
        obtain ⟨later, hperm, hrequests, houtcomes⟩ := hspread.settled (.inl hslow)
        refine ⟨later, ?_, ?_, ?_⟩
        · rw [hhead hother]
          exact hperm.cons first
        · rw [hrequests, List.map_map]
          rfl
        · rw [herrors, houtcomes]

/-- For any supplier and any order in which pages arrive, the operation answers, and its answer is
complete or empty unless authentication or the first page crashed.  It answers in a fair schedule
when no other operation holds or queues for the lock of its key; the properties of its answer hold
in any interleaving with other operations. -/
theorem locations_complete_or_empty (r : Resources) (haddress : r.transport.address = id)
    (g : Gateway) (cache : Nat) :
    ((r.cache cache).locks.Idle (Cache.key g.endpoint g.credential) →
      ∀ schedule, (opening r [(g, cache, locations)]).Fair 0 schedule →
        ∃ n result, ((opening r [(g, cache, locations)]).after schedule n).tasks[0]?.bind
          Task.result? = some result) ∧
    ∀ (orders : List (Gateway × Nat × Service)) (events : List Event) (who : Nat) result,
      orders[who]? = some (g, cache, locations) →
      ((opening r orders).run events).tasks[who]?.bind Task.result? = some result →
        ∃ tokens calls, (opening r orders).exchangesOf who events = tokens ++ calls ∧
          TokenExchanges g tokens ∧
          match result with
          | .ok env => ∃ z, CompleteOrEmpty g z calls env
          | .error text =>
              CrashesEarly g ((opening r orders).run events).resources.clockMs tokens calls text :=
    by
  constructor
  · intro hidle schedule hfair
    have hsolo : (opening r [(g, cache, locations)]).Solo (locations.task g cache) :=
      { tasks := rfl
        address := haddress
        unhindered := hidle }
    exact hsolo.ends_of_fair hfair
  · intro orders events who result horder hresult
    obtain ⟨r', hends⟩ := ends_of_result haddress horder hresult
    obtain ⟨tokens, calls, hsplit, htokens, hgoes⟩ := listing_of_ends hends
    refine ⟨tokens, calls, hsplit, htokens, ?_⟩
    cases result with
    | ok env =>
        obtain ⟨z, hlisting⟩ := hgoes
        exact ⟨z, hlisting.completeOrEmpty⟩
    | error text => exact hgoes

/-- The route of one of three pages, which has one location. -/
def pageRoute (page code : String) : Http.Route where
  method := .get
  url := "https://supplier.example/locations?page=" ++ page
  replies :=
    [.respond
      { status := 200
        body := "\x7b\"total_pages\":3,\"locations\":[\x7b\"code\":\"" ++ code ++
          "\",\"name\":\"" ++ code ++ "\"\x7d]\x7d" }]

/-- A supplier with three pages. -/
def threePages : Resources :=
  { transport := { routes := [pageRoute "1" "A", pageRoute "2" "B", pageRoute "3" "C"] } }

/-- A gateway to it that needs no token. -/
def plainGateway : Gateway := { endpoint := { base := "https://supplier.example" } }

/-- The third page arrives before the second. -/
def outOfOrder : List Event :=
  [.proceed, .proceed, .arrive, .proceed, .begin 0, .begin 1, .settle 1, .settle 0, .receive,
    .receive, .take 0, .take 1, .proceed, .proceed, .proceed].map (.task 0)

/-- The locations of three pages are complete and in order, and there is a fair schedule in which
the operation answers. -/
theorem three_pages_complete :
    (∃ env tokens calls z,
      ((opening threePages [(plainGateway, 0, locations)]).run outOfOrder).tasks[0]?.bind
        Task.result? = some (.ok env) ∧
      env.payload = .locations (["A", "B", "C"].map fun code =>
        { code, name := code, countryCode := none, city := none }) ∧
      (opening threePages [(plainGateway, 0, locations)]).exchangesOf 0 outOfOrder =
        tokens ++ calls ∧
      CompleteOrEmpty plainGateway z calls env) ∧
    ∃ schedule n result,
      ((opening threePages [(plainGateway, 0, locations)]).after schedule n).tasks[0]?.bind
        Task.result? = some result := by
  obtain ⟨hanswers, hcomplete⟩ := locations_complete_or_empty threePages rfl plainGateway 0
  constructor
  · have hpayload : ((((opening threePages [(plainGateway, 0, locations)]).run outOfOrder).tasks[0]?
        |>.bind Task.result?).bind Except.toOption).map Envelope.payload =
          some (.locations (["A", "B", "C"].map fun code =>
            { code, name := code, countryCode := none, city := none })) := by
      decide +kernel
    obtain ⟨env, henv, hlocations⟩ := Option.map_eq_some_iff.mp hpayload
    obtain ⟨result, hresult, hok⟩ := Option.bind_eq_some_iff.mp henv
    cases result with
    | error text => exact nomatch hok
    | ok found =>
        obtain rfl := Option.some.inj hok
        obtain ⟨tokens, calls, hsplit, -, z, hcatalogue⟩ :=
          hcomplete [(plainGateway, 0, locations)] outOfOrder 0 (.ok found) rfl hresult
        exact ⟨found, tokens, calls, z, hresult, hlocations, hsplit, hcatalogue⟩
  · obtain ⟨schedule, hfair⟩ := (opening threePages [(plainGateway, 0, locations)]).exists_fair 0
    obtain ⟨n, result, hresult⟩ := hanswers (fun lock hlock => nomatch hlock) schedule hfair
    exact ⟨schedule, n, result, hresult⟩

end Service
end SupplierGateway
