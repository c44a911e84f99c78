import Mathlib.Data.List.Induction
import SupplierGateway.Gateway.Service
import SupplierGateway.Proofs.Operation.Records
import SupplierGateway.Proofs.Operation.Trace

/-!
# The audit trail is complete

Operations of any gateways share a transport, and their calls are interleaved in any way.  When all
of them have answered, their envelopes together have one record for each request that the transport
took, and no others.

* `Service.opening` — the world in which operations begin;
* `Service.closes_script` — every operation ends with making its envelope;
* `Service.ends_of_result` — the result of an operation is an end of its script;
* `Service.audit_trail_complete` — the records of all envelopes are those of the transport's log.
-/

namespace SupplierGateway
namespace Service

open Audit (CallRecord)
open Call (Exchange recordKey requestKey)
open Operation (Audited Envelope Event Resources Run Script Task World)

/-! ## The world in which operations begin -/

/-- The world in which operations begin.  Each is asked of a gateway, which uses the cache of the
given number. -/
def opening (r : Resources) (orders : List (Gateway × Nat × Service)) : World (Envelope Payload) :=
  orders.foldl (fun w (g, cache, s) => w.add (s.task g cache)) { resources := r }

/-- Operations that are carried out at once begin in this world. -/
theorem perform_eq (r : Resources) (orders : List (Gateway × Nat × Service)) :
    perform r orders =
      ((opening r orders).settled.resources, (opening r orders).settled.tasks.map Task.result?) :=
  rfl

theorem opening_concat (r : Resources) (orders : List (Gateway × Nat × Service))
    (order : Gateway × Nat × Service) :
    opening r (orders ++ [order]) =
      (opening r orders).add (order.2.2.task order.1 order.2.1) := by
  rw [opening, List.foldl_concat]
  rfl

/-- There is one task for each order. -/
theorem tasks_opening (r : Resources) (orders : List (Gateway × Nat × Service)) :
    (opening r orders).tasks = orders.map fun (g, cache, s) => s.task g cache := by
  induction orders using List.reverseRecOn with
  | nil => rfl
  | append_singleton orders order ih =>
      rw [opening_concat, World.add, ih, List.map_append]
      rfl

/-- Of the resources only the log changes, by one entry for each order. -/
theorem resources_opening (r : Resources) (orders : List (Gateway × Nat × Service)) :
    (opening r orders).resources =
      r.tell (orders.map fun (g, cache, s) => (s.task g cache).run.startEntry) := by
  induction orders using List.reverseRecOn with
  | nil => simp [opening, Resources.tell]
  | append_singleton orders order ih =>
      rw [opening_concat, World.add, ih, List.map_append]
      simp [Resources.tell]

theorem transport_opening (r : Resources) (orders : List (Gateway × Nat × Service)) :
    (opening r orders).resources.transport = r.transport := by
  rw [resources_opening, Resources.tell]

theorem cache_opening (r : Resources) (orders : List (Gateway × Nat × Service)) :
    (opening r orders).resources.cache = r.cache := by
  rw [resources_opening, Resources.tell]

theorem clockMs_opening (r : Resources) (orders : List (Gateway × Nat × Service)) :
    (opening r orders).resources.clockMs = r.clockMs := by
  rw [resources_opening, Resources.tell]

/-! ## Scripts of operations -/

theorem closes_close (s : Service) (payload : Payload) : (s.close payload).Closes :=
  .finish s.policy payload s.empty

/-- The instructions after the first page of the locations end with making an envelope. -/
theorem closes_afterFirstPage (g : Gateway) (first : Rental.LocationPage) :
    (afterFirstPage g first).Closes := by
  unfold afterFirstPage
  split
  · exact .report _ _ _ (closes_close ..)
  · split
    · exact closes_close ..
    · exact .fanOut _ _ _ _ fun pages => closes_close ..

theorem closes_afterAvailability (g : Gateway) (r : Rental.RateRequest)
    (candidates : List Rental.VehicleCandidate) : (afterAvailability g r candidates).Closes := by
  unfold afterAvailability
  split
  · exact closes_close ..
  · exact .fanOut _ _ _ _ fun quotes => closes_close ..

/-- The instructions after authentication end with making an envelope. -/
theorem closes_mainCall (g : Gateway) (s : Service) : (s.mainCall g).Closes := by
  cases s with
  | locations =>
      refine .call _ _ _ _ fun first => ?_
      cases first with
      | none => exact closes_close ..
      | some first => exact closes_afterFirstPage g first
  | rates r => exact .call _ _ _ _ fun candidates => closes_afterAvailability ..
  | book r => exact .call _ _ _ _ fun c => closes_close ..
  | status reference => exact .call _ _ _ _ fun c => closes_close ..
  | cancel reference => exact .call _ _ _ _ fun c => closes_close ..

/-- Every operation ends with making its envelope. -/
theorem closes_script (g : Gateway) (s : Service) : (s.script g).Closes := by
  refine .authenticate _ fun a => ?_
  cases a with
  | error f => exact closes_close ..
  | ok _ => exact closes_mainCall g s

/-- The result of an operation is an end of its script, with the exchanges of its task. -/
theorem ends_of_result {r : Resources} (haddress : r.transport.address = id)
    {orders : List (Gateway × Nat × Service)} {events : List Event} {who : Nat} {g : Gateway}
    {cache : Nat} {s : Service} (horder : orders[who]? = some (g, cache, s))
    {result : Except String (Envelope Payload)}
    (hresult : ((opening r orders).run events).tasks[who]?.bind Task.result? = some result) :
    ∃ r', (s.script g).Ends g.fanOut ((opening r orders).run events).resources.clockMs
      (Run.begin (g.context s.phase))
      ((opening r orders).exchangesOf who events) r' result := by
  have hget : (opening r orders).tasks[who]? = some (s.task g cache) := by
    rw [tasks_opening, List.getElem?_map, horder]
    rfl
  have haddress' : (opening r orders).resources.transport.address = id := by
    rw [transport_opening]
    exact haddress
  obtain ⟨t, ht, hpath⟩ := World.path_run haddress' hget events
  rw [ht] at hresult
  exact ⟨t.run, Task.ends_of_path hpath hresult⟩

/-! ## The audit trail -/

/-- An envelope has one record for each exchange of its operation. -/
theorem audited_of_answer {r : Resources} (haddress : r.transport.address = id)
    {orders : List (Gateway × Nat × Service)} {events : List Event}
    {envelopes : List (Envelope Payload)}
    (hall : ((opening r orders).run events).tasks.map Task.result? =
      envelopes.map fun env => some (.ok env))
    {who : Nat} {env : Envelope Payload} (henv : envelopes[who]? = some env) :
    ∃ c, Audited c ((opening r orders).exchangesOf who events) env.supplierRequests := by
  have hresult : ((opening r orders).run events).tasks[who]?.bind Task.result? =
      some (.ok env) := by
    have hget := congrArg (fun results => results[who]?) hall
    simp only [List.getElem?_map, henv, Option.map_some] at hget
    cases htask : ((opening r orders).run events).tasks[who]? with
    | none =>
        rw [htask] at hget
        exact nomatch hget
    | some t =>
        rw [htask] at hget
        exact Option.some.inj hget
  -- The envelope is that of an order, since tasks are neither added nor removed.
  have hlt : who < orders.length := by
    have hsome := Option.isSome_of_eq_some hresult
    cases htask : ((opening r orders).run events).tasks[who]? with
    | none => simp [htask] at hsome
    | some t =>
        have hbound := (List.getElem?_eq_some_iff.mp htask).1
        rw [World.length_tasks_run, tasks_opening, List.length_map] at hbound
        exact hbound
  obtain ⟨⟨g, cache, s⟩, horder⟩ : ∃ order, orders[who]? = some order :=
    ⟨_, List.getElem?_eq_getElem hlt⟩
  obtain ⟨r', hends⟩ := ends_of_result haddress horder hresult
  obtain ⟨rs, hrs, haudited⟩ := hends.adds.records
  refine ⟨g.context s.phase, ?_⟩
  rw [((closes_script g s).envelope hends).1, hrs]
  exact haudited

/-- The concatenation of lists that are permutations one by one. -/
theorem flatMap_perm_of_getElem? {β γ : Type} {l : List β} {f : β → List γ} {g : Nat → List γ}
    (hperm : ∀ (i : Nat) b, l[i]? = some b → (f b).Perm (g i)) :
    (l.flatMap f).Perm ((List.range l.length).flatMap g) := by
  induction l using List.reverseRecOn with
  | nil => exact .nil
  | append_singleton l b ih =>
      rw [List.length_append, List.length_singleton, List.range_succ, List.flatMap_append,
        List.flatMap_append, List.flatMap_singleton, List.flatMap_singleton]
      refine (ih fun i b' hb' => hperm i b' ?_).append (hperm l.length b (by simp))
      rw [List.getElem?_append_left (List.getElem?_eq_some_iff.mp hb').1]
      exact hb'

/-- When all operations have answered over a transport that takes requests as they are, each
envelope has the records of the requests of its own operation, all envelopes together have those of
all requests that the transport took, and every record has a response or an error and not both. -/
theorem audit_trail_complete (r : Resources) (haddress : r.transport.address = id)
    (orders : List (Gateway × Nat × Service)) (events : List Event)
    (envelopes : List (Envelope Payload))
    (hall : ((opening r orders).run events).tasks.map Task.result? =
      envelopes.map fun env => some (.ok env)) :
    (∀ (who : Nat) env, envelopes[who]? = some env →
      (env.supplierRequests.map recordKey).Perm
        (((opening r orders).exchangesOf who events).map fun x => requestKey x.request)) ∧
    (((opening r orders).run events).resources.transport.log.map requestKey).Perm
      (r.transport.log.map requestKey ++
        (envelopes.flatMap Envelope.supplierRequests).map recordKey) ∧
    ∀ env ∈ envelopes, ∀ record ∈ env.supplierRequests,
      record.response.isSome = !record.error.isSome := by
  have hown : ∀ {who : Nat} {env : Envelope Payload}, envelopes[who]? = some env →
      ∃ c, Audited c ((opening r orders).exchangesOf who events) env.supplierRequests :=
    fun henv => audited_of_answer haddress hall henv
  have hkeys : ∀ (who : Nat) env, envelopes[who]? = some env →
      (env.supplierRequests.map recordKey).Perm
        (((opening r orders).exchangesOf who events).map fun x => requestKey x.request) := by
    intro who env henv
    obtain ⟨c, haudited⟩ := hown henv
    exact haudited.keys
  refine ⟨hkeys, ?_, ?_⟩
  · have hlength : (opening r orders).tasks.length = envelopes.length := by
      have hlengths := congrArg List.length hall
      rw [List.length_map, List.length_map, World.length_tasks_run] at hlengths
      exact hlengths
    have hlog := (World.log_run (opening r orders) events).map requestKey
    rw [transport_opening, hlength, List.map_append, List.map_map, List.map_flatMap] at hlog
    refine hlog.trans (List.Perm.append_left _ ?_)
    rw [List.map_flatMap]
    exact (flatMap_perm_of_getElem? hkeys).symm
  · intro env henv record hrecord
    obtain ⟨who, hwho⟩ := List.getElem?_of_mem henv
    obtain ⟨c, haudited⟩ := hown hwho
    exact haudited.response_xor_error hrecord

/-! ## Two operations with token calls -/

/-- A supplier that issues a token for a number of seconds, and knows of one booking. -/
def issuing (seconds : String) : Resources where
  transport.routes :=
    [{ method := .post, url := "https://supplier.example/auth/token"
       replies :=
        [.respond
          { status := 200
            body := "\x7b\"access_token\":\"t\",\"expires_in\":" ++ seconds ++ "\x7d" }] },
      { method := .get, url := "https://supplier.example/bookings/B1"
        replies :=
          [.respond
            { status := 200, body := "\x7b\"reference\":\"B1\",\"status\":\"pending\"\x7d" }] }]

/-- A gateway that needs a token. -/
def clientGateway : Gateway :=
  { endpoint := { base := "https://supplier.example" }, credential := .client "a" "b" }

/-- One gateway is asked for the state of a known and of an unknown booking. -/
def twoQuestions : List (Gateway × Nat × Service) :=
  [(clientGateway, 0, .status "B1"), (clientGateway, 0, .status "B2")]

/-- Both operations ask for a token before either is issued one, and the second one sends its main
request before the first. -/
def interleaved : List Event :=
  [.task 0 .proceed, .task 1 .proceed, .task 0 .proceed, .task 1 .proceed, .wait 20,
    .task 0 .arrive, .task 1 .arrive, .task 1 .proceed, .task 1 .proceed, .task 0 .proceed,
    .task 1 .proceed, .task 0 .proceed, .task 0 .proceed, .task 0 .arrive, .task 1 .arrive,
    .task 1 .proceed, .task 1 .proceed, .task 0 .proceed, .task 0 .proceed]

/-- Each envelope has the records of a token call and of a main call, and the transport took the
four requests in an order of its own. -/
theorem two_questions_audited :
    ∃ envelopes : List (Envelope Payload),
      ((opening (issuing "300") twoQuestions).run interleaved).tasks.map Task.result? =
        envelopes.map (fun env => some (.ok env)) ∧
      envelopes.map (fun env => env.supplierRequests.map recordKey) =
        [[(.post, "https://supplier.example/auth/token"),
            (.get, "https://supplier.example/bookings/B1")],
          [(.post, "https://supplier.example/auth/token"),
            (.get, "https://supplier.example/bookings/B2")]] ∧
      (((opening (issuing "300") twoQuestions).run interleaved).resources.transport.log.map
          requestKey).Perm
        ((envelopes.flatMap Envelope.supplierRequests).map recordKey) := by
  have hall : ((opening (issuing "300") twoQuestions).run interleaved).tasks.map Task.result? =
      (((opening (issuing "300") twoQuestions).run interleaved).tasks.filterMap fun t =>
        t.result?.bind Except.toOption).map fun env => some (.ok env) := by
    decide +kernel
  obtain ⟨-, hlog, -⟩ :=
    audit_trail_complete (issuing "300") rfl twoQuestions interleaved _ hall
  have hempty : (issuing "300").transport.log = [] := rfl
  rw [hempty, List.map_nil, List.nil_append] at hlog
  exact ⟨_, hall, by decide +kernel, hlog⟩

end Service
end SupplierGateway
