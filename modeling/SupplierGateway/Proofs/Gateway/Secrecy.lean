import SupplierGateway.Proofs.Gateway.AuthenticationGate
import SupplierGateway.Proofs.Operation.Lockstep

/-!
# Operations that are carried out twice

The same operations are carried out twice, by gateways and over transports that correspond.  Then
the answers are equal through the view of the correspondence, after any events, and also when the
operations are left to themselves.

* `Answer` and `answers` — the results of operations after given events;
* `asksNoToken_script` — no operation asks for a token other than by authenticating;
* `Correspondence.Gateways` and `Correspondence.Orders` — gateways that correspond, and orders of
  the same operations to them;
* `Correspondence.gateways_refl` and `Correspondence.shares_of_transport` — conditions under which
  gateways and resources correspond to themselves;
* `Correspondence.answers_through` and `Correspondence.perform_through` — the answers are equal
  through the view.
-/

namespace SupplierGateway

/-- A token request can be made for credentials that need a token. -/
theorem Credential.exists_tokenRequest {c : Credential} (hrequired : c.requiresToken = true)
    (e : Endpoint) : ∃ q, Supplier.token e c = .ok q := by
  cases c with
  | none => exact nomatch hrequired
  | apiKey header value => exact nomatch hrequired
  | client id secret => exact ⟨_, rfl⟩

open Operation (Context Correspondence Envelope Event Resources Script Task World
  initialAuthorization)
open Supplier (AsksForToken)

namespace Service

variable {g : Gateway} {s : Service}

/-! ## Answers -/

/-- The result of an operation: none yet, an envelope or the text of a crash. -/
abbrev Answer := Option (Except String (Envelope Payload))

/-- An answer with its records mapped through a view. -/
def Answer.through (view : Audit.CallRecord → Audit.CallRecord) (a : Answer) : Answer :=
  a.map (Except.map (Envelope.through view))

theorem Answer.through_id : Answer.through id = id := by
  funext a
  cases a with
  | none => rfl
  | some result =>
      cases result with
      | error text => rfl
      | ok e => simp [through, Envelope.through, Except.map]

/-- The results of operations after given events. -/
def answers (r : Resources) (orders : List (Gateway × Nat × Service)) (events : List Event) :
    List Answer :=
  ((opening r orders).run events).tasks.map Task.result?

/-! ## No token requests but for authentication -/

/-- The last character of an address is that of its path. -/
theorem getLast?_url (e : Endpoint) {path : String} (hpath : path.toList ≠ []) :
    (e.url path).toList.getLast? = path.toList.getLast? := by
  rw [Endpoint.url, String.toList_append, List.getLast?_append_of_ne_nil _ hpath]

/-- A request to a path with another last character than that for tokens asks for no token. -/
theorem not_asksForToken_of_path {q : Http.Request} (e : Endpoint) {path : String}
    (hurl : q.url = e.url path) (hpath : path.toList ≠ [])
    (hlast : path.toList.getLast? ≠ some 'n') : ¬ AsksForToken q := by
  rintro ⟨-, e', htoken⟩
  have hsame := congrArg (fun url => url.toList.getLast?) (hurl.symm.trans htoken)
  rw [getLast?_url e hpath, getLast?_url e' (by decide)] at hsame
  exact hlast (hsame.trans (by decide))

/-- The requests of operations after authentication ask for no token. -/
theorem Asked.not_asksForToken {phase : Phase} {q : Http.Request} (hasked : Asked g s phase q) :
    ¬ AsksForToken q := by
  cases hasked with
  | page n => exact fun htoken => nomatch htoken.1
  | availability r => exact not_asksForToken_of_path g.endpoint rfl (by decide) (by decide)
  | quote r c => exact not_asksForToken_of_path g.endpoint rfl (by decide) (by decide)
  | booking r => exact not_asksForToken_of_path g.endpoint rfl (by decide) (by decide)
  | status reference q hbuilt =>
      exact fun htoken => nomatch (Supplier.aboutBooking_ok hbuilt).2.1.symm.trans htoken.1
  | cancel reference q hbuilt =>
      exact fun htoken => nomatch (Supplier.aboutBooking_ok hbuilt).2.1.symm.trans htoken.1

/-- No operation asks for a token other than by authenticating. -/
theorem asksNoToken_script (g : Gateway) (s : Service) : (s.script g).AsksNoToken := by
  refine .authenticate _ fun a => ?_
  cases a with
  | ok _ =>
      exact (closes_mainCall g s).asksNoToken (asks_mainCall g s) fun _ _ => Asked.not_asksForToken
  | error f => exact .finish s.policy s.empty s.empty

end Service

/-! ## Gateways -/

namespace Operation
namespace Correspondence

open Service (Answer answers opening perform)

variable (rel : Correspondence)

/-- Two gateways of the same supplier authorize their requests in ways that correspond. -/
structure Gateways (g g' : Gateway) : Prop where
  endpoint : g.endpoint = g'.endpoint
  maxPages : g.maxPages = g'.maxPages
  fanOut : g.fanOut = g'.fanOut
  context : ∀ phase, rel.Contexts (g.context phase) (g'.context phase)
  authorized : ∀ q, ¬ AsksForToken q →
    rel.request (q.withAuthorization (initialAuthorization g.credential))
      (q.withAuthorization (initialAuthorization g'.credential))

/-- Two orders of the same operation to gateways that correspond. -/
structure Orders (order order' : Gateway × Nat × Service) : Prop where
  gateways : rel.Gateways order.1 order'.1
  asked : order.2 = order'.2

variable {rel} {r r' : Resources} {orders orders' : List (Gateway × Nat × Service)}

/-- A gateway corresponds to itself when all keys and requests do. -/
theorem gateways_refl (hkey : ∀ k, rel.key k k) (hrequest : ∀ q, ¬ AsksForToken q → rel.request q q)
    (htoken : ∀ q, rel.tokenRequest q q) (g : Gateway) : rel.Gateways g g where
  endpoint := rfl
  maxPages := rfl
  fanOut := rfl
  context phase :=
    { timeouts := rfl
      required := rfl
      clients := fun hrequired => by
        obtain ⟨q, hq⟩ := g.credential.exists_tokenRequest hrequired g.endpoint
        exact ⟨hkey _, q, q, hq, hq, htoken q⟩ }
  authorized q hother := hrequest (q.withAuthorization _) hother

theorem value_refl (htoken : ∀ s, rel.token s s) (c : Cache.CachedCredential) :
    rel.pairing.value c c :=
  ⟨htoken c.token, rfl⟩

/-- A store corresponds to itself when all keys and tokens do. -/
theorem stores_refl (hkey : ∀ k, rel.key k k) (htoken : ∀ s, rel.token s s)
    (backend : Cache.Backend) : rel.pairing.Stores backend backend :=
  Cache.Pairing.stores_refl (P := rel.pairing) hkey (value_refl htoken) backend

/-- Resources correspond if their transports do and they are equal otherwise. -/
theorem shares_of_transport (hkey : ∀ k, rel.key k k) (htoken : ∀ s, rel.token s s)
    {transport : Http.Transport} (htransport : rel.transport r.transport transport) :
    rel.Shares r { r with transport } where
  transport := htransport
  caches _ := Cache.Pairing.caches_refl (P := rel.pairing) hkey (value_refl htoken) _
  clockMs := rfl

/-- A script depends on the endpoint and the limit of pages only. -/
theorem script_eq {g g' : Gateway} (hgateways : rel.Gateways g g') (s : Service) :
    s.script g = s.script g' := by
  obtain ⟨endpoint, credential, timeouts, fanOut, maxPages, singleFlight⟩ := g
  obtain ⟨endpoint', credential', timeouts', fanOut', maxPages', singleFlight'⟩ := g'
  obtain ⟨rfl, rfl, -, -, -⟩ := hgateways
  cases s <;> rfl

/-- Gateways that correspond begin tasks that correspond. -/
theorem tasks_task {g g' : Gateway} (hgateways : rel.Gateways g g') (cache : Nat) (s : Service) :
    rel.Tasks (s.task g cache) (s.task g' cache) where
  run := ⟨hgateways.context s.phase, hgateways.authorized, rfl, rfl⟩
  options := hgateways.fanOut
  cache := rfl
  stage := by
    simp only [Service.task, Task.start, script_eq hgateways]
    exact .ready _ (Service.asksNoToken_script g' s)

/-- The worlds in which operations begin correspond. -/
theorem worlds_opening (hshares : rel.Shares r r')
    (horders : List.Forall₂ rel.Orders orders orders') :
    rel.Worlds (opening r orders) (opening r' orders') where
  shares := by
    refine ⟨?_, fun number => ?_, ?_⟩
    · rw [Service.transport_opening, Service.transport_opening]
      exact hshares.transport
    · rw [Service.cache_opening, Service.cache_opening]
      exact hshares.caches number
    · rw [Service.clockMs_opening, Service.clockMs_opening]
      exact hshares.clockMs
  tasks who := by
    rw [Service.tasks_opening, Service.tasks_opening]
    induction horders generalizing who with
    | nil => exact .none
    | @cons order order' _ _ horder _ ih =>
        cases who with
        | zero =>
            obtain ⟨g, cache, s⟩ := order
            obtain ⟨g', cache', s'⟩ := order'
            obtain ⟨hgateways, hasked⟩ := horder
            obtain ⟨rfl, rfl⟩ := Prod.mk.inj hasked
            exact .some (tasks_task hgateways cache s)
        | succ who => exact ih who

/-- The results of worlds that correspond are equal through the view, task by task. -/
theorem Worlds.results {w w' : World (Envelope Payload)} (hworlds : rel.Worlds w w') :
    (w.tasks.map Task.result?).map (Answer.through rel.view) =
      (w'.tasks.map Task.result?).map (Answer.through rel.view) := by
  refine List.ext_getElem? fun who => ?_
  have htask := hworlds.tasks who
  simp only [List.getElem?_map]
  generalize w.tasks[who]? = task at htask
  generalize w'.tasks[who]? = task' at htask
  cases htask with
  | none => rfl
  | some htasks => exact congrArg some htasks.result

/-- After the same events, the answers are equal through the view. -/
theorem answers_through (hshares : rel.Shares r r')
    (horders : List.Forall₂ rel.Orders orders orders') (events : List Event)
    (hreplace : ∀ number backend, .replace number backend ∈ events →
      rel.pairing.Stores backend backend) :
    (answers r orders events).map (Answer.through rel.view) =
      (answers r' orders' events).map (Answer.through rel.view) :=
  (run_worlds (worlds_opening hshares horders) hreplace).results

/-- The answers of operations that are left to themselves are equal through the view. -/
theorem perform_through (hshares : rel.Shares r r')
    (horders : List.Forall₂ rel.Orders orders orders') :
    (perform r orders).2.map (Answer.through rel.view) =
      (perform r' orders').2.map (Answer.through rel.view) :=
  (settled_worlds (worlds_opening hshares horders)).results

end Correspondence
end Operation
end SupplierGateway
