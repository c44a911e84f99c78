import SupplierGateway.Proofs.Call.Exchange

/-!
# Dependence of replies on requests

The replies of a transport may depend on less than the whole request: on its image under some
function, the *aspect*.  Two transports that give related replies to requests of equal aspects do so
after every request as well, since the state of a transport consists of its routes and of the
requests that it has taken.

* `Transport.DependsOnlyOn` — the replies of a transport depend on an aspect of requests only;
* `Transport.RepliesAlike` — two transports give related replies to requests of equal aspects;
* `Transport.RepliesAlike.send` — the relation is kept by requests of equal aspects.
-/

namespace SupplierGateway
namespace Http

open Call (requestKey)

variable {γ : Type}

/-- Two routes have the same method and address, and queues of related replies. -/
structure Route.RepliesAlike (alike : Method × String → Reply → Reply → Prop)
    (route route' : Route) : Prop where
  method : route.method = route'.method
  url : route.url = route'.url
  replies : List.Forall₂ (alike (route.method, route.url)) route.replies route'.replies

namespace Transport

/-- The reply to a request is a function of its aspect and of those of the requests before it, and
so is the aspect of the request that is sent in its place. -/
structure DependsOnlyOn (aspect : Request → γ) (t : Transport) : Prop where
  otherwise : ∀ log log' q q', log.map aspect = log'.map aspect → aspect q = aspect q' →
    t.otherwise log q = t.otherwise log' q'
  address : ∀ q q', aspect q = aspect q' → aspect (t.address q) = aspect (t.address q')

/-- Two transports give related replies to requests of equal aspects.  The relation may depend on
the method and the address. -/
structure RepliesAlike (aspect : Request → γ) (alike : Method × String → Reply → Reply → Prop)
    (t t' : Transport) : Prop where
  routes : List.Forall₂ (Route.RepliesAlike alike) t.routes t'.routes
  otherwise : ∀ log log' q q', log.map aspect = log'.map aspect → aspect q = aspect q' →
    alike (requestKey q) (t.otherwise log q) (t'.otherwise log' q')
  address : ∀ q q', aspect q = aspect q' → aspect (t.address q) = aspect (t'.address q')
  log : t.log.map aspect = t'.log.map aspect

variable {aspect : Request → γ} {alike : Method × String → Reply → Reply → Prop} {t t' : Transport}

/-- The replies of a transport that follows a script, without a rule for other requests, depend on
the method and the address only. -/
theorem dependsOnlyOn_scripted (hkey : ∀ q q', aspect q = aspect q' → requestKey q = requestKey q')
    (routes : List Route) : ({ routes } : Transport).DependsOnlyOn aspect where
  otherwise log log' q q' _ haspect := by
    obtain ⟨hmethod, hurl⟩ := Prod.mk.inj (hkey q q' haspect)
    simp only [unreachable, hmethod, hurl]
  address _ _ haspect := haspect

/-- A transport that depends on an aspect only gives equal replies to requests of equal aspects. -/
theorem DependsOnlyOn.repliesAlike (honly : t.DependsOnlyOn aspect) :
    t.RepliesAlike aspect (fun _ => Eq) t where
  routes := List.forall₂_same.mpr fun _ _ => ⟨rfl, rfl, List.forall₂_same.mpr fun _ _ => rfl⟩
  otherwise := honly.otherwise
  address := honly.address
  log := rfl

/-- The next replies of two related routes are related, and so are the routes without them. -/
theorem next?_repliesAlike {route route' : Route} (halike : Route.RepliesAlike alike route route') :
    Option.Rel
      (fun x x' => alike (route.method, route.url) x.1 x'.1 ∧ Route.RepliesAlike alike x.2 x'.2)
      route.next? route'.next? := by
  obtain ⟨method, url, replies⟩ := route
  obtain ⟨_, _, replies'⟩ := route'
  obtain ⟨rfl, rfl, hreplies⟩ := halike
  cases hreplies with
  | nil => exact .none
  | @cons first first' rest rest' hfirst hrest =>
      cases hrest with
      | nil => exact .some ⟨hfirst, rfl, rfl, .cons hfirst .nil⟩
      | cons hsecond hothers => exact .some ⟨hfirst, rfl, rfl, .cons hsecond hothers⟩

/-- Related routes have related replies for requests with the same method and address. -/
theorem takeReply_repliesAlike {q q' : Request} (hkey : requestKey q = requestKey q')
    {routes routes' : List Route}
    (hroutes : List.Forall₂ (Route.RepliesAlike alike) routes routes') :
    Option.Rel
      (fun x x' => alike (requestKey q) x.1 x'.1 ∧ List.Forall₂ (Route.RepliesAlike alike) x.2 x'.2)
      (takeReply q routes) (takeReply q' routes') := by
  obtain ⟨hmethod, hurl⟩ := Prod.mk.inj hkey
  induction hroutes with
  | nil => exact .none
  | @cons route route' rest rest' hroute hrest ih =>
      have hanswers : route'.answers q' = route.answers q := by
        simp only [Route.answers, hroute.method, hroute.url, hmethod, hurl]
      simp only [takeReply, hanswers]
      split
      · next hyes =>
        obtain ⟨hroutesMethod, hroutesUrl⟩ : route.method = q.method ∧ route.url = q.url := by
          simpa [Route.answers] using hyes
        have hnext := next?_repliesAlike hroute
        generalize route.next? = next at hnext
        generalize route'.next? = next' at hnext
        cases hnext with
        | none => exact .none
        | some hboth =>
            refine .some ⟨?_, .cons hboth.2 hrest⟩
            rw [requestKey, ← hroutesMethod, ← hroutesUrl]
            exact hboth.1
      · generalize takeReply q rest = taken at ih
        generalize takeReply q' rest' = taken' at ih
        cases ih with
        | none => exact .none
        | some hboth => exact .some ⟨hboth.1, .cons hroute hboth.2⟩

/-- Requests of equal aspects are given related replies, and leave related transports. -/
theorem RepliesAlike.send (hkey : ∀ q q', aspect q = aspect q' → requestKey q = requestKey q')
    (halike : RepliesAlike aspect alike t t') {q q' : Request} (haspect : aspect q = aspect q') :
    RepliesAlike aspect alike (t.send q).1 (t'.send q').1 ∧
      alike (requestKey (t.address q)) (t.send q).2 (t'.send q').2 := by
  have haddress := halike.address q q' haspect
  have htaken := takeReply_repliesAlike (hkey _ _ haddress) halike.routes
  have hlog : (t.log ++ [t.address q]).map aspect = (t'.log ++ [t'.address q']).map aspect := by
    rw [List.map_append, List.map_append, halike.log, List.map_singleton, List.map_singleton,
      haddress]
  simp only [Transport.send]
  generalize takeReply (t.address q) t.routes = taken at htaken
  generalize takeReply (t'.address q') t'.routes = taken' at htaken
  cases htaken with
  | none =>
      exact ⟨⟨halike.routes, halike.otherwise, halike.address, hlog⟩,
        halike.otherwise _ _ _ _ halike.log haddress⟩
  | some hboth =>
      exact ⟨⟨hboth.2, halike.otherwise, halike.address, hlog⟩, hboth.1⟩

end Transport
end Http
end SupplierGateway
