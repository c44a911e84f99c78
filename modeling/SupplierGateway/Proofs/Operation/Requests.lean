import SupplierGateway.Proofs.Operation.Ends

/-!
# The requests of a script

After authentication the requests of a script are sent with the authorization of the run and the
timeout of their phase, and otherwise unchanged.

* `Headers.get?_insert` — the header that was set last;
* `Authorization.header?` and `Carries` — a request with an authorization, header by header;
* `Script.Asks` — a script, which does not authenticate, makes requests of one kind only;
* `Script.Ends.of_call` — the end of a script that begins with a call;
* `Script.Asks.requests` — the requests that a script sends, and the authorization of its run.
-/

namespace SupplierGateway

namespace Http

/-! ## Headers and authorization -/

theorem lookup_insertEntry (name value other : String) (entries : List (String × String)) :
    (insertEntry name value entries).lookup other =
      if other = name then some value else entries.lookup other := by
  rcases eq_or_ne other name with rfl | hother
  · rw [if_pos rfl]
    induction entries with
    | nil => simp [insertEntry]
    | cons entry rest ih =>
        obtain ⟨k, v⟩ := entry
        unfold insertEntry
        split
        · simp
        · split
          · simp
          · next hk => rw [List.lookup_cons, beq_eq_false_iff_ne.mpr hk, ih]
  · rw [if_neg hother]
    have hbeq : (other == name) = false := beq_eq_false_iff_ne.mpr hother
    induction entries with
    | nil => simp [insertEntry, List.lookup_cons, hbeq]
    | cons entry rest ih =>
        obtain ⟨k, v⟩ := entry
        unfold insertEntry
        split
        · simp [List.lookup_cons, hbeq]
        · split
          · next hk =>
            subst hk
            simp [List.lookup_cons, hbeq]
          · rw [List.lookup_cons, List.lookup_cons, ih]

/-- Setting a header gives its name the value, and does not change other names. -/
theorem Headers.get?_insert (h : Headers) (name value other : String) :
    (h.insert name value).get? other = if other = name then some value else h.get? other :=
  lookup_insertEntry name value other h.entries

/-- The header by which requests are authorized. -/
def Authorization.header? : Authorization → Option (String × String)
  | .none => Option.none
  | .bearer token => some ("authorization", "Bearer " ++ token)
  | .header name value => some (Text.lower name, value)

/-- A request as it is sent is the one that was made, with the header by which it is authorized. -/
structure Carries (z : Authorization) (asked sent : Request) : Prop where
  method : sent.method = asked.method
  url : sent.url = asked.url
  body : sent.body = asked.body
  /-- The header has its value, also when the request had one of the same name. -/
  authorized : ∀ name value, z.header? = some (name, value) → sent.headers.get? name = some value
  /-- All other headers are those of the request. -/
  others : ∀ name, z.header?.map Prod.fst ≠ some name →
    sent.headers.get? name = asked.headers.get? name

/-- The pipeline adds to a request its authorization and its timeout only. -/
theorem carries_outgoing (p : Call.Pipeline) (z : Authorization) (q : Request) :
    Carries z q (p.outgoing (q.withAuthorization z)) := by
  have hinsert : ∀ {name value : String} {h : Headers}, z.header? = some (name, value) →
      (p.outgoing (q.withAuthorization z)).headers = h.insert name value → h = q.headers →
      Carries z q (p.outgoing (q.withAuthorization z)) := by
    rintro name value h hheader hheaders rfl
    refine ⟨rfl, rfl, rfl, fun other value' hother => ?_, fun other hother => ?_⟩
    · obtain ⟨rfl, rfl⟩ := Prod.mk.inj (Option.some.inj (hheader.symm.trans hother))
      rw [hheaders, Headers.get?_insert, if_pos rfl]
    · rw [hheader] at hother
      rw [hheaders, Headers.get?_insert, if_neg fun hsame => hother (by rw [hsame]; rfl)]
  cases z with
  | none => exact ⟨rfl, rfl, rfl, by simp [Authorization.header?], fun _ _ => rfl⟩
  | bearer token => exact hinsert rfl rfl rfl
  | header name value => exact hinsert rfl rfl rfl

end Http

namespace Operation

open Audit (CallRecord)
open Call (Exchange Pipeline)
open Http (Carries Request)

variable {α β : Type} {P : Phase → Request → Prop}

/-! ## Requests of a script -/

/-- A script does not authenticate, and all requests that it makes, for any replies, satisfy a
predicate. -/
inductive Script.Asks (P : Phase → Request → Prop) : Script β → Prop
  | done (b : β) : Asks P (.done b)
  | report (f : Failure) (entry : Option LogEntry) (rest : Script β) (hrest : rest.Asks P) :
      Asks P (.report f entry rest)
  | call {α : Type} (phase : Phase) (request : Attempt Request) (decode : String → Attempt α)
      (rest : Option α → Script β) (hrequest : ∀ q, request = .success q → P phase q)
      (hrest : ∀ a, (rest a).Asks P) : Asks P (.call phase request decode rest)
  | fanOut {α : Type} (phase : Phase) (requests : List (Attempt Request))
      (decode : String → Attempt α) (rest : List α → Script β)
      (hrequests : ∀ q, .success q ∈ requests → P phase q)
      (hrest : ∀ values, (rest values).Asks P) : Asks P (.fanOut phase requests decode rest)
  | finish {π : Type} (policy : Policy) (payload empty : π) (rest : Envelope π → Script β)
      (hrest : ∀ env, (rest env).Asks P) : Asks P (.finish policy payload empty rest)

/-- The requests that calls that are made at once send are their own. -/
theorem SpreadEnd.requests {p : Pipeline} {decode : String → Attempt α} {failFast : Bool}
    {requests : List (Attempt Request)} {xs : List (Nat × Exchange)} {rs : List (Nat × CallRecord)}
    {outcomes : List (Except Failure α)}
    (hspread : SpreadEnd p decode failFast requests xs rs outcomes) :
    ∀ x ∈ xs, ∃ q, .success q ∈ requests ∧ x.2.request = p.outgoing q := by
  intro x hx
  have hlt := hspread.exchange_lt x hx
  have hrequest : requests[x.1]? = some requests[x.1] := List.getElem?_eq_getElem hlt
  obtain ⟨o, houtcome⟩ : ∃ o, outcomes[x.1]? = some o :=
    ⟨_, List.getElem?_eq_getElem (hspread.length_eq ▸ hlt)⟩
  have hof : x.2 ∈ ofUnit x.1 xs := by
    simp only [ofUnit, List.mem_map, List.mem_filter]
    exact ⟨x, ⟨hx, beq_self_eq_true _⟩, rfl⟩
  obtain ⟨q, hq, hsent⟩ : ∃ q, requests[x.1] = .success q ∧ x.2.request = p.outgoing q := by
    cases hspread.unit _ _ _ hrequest houtcome with
    | settled _ _ a hcall => exact hcall.undertaken.requests.2 x.2 hof
    | cancelled _ _ _ _ hrequests => exact hrequests x.2 hof
  exact ⟨q, hq ▸ List.getElem_mem hlt, hsent⟩

/-- A request that is made in a run is sent with the authorization of the run. -/
theorem Run.carries_of_authorized {r : Run} {p : Pipeline} {request : Attempt Request}
    {q sent : Request} (hrequest : r.authorized request = .success q)
    (hsent : sent = p.outgoing q) :
    ∃ asked, request = .success asked ∧ Carries r.authorization asked sent := by
  cases request with
  | failure f => exact nomatch hrequest
  | crash text => exact nomatch hrequest
  | success asked =>
      obtain rfl := Attempt.success.inj hrequest
      exact ⟨asked, rfl, hsent ▸ Http.carries_outgoing p r.authorization asked⟩

/-- The end of a script that begins with a call: the request is sent with the authorization of the
run, and the script goes on with the result. -/
theorem Script.Ends.of_call {α : Type} {o : FanOut.Options} {latest : Nat} {phase : Phase}
    {q : Request} {decode : String → Attempt α} {rest : Option α → Script β} {r r' : Run}
    {xs : List Exchange} {result : Except String β}
    (hends : (Script.call phase (.success q) decode rest).Ends o latest r xs r' result) :
    ∃ x zs record, xs = x :: zs ∧
      x.request = (r.pipeline phase).outgoing (q.withAuthorization r.authorization) ∧
      match x.comesTo decode with
      | .success a => (rest (some a)).Ends o latest (r.addRecords [record]) zs r' result
      | .failure f =>
          (rest none).Ends o latest ((r.addRecords [record]).recordError f) zs r' result
      | .crash text => zs = [] ∧ r' = r.addRecords [record] ∧ result = .error text := by
  rw [Script.Ends] at hends
  obtain ⟨ys, zs, rs, a, rfl, hcall, hend⟩ := hends
  cases hcall.undertaken with
  | sent _ x record hrequest _ => exact ⟨x, zs, record, rfl, hrequest, hend⟩

/-- A script sends the requests that it makes, with the authorization of its run and the timeout of
their phase, and the authorization of the run does not change. -/
theorem Script.Asks.sends {o : FanOut.Options} {latest : Nat} {script : Script β}
    (hasks : script.Asks P) {r r' : Run} {xs : List Exchange} {result : Except String β}
    (hends : script.Ends o latest r xs r' result) :
    r'.authorization = r.authorization ∧
      ∀ x ∈ xs, ∃ phase q, P phase q ∧ Carries r.authorization q x.request ∧
        x.request.timeoutMs = r.context.timeouts.resolve phase := by
  induction hasks generalizing r xs with
  | done b =>
      rw [Script.Ends] at hends
      obtain ⟨rfl, rfl, -⟩ := hends
      exact ⟨rfl, nofun⟩
  | report f entry rest _ ih =>
      rw [Script.Ends] at hends
      have hrest := ih hends
      exact hrest
  | call phase request decode rest hrequest _ ih =>
      rw [Script.Ends] at hends
      obtain ⟨ys, zs, rs, a, rfl, hcall, hend⟩ := hends
      have hys : ∀ x ∈ ys, ∃ phase q, P phase q ∧ Carries r.authorization q x.request ∧
          x.request.timeoutMs = r.context.timeouts.resolve phase := by
        intro x hx
        obtain ⟨q, hq, hsent⟩ := hcall.undertaken.requests.2 x hx
        obtain ⟨asked, hasked, hcarries⟩ := Run.carries_of_authorized hq hsent
        exact ⟨phase, asked, hrequest asked hasked, hcarries, hsent ▸ rfl⟩
      cases a with
      | success b =>
          obtain ⟨hsame, hzs⟩ := ih (some b) hend
          exact ⟨hsame, List.forall_mem_append.mpr ⟨hys, hzs⟩⟩
      | failure f =>
          obtain ⟨hsame, hzs⟩ := ih none hend
          exact ⟨hsame, List.forall_mem_append.mpr ⟨hys, hzs⟩⟩
      | crash text =>
          obtain ⟨rfl, rfl, -⟩ := hend
          exact ⟨rfl, List.forall_mem_append.mpr ⟨hys, nofun⟩⟩
  | fanOut phase requests decode rest hrequests _ ih =>
      rw [Script.Ends] at hends
      obtain ⟨ys, zs, rs, outcomes, rfl, hspread, hend⟩ := hends
      obtain ⟨hsame, hzs⟩ := ih _ hend
      refine ⟨hsame, List.forall_mem_append.mpr ⟨fun x hx => ?_, hzs⟩⟩
      obtain ⟨y, hy, rfl⟩ := List.mem_map.mp hx
      obtain ⟨q, hq, hsent⟩ := hspread.requests y hy
      obtain ⟨request, hrequest, hauthorized⟩ := List.mem_map.mp hq
      obtain ⟨asked, rfl, hcarries⟩ := Run.carries_of_authorized hauthorized hsent
      exact ⟨phase, asked, hrequests asked hrequest, hcarries, hsent ▸ rfl⟩
  | finish policy payload empty rest _ ih =>
      rw [Script.Ends] at hends
      exact ih _ hends

/-- A script sends the requests that it makes, with the authorization of its run, and the
authorization of the run does not change. -/
theorem Script.Asks.requests {o : FanOut.Options} {latest : Nat} {script : Script β}
    (hasks : script.Asks P) {r r' : Run} {xs : List Exchange} {result : Except String β}
    (hends : script.Ends o latest r xs r' result) :
    r'.authorization = r.authorization ∧
      ∀ x ∈ xs, ∃ phase q, P phase q ∧ Carries r.authorization q x.request := by
  obtain ⟨hsame, hsends⟩ := hasks.sends hends
  refine ⟨hsame, fun x hx => ?_⟩
  obtain ⟨phase, q, hq, hcarries, -⟩ := hsends x hx
  exact ⟨phase, q, hq, hcarries⟩

end Operation
end SupplierGateway
