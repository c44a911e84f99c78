import SupplierGateway.Proofs.Operation.Trace

/-!
# Sources of crashes

A supplier may reply with any response or error of the transport, at any time.  If the transport
itself does not crash, every call is delivered an outcome, and a script whose requests and decoders
do not crash has a result.

* `Transport.Calm` — no reply of a transport crashes;
* `Calm.send` — the transport stays calm after any request;
* `World.answered_exchangesOf` — in a world with a calm transport every exchange has an outcome;
* `Script.Careful` — a script does not crash of its own, and does not authenticate;
* `Script.Careful.exists_result` — such a script has a result.
-/

namespace SupplierGateway

namespace Http

/-- The delivery of a reply is a response or an error. -/
def Reply.Answers (reply : Reply) : Prop := ∃ o, reply.delivery = .outcome o

/-- No reply of the transport crashes, from a route or for a request without one. -/
structure Transport.Calm (t : Transport) : Prop where
  routes : ∀ route ∈ t.routes, ∀ reply ∈ route.replies, reply.Answers
  otherwise : ∀ log r, (t.otherwise log r).Answers

namespace Transport

variable {q : Request} {routes left : List Route} {reply : Reply}

/-- A reply that is taken from calm routes does not crash, and neither do those that are left. -/
theorem answers_takeReply (hroutes : ∀ route ∈ routes, ∀ x ∈ route.replies, x.Answers)
    (htake : takeReply q routes = some (reply, left)) :
    reply.Answers ∧ ∀ route ∈ left, ∀ x ∈ route.replies, x.Answers := by
  induction routes generalizing left with
  | nil => exact nomatch htake
  | cons route rest ih =>
      obtain ⟨hroute, hrest⟩ := List.forall_mem_cons.mp hroutes
      unfold takeReply at htake
      split at htake
      · obtain ⟨⟨first, after⟩, hnext, htaken⟩ := Option.map_eq_some_iff.mp htake
        obtain ⟨rfl, rfl⟩ := Prod.mk.inj htaken
        -- The last reply of a route stays for later requests, any other one is used up.
        unfold Route.next? at hnext
        split at hnext
        · exact nomatch hnext
        · next last hreplies =>
          obtain ⟨rfl, rfl⟩ := Prod.mk.inj (Option.some.inj hnext)
          exact ⟨hroute _ (by simp [hreplies]), List.forall_mem_cons.mpr ⟨hroute, hrest⟩⟩
        · next next others hne hreplies =>
          obtain ⟨rfl, rfl⟩ := Prod.mk.inj (Option.some.inj hnext)
          refine ⟨hroute _ (by simp [hreplies]), List.forall_mem_cons.mpr ⟨?_, hrest⟩⟩
          exact fun x hx => hroute x (by rw [hreplies]; exact List.mem_cons_of_mem _ hx)
      · obtain ⟨⟨first, after⟩, hnext, htaken⟩ := Option.map_eq_some_iff.mp htake
        obtain ⟨rfl, rfl⟩ := Prod.mk.inj htaken
        obtain ⟨hreply, hafter⟩ := ih hrest hnext
        exact ⟨hreply, List.forall_mem_cons.mpr ⟨hroute, hafter⟩⟩

/-- A calm transport stays calm, and its reply does not crash. -/
theorem Calm.send {t : Transport} (hcalm : t.Calm) (q : Request) :
    (t.send q).1.Calm ∧ (t.send q).2.Answers := by
  simp only [Transport.send]
  split
  · next reply routes htake =>
    obtain ⟨hreply, hroutes⟩ := answers_takeReply hcalm.routes htake
    exact ⟨⟨hroutes, hcalm.otherwise⟩, hreply⟩
  · exact ⟨⟨hcalm.routes, hcalm.otherwise⟩, hcalm.otherwise _ _⟩

end Transport
end Http

namespace Call

variable {α : Type}

/-- The delivery of the exchange is an outcome, possibly the timeout. -/
def Exchange.Answered (x : Exchange) : Prop := ∃ o, x.delivery = .outcome o

theorem Exchange.answered {x : Exchange} (hreply : x.reply.Answers) : x.Answered := by
  unfold Exchange.Answered Exchange.delivery withinDeadline
  split
  · exact hreply
  · exact ⟨_, rfl⟩

/-- A call whose request and decoder do not crash, and to which an outcome is delivered, does not
crash. -/
theorem Undertaken.ne_crash {p : Pipeline} {decode : String → Attempt α}
    {request : Attempt Http.Request} {xs : List Exchange} {rs : List Audit.CallRecord}
    {a : Attempt α} (hcall : Undertaken p decode request xs rs a)
    (hrequest : ∀ text, request ≠ .crash text) (hreads : ∀ body text, decode body ≠ .crash text)
    (hanswered : ∀ x ∈ xs, x.Answered) (text : String) : a ≠ .crash text := by
  intro hcrash
  cases hcall with
  | unsent f => exact nomatch hcrash
  | crashed other => exact hrequest other rfl
  | sent q x record hsent hrecord =>
      obtain ⟨o, ho⟩ := hanswered x List.mem_cons_self
      rw [x.delivery_of_crash hreads hcrash] at ho
      exact nomatch ho

end Call

namespace Operation

open Call (Exchange)

variable {α β : Type}

namespace World

/-- In a world with a calm transport every exchange of a task has an outcome. -/
theorem answered_exchangesOf {w : World β} (hcalm : w.resources.transport.Calm) (who : Nat)
    (events : List Event) : ∀ x ∈ w.exchangesOf who events, x.Answered :=
  forall_exchangesOf (fun _ q ht => (ht.send q).1) (fun _ q ht => Exchange.answered (ht.send q).2)
    hcalm who events

end World

/-- A script does not authenticate, and its requests and decoders do not crash.  A crash of one of
several calls that are made at once is a failure of that call only. -/
inductive Script.Careful : Script β → Prop
  | done (result : β) : Careful (.done result)
  | report (f : Failure) (entry : Option LogEntry) (rest : Script β) (hrest : rest.Careful) :
      Careful (.report f entry rest)
  | call {α : Type} (phase : Phase) (request : Attempt Http.Request) (decode : String → Attempt α)
      (rest : Option α → Script β) (hrequest : ∀ text, request ≠ .crash text)
      (hreads : ∀ body text, decode body ≠ .crash text) (hrest : ∀ a, (rest a).Careful) :
      Careful (.call phase request decode rest)
  | fanOut {α : Type} (phase : Phase) (requests : List (Attempt Http.Request))
      (decode : String → Attempt α) (rest : List α → Script β)
      (hrest : ∀ values, (rest values).Careful) : Careful (.fanOut phase requests decode rest)
  | finish {π : Type} (policy : Policy) (payload empty : π) (rest : Envelope π → Script β)
      (hrest : ∀ env, (rest env).Careful) : Careful (.finish policy payload empty rest)

/-- When every exchange has an outcome, a careful script has a result. -/
theorem Script.Careful.exists_result {o : FanOut.Options} {latest : Nat} {script : Script β}
    (hcareful : script.Careful) {r r' : Run} {xs : List Exchange} {result : Except String β}
    (hends : script.Ends o latest r xs r' result) (hanswered : ∀ x ∈ xs, x.Answered) :
    ∃ b, result = .ok b := by
  induction hcareful generalizing r xs with
  | done b => exact ⟨b, hends.2.2⟩
  | report f entry rest hrest ih => exact ih hends hanswered
  | call phase request decode rest hrequest hreads hrest ih =>
      rw [Script.Ends] at hends
      obtain ⟨ys, zs, rs, a, rfl, hcall, hend⟩ := hends
      obtain ⟨hys, hzs⟩ := List.forall_mem_append.mp hanswered
      cases a with
      | success x => exact ih _ hend hzs
      | failure f => exact ih _ hend hzs
      | crash text =>
          have hauthorized : ∀ text, r.authorized request ≠ .crash text := by
            cases request with
            | success q => exact fun text => by simp [Run.authorized, Attempt.map]
            | failure f => exact fun text => by simp [Run.authorized, Attempt.map]
            | crash other => exact absurd rfl (hrequest other)
          exact absurd rfl (hcall.undertaken.ne_crash hauthorized hreads hys text)
  | fanOut phase requests decode rest hrest ih =>
      rw [Script.Ends] at hends
      obtain ⟨ys, zs, rs, outcomes, rfl, hspread, hend⟩ := hends
      -- For any results of the units, the script goes on with the values of those that succeeded.
      exact ih _ hend (List.forall_mem_append.mp hanswered).2
  | finish policy payload empty rest hrest ih => exact ih _ hends hanswered

/-- When every exchange has an outcome, authentication crashes only if the issued token would expire
beyond the clock. -/
theorem Authenticates.of_crash {latest : Nat} {r after : Run} {xs : List Exchange} {text : String}
    (hauth : Authenticates latest r xs (.crash text) after)
    (hanswered : ∀ x ∈ xs, x.Answered) :
    r.context.credential.requiresToken = true ∧ text = Cache.CacheError.beyondClock.message ∧
      ∃ x t, xs = [x] ∧ x.comesTo readIssued = .success t ∧
        Cache.BeyondClock latest (.ofSecs t.lifetimeSecs) := by
  cases hauth with
  | crashed hcredential _ rs _ hcall =>
      -- Neither making the token request nor reading its body crashes.
      exact absurd rfl (hcall.ne_crash (fun text => Attempt.ofExcept_ne_crash _ text)
        (fun body text => Attempt.ofExcept_ne_crash _ text) hanswered text)
  | unstorable hcredential _ rs t hcall hbeyond =>
      refine ⟨hcredential, rfl, ?_⟩
      generalize r.tokenRequest = request at hcall
      generalize hissued : Attempt.success t = a at hcall
      cases hcall with
      | unsent f => exact nomatch hissued
      | crashed other => exact nomatch hissued
      | sent q x record hsent hrecord => exact ⟨x, t, rfl, hissued.symm, hbeyond⟩

end Operation
end SupplierGateway
