import SupplierGateway.Proofs.Operation.Trace

/-!
# Sources of tokens

A task authorizes its requests with a token that it found in its cache at one of its own turns, or
that was issued by the token call that it made itself, in any interleaving with other tasks and for
any changes of the store behind the cache.

* `Cache.value?_advance` and `value?_loaded` — the value of a lookup was read, or was loaded;
* `Task.fixed_move` — the parts of a task that no move changes;
* `Task.Vouched` — the invariant: every token that a task has got was found or issued;
* `World.Found` and `World.Issued` — the two sources of a token, in terms of the events of a world,
  and `World.Obtained` — either of them;
* `World.vouched_run` — in a world every token that a task has got was found or issued.
-/

namespace SupplierGateway

namespace Cache

variable {α : Type}

/-- The value of a lookup, if it has one. -/
def Phase.value? : Phase α → Option α
  | storing _ a _ | leaving _ (.success a) | done (.success a) => some a
  | _ => none

/-- The next turn of a lookup is to read the cache. -/
def Phase.Reads : Phase α → Prop
  | reading | rereading _ => True
  | sweeping | asking | queueing _ | waiting _ | resweeping _ | loading _ | storing ..
  | leaving .. | done _ => False

/-- A lookup that has a value after a turn, and had none before, read it at the turn. -/
theorem value?_advance {codec : Codec α} {clockMs who : Nat} {key : String} {c : Cache}
    {phase : Phase α} {a : α}
    (hvalue : (c.advance codec clockMs who key phase).phase.value? = some a) :
    phase.value? = some a ∨
      phase.Reads ∧ ∃ lines, c.glance codec clockMs key = (.hit a, lines) := by
  have hnone : (none : Option α) ≠ some a := (Option.some_ne_none a).symm
  have hmiss : (c.afterMiss : Phase α).value? = none := by
    unfold afterMiss
    split <;> rfl
  cases phase with
  | reading =>
      simp only [advance] at hvalue
      split at hvalue
      · next found lines hglance =>
        obtain rfl := Option.some.inj hvalue
        exact .inr ⟨trivial, lines, hglance⟩
      · exact (hnone (hmiss.symm.trans hvalue)).elim
      · exact (hnone hvalue).elim
  | sweeping => exact (hnone (hmiss.symm.trans hvalue)).elim
  | waiting lock =>
      simp only [advance] at hvalue
      split at hvalue <;> exact (hnone hvalue).elim
  | rereading lock =>
      simp only [advance] at hvalue
      split at hvalue
      · next found lines hglance =>
        obtain rfl := Option.some.inj hvalue
        exact .inr ⟨trivial, lines, hglance⟩
      · exact (hnone hvalue).elim
      · exact (hnone hvalue).elim
  | storing lock? b ttl =>
      simp only [advance] at hvalue
      split at hvalue
      · exact .inl hvalue
      · exact (hnone hvalue).elim
      · exact .inl hvalue
  | leaving lock? result => cases lock? <;> cases result <;> exact .inl hvalue
  | asking | queueing | resweeping | loading => exact (hnone hvalue).elim
  | done result => exact .inl hvalue

/-- A lookup that has a value after its load ended has the loaded one. -/
theorem value?_loaded {key : String} {result : Attempt (α × Lifetime)} {phase : Phase α} {a : α}
    (hvalue : (loaded key result phase).1.value? = some a) :
    phase.value? = some a ∨ ∃ ttl, result = .success (a, ttl) := by
  have hnone : (none : Option α) ≠ some a := (Option.some_ne_none a).symm
  cases phase with
  | loading lock? =>
      cases result with
      | success loadedValue =>
          obtain ⟨b, ttl⟩ := loadedValue
          simp only [loaded] at hvalue
          split at hvalue
          · obtain rfl := Option.some.inj hvalue
            exact .inr ⟨ttl, rfl⟩
          · obtain rfl := Option.some.inj hvalue
            exact .inr ⟨ttl, rfl⟩
      | failure f => exact (hnone hvalue).elim
      | crash text => exact (hnone hvalue).elim
  | reading | sweeping | asking | queueing | waiting | rereading | resweeping | storing | leaving
    | done => exact .inl hvalue

end Cache

namespace Operation

open Cache (CachedCredential)
open Call (Exchange Pending exchanges)

variable {α β : Type}

namespace Task

/-! ## Parts that no move changes -/

/-- A task with the context, the options and the cache of another one. -/
structure Fixed (t t' : Task β) : Prop where
  context : t'.run.context = t.run.context
  options : t'.options = t.options
  cache : t'.cache = t.cache

theorem Fixed.trans {t t' t'' : Task β} (hfirst : t.Fixed t') (hsecond : t'.Fixed t'') :
    t.Fixed t'' where
  context := hsecond.context.trans hfirst.context
  options := hsecond.options.trans hfirst.options
  cache := hsecond.cache.trans hfirst.cache

theorem Fixed.tokenKey {t t' : Task β} (hfixed : t.Fixed t') : t'.tokenKey = t.tokenKey := by
  rw [Task.tokenKey, hfixed.context]
  rfl

theorem Fixed.pipeline {t t' : Task β} (hfixed : t.Fixed t') (phase : Phase) :
    t'.run.pipeline phase = t.run.pipeline phase := by
  rw [Run.pipeline, hfixed.context]
  rfl

theorem Fixed.tokenRequest {t t' : Task β} (hfixed : t.Fixed t') :
    t'.run.tokenRequest = t.run.tokenRequest := by
  rw [Run.tokenRequest, hfixed.context]
  rfl

theorem fixed_follow (t : Task β) (r : Resources) (who : Nat) (token : Option TokenCall)
    (rest : Except Failure Unit → Script β) (lookup : Cache.Phase CachedCredential) :
    t.Fixed (t.follow r who token rest lookup).task := by
  unfold follow
  split
  · exact ⟨rfl, rfl, rfl⟩
  · exact ⟨rfl, rfl, rfl⟩
  · simp only
    split <;> exact ⟨rfl, rfl, rfl⟩
  · exact ⟨rfl, rfl, rfl⟩
  · exact ⟨rfl, rfl, rfl⟩
  · exact ⟨rfl, rfl, rfl⟩
  · exact ⟨rfl, rfl, rfl⟩

/-- No move changes the context of a task, its options or its cache. -/
theorem fixed_move (t : Task β) (r : Resources) (who : Nat) (m : Move) :
    t.Fixed (t.move r who m).task := by
  unfold move
  split
  · next script _ =>
    cases script with
    | authenticate rest =>
        simp only [carryOut]
        split <;> exact ⟨rfl, rfl, rfl⟩
    | done | report | call | fanOut | finish => exact ⟨rfl, rfl, rfl⟩
  · exact t.fixed_follow _ _ _ _ _
  · next token rest _ _ =>
    refine ⟨?_, rfl, rfl⟩
    simp only [arriveToken]
    split <;> rfl
  · unfold arriveCall
    simp only
    split <;> exact ⟨rfl, rfl, rfl⟩
  · split <;> exact ⟨rfl, rfl, rfl⟩
  · exact ⟨rfl, rfl, rfl⟩
  · exact ⟨rfl, rfl, rfl⟩

/-! ## Sources of tokens -/

end Task

/-- The lookup of a stage, with the token call in progress. -/
def Stage.lookup? : Stage β → Option (Cache.Phase CachedCredential × Option TokenCall)
  | .authenticating lookup token _ => some (lookup, token)
  | .ready _ | .calling .. | .spreading .. | .done _ | .crashed _ => none

namespace Task

/-- Every token of a task is known, and the token call in progress was sent. -/
structure Vouched (known : String → Prop) (sent : Exchange → Prop) (t : Task β) : Prop where
  authorization : ∀ token, t.run.authorization = .bearer token → known token
  lookup : ∀ lookup call?, t.stage.lookup? = some (lookup, call?) →
    (∀ c, lookup.value? = some c → known c.token) ∧
    ∀ call, call? = some call → ∃ xs, (∀ x ∈ xs, sent x) ∧
      Pending.Begun (t.run.pipeline .auth) t.run.tokenRequest xs call.call

/-- The tokens that a task finds in its cache or is issued by a move are `known'` after it, and the
exchange of the move is `sent'`. -/
structure Learns (t : Task β) (r : Resources) (who : Nat) (m : Move) (known : String → Prop)
    (sent : Exchange → Prop) (known' : String → Prop) (sent' : Exchange → Prop) : Prop where
  known_mono : ∀ token, known token → known' token
  sent_mono : ∀ x, sent x → sent' x
  found : ∀ lookup call? c lines, m = .proceed → t.stage.lookup? = some (lookup, call?) →
    lookup.Reads →
    (r.cache t.cache).glance credentialCodec r.clockMs t.tokenKey = (.hit c, lines) → known' c.token
  issued : ∀ x q issued, sent x → t.run.tokenRequest = .success q →
    x.request = (t.run.pipeline .auth).outgoing q → x.comesTo readIssued = .success issued →
    known' issued.token
  exchanged : ∀ x ∈ exchanges r.transport (t.move r who m).resources.transport, sent' x

variable {who : Nat} {r : Resources} {m : Move} {known known' : String → Prop}
  {sent sent' : Exchange → Prop} {t : Task β}

/-- The property is monotone in the known tokens and in the exchanges. -/
theorem Vouched.mono (hvouched : t.Vouched known sent)
    (hknown : ∀ token, known token → known' token) (hsent : ∀ x, sent x → sent' x) :
    t.Vouched known' sent' where
  authorization token htoken := hknown _ (hvouched.authorization token htoken)
  lookup lookup call? hstage := by
    obtain ⟨hvalue, hcall⟩ := hvouched.lookup lookup call? hstage
    refine ⟨fun c hc => hknown _ (hvalue c hc), fun call hsome => ?_⟩
    obtain ⟨xs, hxs, hbegun⟩ := hcall call hsome
    exact ⟨xs, fun x hx => hsent x (hxs x hx), hbegun⟩

/-- A task without a lookup has the property if its run is authorized by a known token. -/
theorem vouched_of_stage (hstage : t.stage.lookup? = none)
    (hrun : ∀ token, t.run.authorization = .bearer token → known token) :
    t.Vouched known sent where
  authorization := hrun
  lookup _ _ h := nomatch hstage.symm.trans h

/-- The property is kept by the turn of a task that follows a turn of its lookup. -/
theorem vouched_follow {token : Option TokenCall} {rest : Except Failure Unit → Script β}
    {lookup : Cache.Phase CachedCredential} (haddress : r.transport.address = id)
    (hrun : ∀ token, t.run.authorization = .bearer token → known token)
    (hvalue : ∀ c, lookup.value? = some c → known c.token)
    (hcall : ∀ call, token = some call → ∃ xs, (∀ x ∈ xs, sent x) ∧
      Pending.Begun (t.run.pipeline .auth) t.run.tokenRequest xs call.call)
    (hnew : ∀ x ∈ exchanges r.transport (t.follow r who token rest lookup).resources.transport,
      sent x) :
    (t.follow r who token rest lookup).task.Vouched known sent := by
  have hkeep : Vouched known sent { t with stage := .authenticating lookup token rest } := by
    refine ⟨hrun, fun lookup' call? hstage => ?_⟩
    obtain ⟨rfl, rfl⟩ := Prod.mk.inj (Option.some.inj hstage)
    exact ⟨hvalue, hcall⟩
  cases lookup with
  | loading lock? =>
      cases token with
      | none =>
          refine ⟨hrun, fun lookup' call? hstage => ?_⟩
          obtain ⟨rfl, rfl⟩ := Prod.mk.inj (Option.some.inj hstage)
          refine ⟨hvalue, fun call hsome => ?_⟩
          obtain rfl := Option.some.inj hsome
          exact ⟨_, hnew, (Pending.begun_begin (p := t.run.pipeline .auth) rfl r.clockMs haddress
            t.run.tokenRequest).1⟩
      | some token => exact hkeep
  | waiting lock =>
      simp only [follow]
      split <;> exact hkeep
  | done a =>
      cases a with
      | success c =>
          refine vouched_of_stage rfl fun token htoken => ?_
          exact Http.Authorization.bearer.inj htoken ▸ hvalue c rfl
      | failure f => exact vouched_of_stage rfl hrun
      | crash text => exact vouched_of_stage rfl hrun
  | reading | sweeping | asking | queueing | rereading | resweeping | storing | leaving =>
      exact hkeep

/-- The property is kept by the end of the token call. -/
theorem vouched_arriveToken {token : TokenCall} {rest : Except Failure Unit → Script β}
    {lookup : Cache.Phase CachedCredential} {xs : List Exchange}
    (hrun : ∀ token, t.run.authorization = .bearer token → known token)
    (hvalue : ∀ c, lookup.value? = some c → known c.token)
    (hbegun : Pending.Begun (t.run.pipeline .auth) t.run.tokenRequest xs token.call)
    (hissued : ∀ x ∈ xs, ∀ q issued, t.run.tokenRequest = .success q →
      x.request = (t.run.pipeline .auth).outgoing q → x.comesTo readIssued = .success issued →
      known issued.token) :
    (t.arriveToken r token rest lookup).task.Vouched known sent := by
  refine ⟨fun bearer hbearer => hrun bearer ?_, fun lookup' call? hstage => ?_⟩
  · simp only [arriveToken] at hbearer
    split at hbearer <;> exact hbearer
  obtain ⟨rfl, rfl⟩ := Prod.mk.inj (Option.some.inj hstage)
  refine ⟨fun c hc => ?_, fun call hnone => nomatch hnone⟩
  rcases Cache.value?_loaded hc with hold | ⟨ttl, hloaded⟩
  · exact hvalue c hold
  -- The loaded credential has the token that the token call was issued.
  have hsettled := hbegun.settle readIssued r.clockMs
  change (token.call.settle readIssued r.clockMs).2.map (kept t.tokenKey) = _ at hloaded
  generalize (token.call.settle readIssued r.clockMs).2 = attempt at hsettled hloaded
  cases attempt with
  | success issued =>
      obtain ⟨x, q, hx, hq, hrequest, hcomesTo⟩ := hsettled.of_success
      have htoken : issued.token = c.token :=
        congrArg (fun p => p.1.token) (Attempt.success.inj hloaded)
      exact htoken ▸ hissued x hx q issued hq hrequest hcomesTo
  | failure f => exact nomatch hloaded
  | crash text => exact nomatch hloaded

/-- The property is kept by every move. -/
theorem Vouched.move (hvouched : t.Vouched known sent) (haddress : r.transport.address = id)
    (hlearns : t.Learns r who m known sent known' sent') :
    (t.move r who m).task.Vouched known' sent' := by
  have hrun : ∀ token, t.run.authorization = .bearer token → known' token :=
    fun token htoken => hlearns.known_mono _ (hvouched.authorization token htoken)
  have hstay := hvouched.mono hlearns.known_mono hlearns.sent_mono
  obtain ⟨run, options, cache, stage⟩ := t
  cases stage with
  | ready script =>
      cases m with
      | proceed =>
          cases script with
          | authenticate rest =>
              simp only [Task.move, carryOut]
              split
              · refine ⟨hrun, fun lookup call? hstage => ?_⟩
                obtain ⟨rfl, rfl⟩ := Prod.mk.inj (Option.some.inj hstage)
                exact ⟨by simp [Cache.Phase.value?], by simp⟩
              · exact vouched_of_stage rfl hrun
          | done | report | call | fanOut | finish => exact vouched_of_stage rfl hrun
      | arrive | take | begin | settle | giveUp | receive => exact hstay
  | authenticating lookup token rest =>
      obtain ⟨hvalue, hcall⟩ := hstay.lookup lookup token rfl
      cases m with
      | proceed =>
          refine vouched_follow haddress hrun (fun c hc => ?_) hcall hlearns.exchanged
          rcases Cache.value?_advance hc with hold | ⟨hreads, lines, hhit⟩
          · exact hvalue c hold
          · exact hlearns.found lookup token c lines rfl rfl hreads hhit
      | arrive =>
          cases token with
          | none => exact hstay
          | some token =>
              obtain ⟨xs, hxs, hbegun⟩ := (hvouched.lookup lookup (some token) rfl).2 token rfl
              exact vouched_arriveToken hrun hvalue hbegun fun x hx q issued =>
                hlearns.issued x q issued (hxs x hx)
      | take | begin | settle | giveUp | receive => exact hstay
  | calling call decode rest =>
      cases m with
      | arrive =>
          simp only [Task.move, arriveCall]
          split <;> exact vouched_of_stage rfl hrun
      | proceed | take | begin | settle | giveUp | receive => exact hstay
  | spreading spread rest =>
      cases m with
      | proceed =>
          simp only [Task.move]
          split <;> exact vouched_of_stage rfl hrun
      | arrive | take | begin | settle | giveUp | receive => exact vouched_of_stage rfl hrun
  | done b => cases m <;> exact hstay
  | crashed text => cases m <;> exact hstay

end Task

/-! ## Worlds -/

namespace World

theorem run_concat (w : World β) (events : List Event) (e : Event) :
    w.run (events ++ [e]) = (w.run events).step e := List.foldl_concat ..

theorem address_run {w : World β} (haddress : w.resources.transport.address = id)
    (events : List Event) : (w.run events).resources.transport.address = id := by
  induction events generalizing w with
  | nil => exact haddress
  | cons e events ih => exact ih (address_step haddress e)

theorem exchangesOf_concat (w : World β) (who : Nat) (events : List Event) (e : Event) :
    w.exchangesOf who (events ++ [e]) =
      w.exchangesOf who events ++ if e.isOf who then (w.run events).exchanged e else [] := by
  induction events generalizing w with
  | nil => simp [exchangesOf]
  | cons first events ih =>
      rw [List.cons_append, exchangesOf, ih, exchangesOf, run_cons, List.append_assoc]

/-- In the course of events a task read the entry of a key in a cache, and found a token. -/
def Found (w : World β) (events : List Event) (who cache : Nat) (key token : String) : Prop :=
  ∃ earlier later t lookup call? c lines, events = earlier ++ .task who .proceed :: later ∧
    (w.run earlier).tasks[who]? = some t ∧ t.stage.lookup? = some (lookup, call?) ∧ lookup.Reads ∧
    ((w.run earlier).resources.cache cache).glance credentialCodec
      (w.run earlier).resources.clockMs key = (.hit c, lines) ∧
    c.token = token

/-- In the course of events a call of a task for a token was issued the token. -/
def Issued (w : World β) (events : List Event) (who : Nat) (r : Run) (token : String) : Prop :=
  ∃ x ∈ w.exchangesOf who events, ∃ q issued, r.tokenRequest = .success q ∧
    x.request = (r.pipeline .auth).outgoing q ∧ x.comesTo readIssued = .success issued ∧
    issued.token = token

variable {w : World β} {events : List Event} {who cache : Nat} {key token : String} {r : Run}

theorem Found.concat (hfound : w.Found events who cache key token) (e : Event) :
    w.Found (events ++ [e]) who cache key token := by
  obtain ⟨earlier, later, t, lookup, call?, c, lines, rfl, hread⟩ := hfound
  exact ⟨earlier, later ++ [e], t, lookup, call?, c, lines, by simp, hread⟩

theorem Issued.concat (hissued : w.Issued events who r token) (e : Event) :
    w.Issued (events ++ [e]) who r token := by
  obtain ⟨x, hx, hof⟩ := hissued
  refine ⟨x, ?_, hof⟩
  rw [exchangesOf_concat]
  exact List.mem_append_left _ hx

/-- In the course of events a task found a token, or was issued it. -/
def Obtained (w : World β) (events : List Event) (who : Nat) (t : Task β) (token : String) : Prop :=
  w.Found events who t.cache t.tokenKey token ∨ w.Issued events who t.run token

variable {t t' : Task β}

theorem Obtained.concat (hobtained : w.Obtained events who t token) (e : Event) :
    w.Obtained (events ++ [e]) who t token :=
  hobtained.imp (Found.concat · e) (Issued.concat · e)

/-- The tokens that a task learns by a move after some events are obtained in the course of these
events and the move. -/
theorem learns_run (hget : (w.run events).tasks[who]? = some t') (hfixed : t.Fixed t') (m : Move) :
    t'.Learns (w.run events).resources who m (w.Obtained events who t)
      (· ∈ w.exchangesOf who events) (w.Obtained (events ++ [.task who m]) who t)
      (· ∈ w.exchangesOf who (events ++ [.task who m])) where
  known_mono _ hobtained := hobtained.concat _
  sent_mono x hx := by
    rw [exchangesOf_concat]
    exact List.mem_append_left _ hx
  found := by
    rintro lookup call? c lines rfl hlookup hreads hhit
    rw [hfixed.cache, hfixed.tokenKey] at hhit
    exact .inl ⟨events, [], t', lookup, call?, c, lines, rfl, hget, hlookup, hreads, hhit, rfl⟩
  issued := by
    intro x q issued hx hrequest hsent hcomesTo
    rw [hfixed.tokenRequest] at hrequest
    rw [hfixed.pipeline] at hsent
    exact .inr (Issued.concat ⟨x, hx, q, issued, hrequest, hsent, hcomesTo, rfl⟩ _)
  exchanged := by
    intro x hx
    have hof : (Event.task who m).isOf who = true := by simp [Event.isOf]
    rw [exchangesOf_concat, if_pos hof, exchanged, step_task_of_some hget]
    exact List.mem_append_right _ hx

/-- Every token of a task that begins without one is from its cache or from its own token call. -/
theorem vouched_run (haddress : w.resources.transport.address = id)
    (hget : w.tasks[who]? = some t) (hstage : t.stage.lookup? = none)
    (hbare : ∀ token, t.run.authorization ≠ .bearer token) (events : List Event) :
    ∃ t', (w.run events).tasks[who]? = some t' ∧ t.Fixed t' ∧
      t'.Vouched (w.Obtained events who t) (· ∈ w.exchangesOf who events) := by
  induction events using List.reverseRecOn with
  | nil =>
      exact ⟨t, hget, ⟨rfl, rfl, rfl⟩, Task.vouched_of_stage hstage fun token htoken =>
        absurd htoken (hbare token)⟩
  | append_singleton events e ih =>
      obtain ⟨t', hget', hfixed, hvouched⟩ := ih
      rw [run_concat]
      cases hof : e.isOf who with
      | false =>
          refine ⟨t', (getElem?_step_of_not_isOf hof).trans hget', hfixed,
            hvouched.mono (fun _ hobtained => hobtained.concat e) fun x hx => ?_⟩
          rw [exchangesOf_concat]
          exact List.mem_append_left _ hx
      | true =>
          obtain ⟨m, rfl⟩ := Event.exists_of_isOf hof
          exact ⟨_, getElem?_step_task hget' m, hfixed.trans (t'.fixed_move ..),
            hvouched.move (address_run haddress events) (learns_run hget' hfixed m)⟩

end World
end Operation
end SupplierGateway
