import SupplierGateway.Proofs.Operation.SpreadUnits

/-!
# The course of a task

Between two moves of a task the shared resources may change in any way: the clock advances, the
transport serves other tasks, the caches change.  This file shows that a task that has ended has
carried out its script.

* `Task.Path` — moves of a task, each with any resources;
* `Task.Owes` — the exchanges and the end that are left for a task;
* `Task.owes_move` — the exchange of a move is the first of these, for any resources;
* `Task.ends_of_path` — a task that has ended has carried out its script.
-/

namespace SupplierGateway
namespace Operation

open Audit (CallRecord)
open Cache (CachedCredential)
open Call (Completed Emission Exchange Interceptor Pending Undertaken exchanges exchanges_self)
open Http (Request)

variable {α β : Type}

namespace Run

theorem absorb_collect (r : Run) {child : Run} (hledgers : child.ledgers = {})
    (es : List Emission) : r.absorb (child.collect es) = r.addRecords (Emission.records es) := by
  simp [absorb, collect, addRecords, Audit.Ledgers.merge, Audit.Ledger.addAll, hledgers]

theorem absorb_recordError (r : Run) {child : Run} (hledgers : child.ledgers = {})
    (es : List Emission) (f : Failure) :
    r.absorb ((child.collect es).recordError f) =
      (r.addRecords (Emission.records es)).recordError f := by
  simp [absorb, collect, addRecords, recordError, Audit.Ledgers.merge, Audit.Ledgers.recordError,
    Audit.Ledger.addAll, Audit.Ledger.add, hledgers]

end Run

namespace Task

/-- Moves of the task with a number, with their exchanges. -/
inductive Path (who latest : Nat) : Task β → List Exchange → Task β → Prop
  | nil (t : Task β) : Path who latest t [] t
  | cons {t t' : Task β} {xs : List Exchange} (r : Resources)
      (haddress : r.transport.address = id) (hclock : r.clockMs ≤ latest) (m : Move)
      (hrest : Path who latest (t.move r who m).task xs t') :
      Path who latest t (exchanges r.transport (t.move r who m).resources.transport ++ xs) t'

/-! ## Exchanges and ends to come -/

/-- The ends that are left after authentication with a given answer. -/
def Answered (o : FanOut.Options) (latest : Nat) (run : Run) (rest : Except Failure Unit → Script β)
    (xs : List Exchange) (r' : Run) (result : Except String β) : Attempt CachedCredential → Prop
  | .success c => (rest (.ok ())).Ends o latest (run.authorize c.token) xs r' result
  | .failure f => (rest (.error f)).Ends o latest run xs r' result
  | .crash text => xs = [] ∧ r' = run ∧ result = .error text

/-- The ends that are left after a token was loaded, which crashes if it expires beyond the
clock. -/
def Stored (o : FanOut.Options) (latest : Nat) (run : Run) (rest : Except Failure Unit → Script β)
    (xs : List Exchange) (r' : Run) (result : Except String β) (c : CachedCredential)
    (ttl : Cache.Lifetime) : Prop :=
  Answered o latest run rest xs r' result (.success c) ∨
    Cache.BeyondClock latest ttl ∧
      Answered o latest run rest xs r' result (.crash Cache.CacheError.beyondClock.message)

/-- The ends that are left after the token call has ended with a given result. -/
def Loaded (o : FanOut.Options) (latest : Nat) (run : Run) (rest : Except Failure Unit → Script β)
    (rs : List CallRecord) (xs : List Exchange) (r' : Run) (result : Except String β) :
    Attempt Supplier.IssuedToken → Prop
  | .success t =>
      ∃ c : CachedCredential, c.token = t.token ∧
        Stored o latest (run.addRecords rs) rest xs r' result c (.ofSecs t.lifetimeSecs)
  | .failure f =>
      Answered o latest ((run.addRecords rs).recordError f) rest xs r' result (.failure f)
  | .crash text => xs = [] ∧ r' = run ∧ result = .error text

/-- The ends that are left at a stage of a run: the exchanges to come, the run at the end and the
result. -/
def StageOwes (o : FanOut.Options) (latest : Nat) (run : Run) (xs : List Exchange) (r' : Run)
    (result : Except String β) : Stage β → Prop
  | .ready script => script.Ends o latest run xs r' result
  | .authenticating lookup none rest =>
      match lookup with
      | .storing _ c ttl => Stored o latest run rest xs r' result c ttl
      | .leaving _ a | .done a => Answered o latest run rest xs r' result a
      | _ => run.context.credential.requiresToken = true →
          (Script.authenticate rest).Ends o latest run xs r' result
  | .authenticating lookup (some token) rest =>
      match lookup with
      | .loading _ =>
          run.context.credential.requiresToken = true → token.child.ledgers = {} →
          ∀ sent, Pending.Begun (run.pipeline .auth) run.tokenRequest sent token.call →
            ∃ rs a, Undertaken (run.pipeline .auth) readIssued run.tokenRequest sent rs a ∧
              Loaded o latest run rest rs xs r' result a
      | _ => True
  | .calling call decode rest =>
      ∀ p request sent, Pending.Begun p request sent call →
        ∃ rs a, Completed p decode request sent rs a ∧
          match a with
          | .success x => (rest (some x)).Ends o latest (run.addRecords rs) xs r' result
          | .failure f => (rest none).Ends o latest ((run.addRecords rs).recordError f) xs r' result
          | .crash text => xs = [] ∧ r' = run.addRecords rs ∧ result = .error text
  | .spreading spread rest =>
      ∃ ys zs rs last, xs = ys.map Prod.snd ++ zs ∧ spread.Path ys rs last ∧
        last.pool.finished = true ∧
        (rest last.report.values).Ends o latest
          ((run.addRecords (rs.map Prod.snd)).recordErrors last.report.failures) zs r' result
  | .done b => xs = [] ∧ r' = run ∧ result = .ok b
  | .crashed text => xs = [] ∧ r' = run ∧ result = .error text

/-- The exchanges to come, the run at the end and the result that are left for a task. -/
def Owes (t : Task β) (latest : Nat) (xs : List Exchange) (r' : Run)
    (result : Except String β) : Prop :=
  StageOwes t.options latest t.run xs r' result t.stage

variable {latest : Nat} {r : Resources} {xs : List Exchange} {r' : Run} {result : Except String β}

/-! ## Calls -/

theorem owes_beginCall {t : Task β} (haddress : r.transport.address = id) {phase : Phase}
    {request : Attempt Request} {decode : String → Attempt α} {rest : Option α → Script β}
    (howes : (t.beginCall r phase request decode rest).task.Owes latest xs r' result) :
    StageOwes t.options latest t.run
      (exchanges r.transport (t.beginCall r phase request decode rest).resources.transport ++ xs)
      r' result (.ready (.call phase request decode rest)) := by
  obtain ⟨hbegun, -, -, hrecords⟩ :=
    Pending.begun_begin (p := t.run.pipeline phase) rfl r.clockMs haddress
      (t.run.authorized request)
  obtain ⟨rs, a, hcall, hend⟩ := howes _ _ _ hbegun
  rw [StageOwes, Script.Ends]
  refine ⟨_, xs, rs, a, rfl, hcall, ?_⟩
  -- A call that begins only logs, so that the run goes on as it was.
  have hrun : (t.beginCall r phase request decode rest).task.run = t.run := by
    change t.run.collect _ = t.run
    rw [Run.collect_eq]
    exact (congrArg t.run.addRecords hrecords).trans t.run.addRecords_nil
  rw [hrun] at hend
  exact hend

theorem owes_arriveCall {t : Task β} {call : Pending} {decode : String → Attempt α}
    {rest : Option α → Script β}
    (howes : (t.arriveCall r call decode rest).task.Owes latest xs r' result) :
    StageOwes t.options latest t.run xs r' result (.calling call decode rest) := by
  intro p request sent hbegun
  have hcall := hbegun.complete decode r.clockMs
  refine ⟨_, _, hcall, ?_⟩
  unfold arriveCall at howes
  cases hattempt : (call.settle decode r.clockMs).2 with
  | success x =>
      simp only [hattempt] at howes
      exact howes
  | failure f =>
      simp only [hattempt] at howes
      exact howes
  | crash text =>
      simp only [hattempt] at howes
      exact howes

theorem transport_arriveCall (t : Task β) (r : Resources) (call : Pending)
    (decode : String → Attempt α) (rest : Option α → Script β) :
    (t.arriveCall r call decode rest).resources.transport = r.transport := by
  unfold arriveCall
  cases hattempt : (call.settle decode r.clockMs).2 <;> simp only [hattempt] <;> rfl

/-! ## Calls that are made at once -/

theorem owes_moveSpread {t : Task β} (haddress : r.transport.address = id) {spread : Spread α}
    {rest : List α → Script β} {m : Move}
    (howes : (t.moveSpread r spread rest m).task.Owes latest xs r' result) :
    StageOwes t.options latest t.run
      (exchanges r.transport (t.moveSpread r spread rest m).resources.transport ++ xs) r' result
      (.spreading spread rest) := by
  obtain ⟨ys, zs, rs, last, rfl, hpath, hfinished, hend⟩ := howes
  refine ⟨_, zs, _, last, ?_, .cons r.clockMs r.transport haddress m hpath, hfinished, ?_⟩
  · simp only [List.map_append, List.map_map, Function.comp_def, List.map_id', List.append_assoc]
    rfl
  · simp only [List.map_append, List.map_map, Function.comp_def, List.map_id']
    rw [← Run.addRecords_addRecords]
    exact hend

theorem owes_endSpread {t : Task β} {spread : Spread α} (hfinished : spread.pool.finished = true)
    {rest : List α → Script β}
    (howes : (t.endSpread r spread rest).task.Owes latest xs r' result) :
    StageOwes t.options latest t.run xs r' result (.spreading spread rest) := by
  refine ⟨[], xs, [], spread, rfl, .nil spread, hfinished, ?_⟩
  rw [List.map_nil, Run.addRecords_nil]
  exact howes

theorem owes_beginSpread {t : Task β} {phase : Phase} {requests : List (Attempt Request)}
    {decode : String → Attempt α} {rest : List α → Script β}
    (howes : (t.beginSpread r phase requests decode rest).task.Owes latest xs r' result) :
    StageOwes t.options latest t.run xs r' result
      (.ready (.fanOut phase requests decode rest)) := by
  obtain ⟨ys, zs, rs, last, rfl, hpath, hfinished, hend⟩ := howes
  rw [last.values_report, last.failures_report] at hend
  rw [StageOwes, Script.Ends]
  exact ⟨ys, zs, rs, last.outcomes, rfl, Spread.spreadEnd_of_path rfl hpath hfinished, hend⟩

/-! ## Authentication -/

/-- The end of the begun token call is an end of authentication. -/
theorem ends_authenticate_of_begun {o : FanOut.Options} {run : Run}
    {rest : Except Failure Unit → Script β} {sent : List Exchange} {rs : List CallRecord}
    {a : Attempt Supplier.IssuedToken}
    (hcredential : run.context.credential.requiresToken = true)
    (hcall : Undertaken (run.pipeline .auth) readIssued run.tokenRequest sent rs a)
    (hend : Loaded o latest run rest rs xs r' result a) :
    (Script.authenticate rest).Ends o latest run (sent ++ xs) r' result := by
  rw [Script.Ends]
  cases a with
  | success t =>
      obtain ⟨c, htoken, hstored⟩ := hend
      rcases hstored with hanswered | ⟨hbeyond, hcrash⟩
      · refine ⟨sent, xs, .success (), _, rfl, .issued hcredential sent rs t hcall, ?_⟩
        rw [← htoken]
        exact hanswered
      · exact ⟨sent, xs, .crash _, _, rfl, .unstorable hcredential sent rs t hcall hbeyond,
          hcrash⟩
  | failure f => exact ⟨sent, xs, .failure f, _, rfl, .refused hcredential sent rs f hcall, hend⟩
  | crash text =>
      exact ⟨sent, xs, .crash text, _, rfl, .crashed hcredential sent rs text hcall, hend⟩

theorem owes_beginToken {t : Task β} (haddress : r.transport.address = id)
    {lock? : Option Nat} {rest : Except Failure Unit → Script β}
    (hcredential : t.run.context.credential.requiresToken = true)
    (howes : StageOwes t.options latest t.run xs r' result
      (.authenticating (.loading lock?) (some (t.beginToken r).2) rest)) :
    (Script.authenticate rest).Ends t.options latest t.run
      (exchanges r.transport (t.beginToken r).1.transport ++ xs) r' result := by
  obtain ⟨hbegun, -, -, hrecords⟩ :=
    Pending.begun_begin (p := t.run.pipeline .auth) rfl r.clockMs haddress t.run.tokenRequest
  have hledgers : (t.beginToken r).2.child.ledgers = {} := by
    change ((Run.begin (t.run.context.derive .auth)).collect _).ledgers = {}
    rw [Run.collect_eq]
    exact congrArg Run.ledgers
      ((congrArg (Run.begin _).addRecords hrecords).trans (Run.addRecords_nil _))
  obtain ⟨rs, a, hcall, hend⟩ := howes hcredential hledgers _ hbegun
  exact ends_authenticate_of_begun hcredential hcall hend

/-- The ends that are left after a turn of the lookup are among those before it. -/
theorem owes_follow {t : Task β} (haddress : r.transport.address = id) {who : Nat}
    {token : Option TokenCall} {rest : Except Failure Unit → Script β}
    {lookup : Cache.Phase CachedCredential}
    (howes : (t.follow r who token rest lookup).task.Owes latest xs r' result) :
    StageOwes t.options latest t.run
      (exchanges r.transport (t.follow r who token rest lookup).resources.transport ++ xs)
      r' result (.authenticating lookup token rest) := by
  cases lookup with
  | loading lock? =>
      cases token with
      | none => exact fun hcredential => owes_beginToken haddress hcredential howes
      | some token =>
          simp only [follow, stay, exchanges_self, List.nil_append] at howes ⊢
          exact howes
  | waiting lock =>
      -- The lock affects the plans only.
      have hkeep : (t.follow r who token rest (.waiting lock)).task =
            { t with stage := .authenticating (.waiting lock) token rest } ∧
          (t.follow r who token rest (.waiting lock)).resources = r := by
        cases token <;> simp only [follow] <;> split <;> exact ⟨rfl, rfl⟩
      rw [hkeep.1] at howes
      rw [hkeep.2, exchanges_self, List.nil_append]
      exact howes
  | done a =>
      cases token with
      | none =>
          cases a with
          | success c =>
              simp only [follow, goOn, exchanges_self, List.nil_append]
              exact howes
          | failure f =>
              simp only [follow, goOn, Resources.tell, exchanges_self, List.nil_append]
              exact howes
          | crash text =>
              simp only [follow, stay, exchanges_self, List.nil_append]
              exact howes
      | some token => exact trivial
  | reading | sweeping | asking | queueing | rereading | resweeping | storing | leaving =>
      simp only [follow, exchanges_self, List.nil_append]
      exact howes

/-- A turn of a lookup does not change the ends that are left. -/
theorem stageOwes_advance {o : FanOut.Options} {run : Run} {codec : Cache.Codec CachedCredential}
    {clockMs who : Nat} (hclock : clockMs ≤ latest) {key : String} {c : Cache}
    {token : Option TokenCall} {rest : Except Failure Unit → Script β}
    {lookup : Cache.Phase CachedCredential}
    (howes : StageOwes o latest run xs r' result
      (.authenticating (c.advance codec clockMs who key lookup).phase token rest)) :
    StageOwes o latest run xs r' result (.authenticating lookup token rest) := by
  cases token with
  | some token =>
      cases lookup with
      | loading lock? => exact howes
      | reading | sweeping | asking | queueing | waiting | rereading | resweeping | storing
        | leaving | done => exact trivial
  | none =>
      -- A read that hits answers with the cached credential.
      have hhit : ∀ {lock? : Option Nat} {found : CachedCredential},
          StageOwes o latest run xs r' result
            (.authenticating (.leaving lock? (.success found)) none rest) →
          run.context.credential.requiresToken = true →
            (Script.authenticate rest).Ends o latest run xs r' result := by
        intro lock? found hanswered hcredential
        rw [Script.Ends]
        exact ⟨[], xs, .success (), _, rfl, .cached hcredential found, hanswered⟩
      -- After a miss all ends of authentication are still left.
      have hmiss : StageOwes o latest run xs r' result (.authenticating c.afterMiss none rest) →
          run.context.credential.requiresToken = true →
            (Script.authenticate rest).Ends o latest run xs r' result := by
        intro hafter
        unfold Cache.afterMiss at hafter
        split at hafter <;> exact hafter
      cases lookup with
      | reading =>
          simp only [Cache.advance] at howes
          split at howes
          · exact hhit howes
          · exact hmiss howes
          · exact howes
      | sweeping => exact hmiss howes
      | asking => exact howes
      | queueing lock => exact howes
      | waiting lock =>
          simp only [Cache.advance] at howes
          split at howes <;> exact howes
      | rereading lock =>
          simp only [Cache.advance] at howes
          split at howes
          · exact hhit howes
          · exact howes
          · exact howes
      | resweeping lock => exact howes
      | loading lock? => exact howes
      | storing lock? found ttl =>
          simp only [Cache.advance] at howes
          split at howes
          · exact .inl howes
          · next hstore =>
            exact .inr ⟨(Cache.beyondClock_of_storeText hstore).mono hclock, howes⟩
          · exact .inl howes
      | leaving lock? a => cases lock? <;> exact howes
      | done a => exact howes

theorem owes_lookUp {t : Task β} (haddress : r.transport.address = id)
    (hclock : r.clockMs ≤ latest) {who : Nat} {token : Option TokenCall}
    {rest : Except Failure Unit → Script β}
    {lookup : Cache.Phase CachedCredential}
    (howes : (t.lookUp r who token rest lookup).task.Owes latest xs r' result) :
    StageOwes t.options latest t.run
      (exchanges r.transport (t.lookUp r who token rest lookup).resources.transport ++ xs)
      r' result (.authenticating lookup token rest) :=
  stageOwes_advance hclock (owes_follow (r := (r.setCache t.cache
    ((r.cache t.cache).advance credentialCodec r.clockMs who t.tokenKey lookup).cache).tell _)
      haddress howes)

theorem owes_arriveToken {t : Task β} {token : TokenCall}
    {rest : Except Failure Unit → Script β} {lookup : Cache.Phase CachedCredential}
    (howes : (t.arriveToken r token rest lookup).task.Owes latest xs r' result) :
    StageOwes t.options latest t.run xs r' result (.authenticating lookup (some token) rest) := by
  cases lookup with
  | loading lock? =>
      intro hcredential hledgers sent hbegun
      have hcall := hbegun.settle readIssued r.clockMs
      refine ⟨_, _, hcall, ?_⟩
      have hsettle : token.call.settle (fun body => .ofExcept (Supplier.readToken body)) r.clockMs =
          token.call.settle readIssued r.clockMs := rfl
      unfold arriveToken at howes
      rw [hsettle] at howes
      cases hattempt : (token.call.settle readIssued r.clockMs).2 with
      | success issued =>
          simp only [hattempt, t.run.absorb_collect hledgers] at howes
          refine ⟨(kept t.tokenKey issued).1, rfl, ?_⟩
          simp only [Attempt.map, Attempt.bind, Cache.loaded] at howes
          -- A token without a lifetime is not stored.
          split at howes
          · exact .inl howes
          · exact howes
      | failure f =>
          simp only [hattempt, t.run.absorb_recordError hledgers] at howes
          exact howes
      | crash text =>
          simp only [hattempt] at howes
          exact howes
  | reading | sweeping | asking | queueing | waiting | rereading | resweeping | storing
    | leaving | done => exact trivial

theorem transport_arriveToken (t : Task β) (r : Resources) (token : TokenCall)
    (rest : Except Failure Unit → Script β) (lookup : Cache.Phase CachedCredential) :
    (t.arriveToken r token rest lookup).resources.transport = r.transport := rfl

/-! ## Moves -/

/-- The ends that are left after the first instruction are ends of the script, with its exchange in
front. -/
theorem owes_carryOut {t : Task β} (haddress : r.transport.address = id) {script : Script β}
    (howes : (t.carryOut r script).task.Owes latest xs r' result) :
    StageOwes t.options latest t.run
      (exchanges r.transport (t.carryOut r script).resources.transport ++ xs) r' result
      (.ready script) := by
  cases script with
  | done b =>
      simp only [carryOut, stay, exchanges_self, List.nil_append, StageOwes, Script.Ends]
      exact howes
  | report f entry rest =>
      simp only [carryOut, goOn, Resources.tell, exchanges_self, List.nil_append, StageOwes,
        Script.Ends]
      exact howes
  | authenticate rest =>
      simp only [carryOut] at howes ⊢
      split
      · next hcredential =>
        simp only [if_pos hcredential] at howes
        rw [exchanges_self, List.nil_append]
        exact howes hcredential
      · next hcredential =>
        simp only [if_neg hcredential] at howes
        simp only [goOn, exchanges_self, List.nil_append]
        rw [StageOwes, Script.Ends]
        exact ⟨[], xs, .success (), t.run, rfl, .notRequired (by simpa using hcredential), howes⟩
  | call phase request decode rest => exact owes_beginCall haddress howes
  | fanOut phase requests decode rest =>
      simp only [carryOut, beginSpread, exchanges_self, List.nil_append]
      exact owes_beginSpread howes
  | finish policy payload empty rest =>
      simp only [carryOut, goOn, Resources.tell, exchanges_self, List.nil_append, StageOwes,
        Script.Ends]
      exact howes

/-- The ends that are left after a move, with the exchange of the move in front, are among those
before it. -/
theorem owes_move {t : Task β} (haddress : r.transport.address = id)
    (hclock : r.clockMs ≤ latest) {who : Nat} {m : Move}
    (howes : (t.move r who m).task.Owes latest xs r' result) :
    t.Owes latest (exchanges r.transport (t.move r who m).resources.transport ++ xs) r' result := by
  -- A move that is impossible in the stage changes nothing.
  have hstay : t.Owes latest xs r' result →
      t.Owes latest (exchanges r.transport (t.stay r).resources.transport ++ xs) r' result := by
    rw [stay, exchanges_self, List.nil_append]
    exact id
  obtain ⟨run, options, cache, stage⟩ := t
  cases stage with
  | ready script =>
      cases m with
      | proceed => exact owes_carryOut haddress howes
      | arrive | take | begin | settle | giveUp | receive => exact hstay howes
  | authenticating lookup token rest =>
      cases m with
      | proceed => exact owes_lookUp haddress hclock howes
      | arrive =>
          cases token with
          | none => exact hstay howes
          | some token =>
              simp only [move, transport_arriveToken, exchanges_self, List.nil_append]
              exact owes_arriveToken howes
      | take | begin | settle | giveUp | receive => exact hstay howes
  | calling call decode rest =>
      cases m with
      | arrive =>
          simp only [move, transport_arriveCall, exchanges_self, List.nil_append]
          exact owes_arriveCall howes
      | proceed | take | begin | settle | giveUp | receive => exact hstay howes
  | spreading spread rest =>
      cases m with
      | proceed =>
          simp only [move] at howes ⊢
          split
          · next hfinished =>
            simp only [if_pos hfinished] at howes
            simp only [endSpread, goOn, Resources.tell, exchanges_self, List.nil_append]
            exact owes_endSpread hfinished howes
          · next hfinished =>
            simp only [if_neg hfinished] at howes
            exact hstay howes
      | arrive | take | begin | settle | giveUp | receive =>
          exact owes_moveSpread haddress howes
  | done b => cases m <;> exact hstay howes
  | crashed text => cases m <;> exact hstay howes

/-- The end that a task has reached was among those left at the beginning. -/
theorem owes_of_path {who : Nat} {t t' : Task β} (hpath : Path who latest t xs t')
    (hresult : t'.result? = some result) : t.Owes latest xs t'.run result := by
  induction hpath with
  | nil t =>
      obtain ⟨run, options, cache, stage⟩ := t
      cases stage with
      | done b => exact ⟨rfl, rfl, (Option.some.inj hresult).symm⟩
      | crashed text => exact ⟨rfl, rfl, (Option.some.inj hresult).symm⟩
      | ready | authenticating | calling | spreading => exact nomatch hresult
  | cons r haddress hclock m hrest ih => exact owes_move haddress hclock (ih hresult)

/-- A task that has ended has carried out its script. -/
theorem ends_of_path {who : Nat} {context : Context} {o : FanOut.Options} {cache : Nat}
    {script : Script β} {t : Task β}
    (hpath : Path who latest (Task.start context o cache script) xs t)
    (hresult : t.result? = some result) :
    script.Ends o latest (Run.begin context) xs t.run result :=
  owes_of_path hpath hresult

end Task
end Operation
end SupplierGateway
