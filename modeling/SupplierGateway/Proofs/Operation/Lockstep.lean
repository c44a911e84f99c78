import SupplierGateway.Operation.World
import SupplierGateway.Proofs.Operation.Records
import SupplierGateway.Proofs.Operation.Correspondence
import SupplierGateway.Proofs.Schedule.Agenda

/-!
# Two runs in lockstep

Two worlds that correspond do so after any events that occur in both, and their tasks have results
that are equal through the view of the correspondence.

* `Envelope.through` — an envelope whose records are mapped through a view;
* `Script.AsksNoToken` — a script that makes its envelope at its very end, and asks for no token
  other than by authenticating;
* `Correspondence.Runs`, `Correspondence.Spreads`, `Correspondence.Stages`, `Correspondence.Tasks`
  and `Correspondence.Worlds` — the relations between the parts of two worlds;
* `Correspondence.move_tasks` — a move of tasks that correspond: they still do, with the same plans;
* `Correspondence.run_worlds` and `Correspondence.settled_worlds` — so do worlds after any events,
  and after the events that the tasks themselves plan;
* `Correspondence.Tasks.result` — the results of tasks that correspond are equal through the view.
-/

namespace SupplierGateway
namespace Operation

open Attempt (Agree)
open Audit (CallRecord)
open Cache (CachedCredential)
open Call (Emission Interceptor Pending Pipeline)
open Http (Request)
open Schedule (Plan)
open Supplier (AsksForToken)

variable {α β π : Type}

/-- An envelope with its records mapped through a view. -/
def Envelope.through (view : CallRecord → CallRecord) (e : Envelope π) : Envelope π :=
  { e with supplierRequests := e.supplierRequests.map view }

/-! ## Scripts without token requests -/

/-- A script makes its envelope at its very end, and asks for no token other than by
authenticating. -/
inductive Script.AsksNoToken : Script (Envelope π) → Prop
  | report (f : Failure) (entry : Option LogEntry) (rest : Script (Envelope π))
      (hrest : rest.AsksNoToken) : AsksNoToken (.report f entry rest)
  | authenticate (rest : Except Failure Unit → Script (Envelope π))
      (hrest : ∀ a, (rest a).AsksNoToken) : AsksNoToken (.authenticate rest)
  | call {α : Type} (phase : Phase) (request : Attempt Request) (decode : String → Attempt α)
      (rest : Option α → Script (Envelope π))
      (hrequest : ∀ q, request = .success q → ¬ AsksForToken q)
      (hrest : ∀ a, (rest a).AsksNoToken) : AsksNoToken (.call phase request decode rest)
  | fanOut {α : Type} (phase : Phase) (requests : List (Attempt Request))
      (decode : String → Attempt α) (rest : List α → Script (Envelope π))
      (hrequests : ∀ q, .success q ∈ requests → ¬ AsksForToken q)
      (hrest : ∀ values, (rest values).AsksNoToken) :
      AsksNoToken (.fanOut phase requests decode rest)
  | finish (policy : Policy) (payload empty : π) : AsksNoToken (.finish policy payload empty .done)

/-- A script that makes its envelope at its very end asks for no token if its requests do not. -/
theorem Script.Closes.asksNoToken {script : Script (Envelope π)} (hcloses : script.Closes)
    {P : Phase → Request → Prop} (hasks : script.Asks P)
    (hkind : ∀ phase q, P phase q → ¬ AsksForToken q) : script.AsksNoToken := by
  induction hcloses with
  | report f entry rest _ ih =>
      cases hasks with
      | report _ _ _ hrest => exact .report f entry rest (ih hrest)
  | authenticate rest _ _ => cases hasks
  | call phase request decode rest _ ih =>
      cases hasks with
      | call _ _ _ _ hrequest hrest =>
          exact .call phase request decode rest (fun q hq => hkind phase q (hrequest q hq))
            fun a => ih a (hrest a)
  | fanOut phase requests decode rest _ ih =>
      cases hasks with
      | fanOut _ _ _ _ hrequests hrest =>
          exact .fanOut phase requests decode rest (fun q hq => hkind phase q (hrequests q hq))
            fun values => ih values (hrest values)
  | finish policy payload empty => exact .finish policy payload empty

namespace Correspondence

variable (rel : Correspondence)

/-! ## Relations between the parts of two worlds -/

/-- Two operations have the same failures, and records with equal views. -/
structure Ledgers (l l' : Audit.Ledgers) : Prop where
  calls : l.calls.entries.map rel.view = l'.calls.entries.map rel.view
  errors : l.errors = l'.errors

/-- Two clients keep their tokens under keys that correspond, and ask for them in requests that
correspond. -/
structure Clients (c c' : Context) : Prop where
  key : rel.key (Cache.key c.endpoint c.credential) (Cache.key c'.endpoint c'.credential)
  request : ∃ q q', Supplier.token c.endpoint c.credential = .ok q ∧
    Supplier.token c'.endpoint c'.credential = .ok q' ∧ rel.tokenRequest q q'

/-- Two operations have the same time limits, and if they need tokens so do the others. -/
structure Contexts (c c' : Context) : Prop where
  timeouts : c.timeouts = c'.timeouts
  required : c.credential.requiresToken = c'.credential.requiresToken
  clients : c.credential.requiresToken = true → rel.Clients c c'

/-- In two runs requests are authorized in ways that correspond. -/
structure Runs (r r' : Run) : Prop where
  context : rel.Contexts r.context r'.context
  authorized : ∀ q, ¬ AsksForToken q →
    rel.request (q.withAuthorization r.authorization) (q.withAuthorization r'.authorization)
  ledgers : rel.Ledgers r.ledgers r'.ledgers

/-- Two token calls in progress correspond, and so do the ledgers of their own runs. -/
structure InProgress (token token' : TokenCall) : Prop where
  ledgers : rel.Ledgers token.child.ledgers token'.child.ledgers
  call : rel.TokenCalls token.call token'.call

/-- Calls that are made at once, in pools that are the same. -/
structure Spreads (s s' : Spread α) : Prop where
  pipeline : s.pipeline = s'.pipeline
  standard : s.pipeline.interceptors = Interceptor.standard
  decode : s.decode = s'.decode
  pool : s.pool = s'.pool
  requests : List.Forall₂ (Agree rel.request) s.requests s'.requests
  calls : List.Forall₂ (fun e e' => e.1 = e'.1 ∧ rel.Calls e.2 e'.2) s.calls s'.calls

/-- Two envelopes are equal through the view. -/
def EnvelopesAgree (e e' : Envelope π) : Prop := e.through rel.view = e'.through rel.view

/-- Two tasks in given contexts are at the same stage, with data that correspond. -/
inductive Stages (c c' : Context) : Stage (Envelope π) → Stage (Envelope π) → Prop
  | ready (script : Script (Envelope π)) (hscript : script.AsksNoToken) :
      Stages c c' (.ready script) (.ready script)
  /-- The envelope has been made. -/
  | closing {e e' : Envelope π} (henvelope : rel.EnvelopesAgree e e') :
      Stages c c' (.ready (.done e)) (.ready (.done e'))
  | authenticating (hclients : rel.Clients c c') {lookup lookup' : Cache.Phase CachedCredential}
      (hlookup : rel.pairing.Phases lookup lookup') {token token' : Option TokenCall}
      (htoken : Option.Rel rel.InProgress token token')
      (rest : Except Failure Unit → Script (Envelope π)) (hrest : ∀ a, (rest a).AsksNoToken) :
      Stages c c' (.authenticating lookup token rest) (.authenticating lookup' token' rest)
  | calling {α : Type} {call call' : Pending} (hcall : rel.Calls call call')
      (decode : String → Attempt α) (rest : Option α → Script (Envelope π))
      (hrest : ∀ a, (rest a).AsksNoToken) :
      Stages c c' (.calling call decode rest) (.calling call' decode rest)
  | spreading {α : Type} {s s' : Spread α} (hspread : rel.Spreads s s')
      (rest : List α → Script (Envelope π)) (hrest : ∀ values, (rest values).AsksNoToken) :
      Stages c c' (.spreading s rest) (.spreading s' rest)
  | done {e e' : Envelope π} (henvelope : rel.EnvelopesAgree e e') :
      Stages c c' (.done e) (.done e')
  | crashed (text : String) : Stages c c' (.crashed text) (.crashed text)

/-- Two tasks correspond in everything but their stages: in their runs, their fan-out options and
their caches. -/
structure ApartFromStage (t t' : Task β) : Prop where
  run : rel.Runs t.run t'.run
  options : t.options = t'.options
  cache : t.cache = t'.cache

/-- Two tasks correspond, their stages included. -/
structure Tasks (t t' : Task (Envelope π)) : Prop extends rel.ApartFromStage t t' where
  stage : rel.Stages t.run.context t'.run.context t.stage t'.stage

/-- Two transports, collections of caches and clocks correspond.  The log is not compared. -/
structure Shares (r r' : Resources) : Prop where
  transport : rel.transport r.transport r'.transport
  caches : ∀ number, rel.pairing.Caches (r.cache number) (r'.cache number)
  clockMs : r.clockMs = r'.clockMs

/-- Two moves leave tasks and resources that correspond, and have the same plans. -/
structure Moves (m m' : Moved (Envelope π)) : Prop where
  shares : rel.Shares m.resources m'.resources
  tasks : rel.Tasks m.task m'.task
  plans : m.plans = m'.plans
  handedTo : m.handedTo = m'.handedTo

/-- Two worlds correspond, task by task. -/
structure Worlds (w w' : World (Envelope π)) : Prop where
  shares : rel.Shares w.resources w'.resources
  tasks : ∀ who : Nat, Option.Rel rel.Tasks w.tasks[who]? w'.tasks[who]?

variable {rel} {r r' : Resources} {run run' : Run} {es es' : List Emission}

/-! ## Runs -/

theorem Ledgers.addAll {l l' : Audit.Ledgers} (hledgers : rel.Ledgers l l')
    {rs rs' : List CallRecord} (hrecords : rs.map rel.view = rs'.map rel.view) :
    rel.Ledgers { l with calls := l.calls.addAll rs } { l' with calls := l'.calls.addAll rs' } where
  calls := by
    rw [Audit.Ledger.entries_addAll, Audit.Ledger.entries_addAll, List.map_append, List.map_append,
      hledgers.calls, hrecords]
  errors := hledgers.errors

theorem Ledgers.merge {l l' k k' : Audit.Ledgers} (hledgers : rel.Ledgers l l')
    (hother : rel.Ledgers k k') : rel.Ledgers (l.merge k) (l'.merge k') where
  calls := (hledgers.addAll hother.calls).calls
  errors := by rw [Audit.Ledgers.merge, Audit.Ledgers.merge, hledgers.errors, hother.errors]

theorem Ledgers.recordError {l l' : Audit.Ledgers} (hledgers : rel.Ledgers l l') (f : Failure) :
    rel.Ledgers (l.recordError f) (l'.recordError f) where
  calls := hledgers.calls
  errors := congrArg (Audit.Ledger.add · f) hledgers.errors

namespace Runs

theorem collect (hruns : rel.Runs run run') (hrecords : rel.RecordsAgree es es') :
    rel.Runs (run.collect es) (run'.collect es') where
  context := hruns.context
  authorized := hruns.authorized
  ledgers := hruns.ledgers.addAll hrecords

theorem recordError (hruns : rel.Runs run run') (f : Failure) :
    rel.Runs (run.recordError f) (run'.recordError f) where
  context := hruns.context
  authorized := hruns.authorized
  ledgers := hruns.ledgers.recordError f

theorem recordErrors (hruns : rel.Runs run run') (fs : List Failure) :
    rel.Runs (run.recordErrors fs) (run'.recordErrors fs) where
  context := hruns.context
  authorized := hruns.authorized
  ledgers := ⟨hruns.ledgers.calls, congrArg (Audit.Ledger.addAll · fs) hruns.ledgers.errors⟩

theorem absorb (hruns : rel.Runs run run') {child child' : Run}
    (hchild : rel.Ledgers child.ledgers child'.ledgers) :
    rel.Runs (run.absorb child) (run'.absorb child') where
  context := hruns.context
  authorized := hruns.authorized
  ledgers := hruns.ledgers.merge hchild

theorem authorize (hruns : rel.Runs run run') {token token' : String}
    (htoken : rel.token token token') :
    rel.Runs (run.authorize token) (run'.authorize token') where
  context := hruns.context
  authorized _ hq := rel.bearer hq htoken
  ledgers := hruns.ledgers

theorem pipeline (hruns : rel.Runs run run') (phase : Phase) :
    run.pipeline phase = run'.pipeline phase := by
  unfold Run.pipeline Context.pipeline Context.timeoutMs Context.derive
  rw [hruns.context.timeouts]

theorem authorizedRequest (hruns : rel.Runs run run') {request : Attempt Request}
    (hrequest : ∀ q, request = .success q → ¬ AsksForToken q) :
    Agree rel.request (run.authorized request) (run'.authorized request) := by
  cases request with
  | success q => exact .success (hruns.authorized q (hrequest q rfl))
  | failure f => exact .failure f
  | crash text => exact .crash text

/-- Runs that correspond make envelopes that are equal through the view. -/
theorem envelope (hruns : rel.Runs run run') (policy : Policy) (payload empty : π) :
    rel.EnvelopesAgree (run.envelope policy payload empty)
      (run'.envelope policy payload empty) := by
  unfold EnvelopesAgree Envelope.through Run.envelope Run.discards
  rw [hruns.ledgers.calls, hruns.ledgers.errors]

end Runs

/-! ## Calls that are made at once -/

/-- Two turns among calls that are made at once leave calls, transports and records that correspond,
and have the same plans. -/
structure SpreadTurns (rel : Correspondence) (turn turn' : Spread.Turn α) : Prop where
  spread : rel.Spreads turn.spread turn'.spread
  transport : rel.transport turn.transport turn'.transport
  records : rel.RecordsAgree turn.emissions turn'.emissions
  plans : turn.plans = turn'.plans

namespace Spreads

variable {s s' : Spread α} {t t' : Http.Transport}

theorem call? (hspread : rel.Spreads s s') (unit : Nat) :
    Option.Rel rel.Calls (s.call? unit) (s'.call? unit) :=
  lookup_rel biUnique_eq hspread.calls rfl

theorem without (hspread : rel.Spreads s s') (unit : Nat) :
    List.Forall₂ (fun e e' => e.1 = e'.1 ∧ rel.Calls e.2 e'.2) (s.without unit) (s'.without unit) :=
  filter_rel biUnique_eq hspread.calls rfl

theorem request (hspread : rel.Spreads s s') (unit : Nat) :
    Agree rel.request (s.request unit) (s'.request unit) := by
  have hgetD : ∀ {requests requests' : List (Attempt Request)} (f : Failure) (i : Nat),
      List.Forall₂ (Agree rel.request) requests requests' →
        Agree rel.request (requests.getD i (.failure f)) (requests'.getD i (.failure f)) := by
    intro requests requests' f i hrequests
    induction hrequests generalizing i with
    | nil => exact .failure f
    | cons hfirst _ ih =>
        cases i with
        | zero => exact hfirst
        | succ i => exact ih i
  exact hgetD _ unit hspread.requests

/-- Calls that are made at once correspond after a move. -/
theorem move (hspread : rel.Spreads s s') (htransport : rel.transport t t') (clockMs : Nat)
    (m : Move) :
    SpreadTurns rel (s.move clockMs t m) (s'.move clockMs t' m) := by
  have hpool := hspread.pool
  cases m with
  | proceed | arrive => exact ⟨hspread, htransport, rfl, rfl⟩
  | take runner =>
      simp only [Spread.move, Spread.take]
      rw [← hpool]
      exact ⟨{ hspread with pool := rfl }, htransport, rfl, rfl⟩
  | begin runner =>
      simp only [Spread.move, Spread.begin]
      rw [← hpool]
      split
      · next unit _ =>
        split
        · obtain ⟨hnext, hrecords, hcall⟩ :=
            begin_calls hspread.standard htransport (hspread.request unit) clockMs
          rw [← hspread.pipeline]
          refine ⟨?_, hnext, hrecords, ?_⟩
          · exact { hspread with
              pipeline := rfl, pool := rfl
              calls := .cons ⟨rfl, hcall⟩ (hspread.without unit) }
          · exact congrArg (fun ms => [Plan.after ms (Move.settle unit)]) hcall.latency
        · exact ⟨{ hspread with pool := rfl }, htransport, rfl, rfl⟩
      · exact ⟨hspread, htransport, rfl, rfl⟩
  | settle unit =>
      have hcalls := hspread.call? unit
      simp only [Spread.move, Spread.settle]
      rw [← hpool]
      generalize s.call? unit = call at hcalls
      generalize s'.call? unit = call' at hcalls
      cases hworker : s.pool.workerOn? unit with
      | none => exact ⟨hspread, htransport, rfl, rfl⟩
      | some runner =>
          cases hcalls with
          | none => exact ⟨hspread, htransport, rfl, rfl⟩
          | some hcall =>
              obtain ⟨hrecords, hattempt⟩ := hcall.settle s.decode clockMs
              simp only [← hspread.decode, ← hattempt]
              refine ⟨?_, htransport, hrecords.append rfl, rfl⟩
              exact { hspread with
                decode := rfl, pool := rfl, calls := hspread.without unit }
  | giveUp unit =>
      have hcalls := hspread.call? unit
      simp only [Spread.move, Spread.giveUp]
      rw [← hpool]
      generalize s.call? unit = call at hcalls
      generalize s'.call? unit = call' at hcalls
      cases hworker : s.pool.workerOn? unit with
      | none => exact ⟨hspread, htransport, rfl, rfl⟩
      | some runner =>
          cases hcalls with
          | none => exact ⟨hspread, htransport, rfl, rfl⟩
          | some hcall =>
              simp only
              split
              · exact ⟨{ hspread with pool := rfl, calls := hspread.without unit }, htransport,
                  hcall.abandon clockMs, rfl⟩
              · exact ⟨hspread, htransport, rfl, rfl⟩
  | receive =>
      simp only [Spread.move, Spread.receive]
      rw [← hpool]
      exact ⟨{ hspread with pool := rfl }, htransport, rfl, rfl⟩

end Spreads

/-! ## Shared resources -/

namespace Shares

theorem tell (hshares : rel.Shares r r') (entries entries' : List LogEntry) :
    rel.Shares (r.tell entries) (r'.tell entries') :=
  ⟨hshares.transport, hshares.caches, hshares.clockMs⟩

theorem setCache (hshares : rel.Shares r r') (number : Nat) {c c' : Cache}
    (hcaches : rel.pairing.Caches c c') :
    rel.Shares (r.setCache number c) (r'.setCache number c') where
  transport := hshares.transport
  caches n := by
    simp only [Resources.setCache]
    split
    · exact hcaches
    · exact hshares.caches n
  clockMs := hshares.clockMs

end Shares

/-! ## Moves -/

section Moves

variable {t t' : Task (Envelope π)}

theorem ApartFromStage.withRun (hapart : rel.ApartFromStage t t') (hruns : rel.Runs run run') :
    rel.ApartFromStage { t with run := run } { t' with run := run' } :=
  ⟨hruns, hapart.options, hapart.cache⟩

/-- Tasks correspond when they do apart from their stages and are given stages that do. -/
theorem ApartFromStage.tasks (hapart : rel.ApartFromStage t t') {stage stage' : Stage (Envelope π)}
    (hstage : rel.Stages t.run.context t'.run.context stage stage') :
    rel.Tasks { t with stage } { t' with stage := stage' } :=
  ⟨⟨hapart.run, hapart.options, hapart.cache⟩, hstage⟩

/-- Tasks that go on with the same script correspond. -/
theorem goOn (hapart : rel.ApartFromStage t t') (hshares : rel.Shares r r')
    {script : Script (Envelope π)} (hscript : script.AsksNoToken) :
    rel.Moves (t.goOn r script) (t'.goOn r' script) where
  shares := hshares
  tasks := hapart.tasks (.ready script hscript)
  plans := rfl
  handedTo := rfl

/-- Tasks that do nothing correspond as before. -/
theorem stay (htasks : rel.Tasks t t') (hshares : rel.Shares r r') :
    rel.Moves (t.stay r) (t'.stay r') :=
  ⟨hshares, htasks, rfl, rfl⟩

theorem beginToken (hapart : rel.ApartFromStage t t') (hshares : rel.Shares r r')
    (hclients : rel.Clients t.run.context t'.run.context) :
    rel.Shares (t.beginToken r).1 (t'.beginToken r').1 ∧
      rel.InProgress (t.beginToken r).2 (t'.beginToken r').2 := by
  obtain ⟨q, q', hq, hq', hrequest⟩ := hclients.request
  obtain ⟨transport', cache', clockMs', log'⟩ := r'
  obtain rfl : clockMs' = r.clockMs := hshares.clockMs.symm
  have hbegun : ∀ {c : Context} {q : Request}, Supplier.token c.endpoint c.credential = .ok q →
      Attempt.ofExcept (Supplier.token (Run.begin (c.derive .auth)).context.endpoint
        (Run.begin (c.derive .auth)).context.credential) = .success q :=
    fun hq => congrArg Attempt.ofExcept hq
  have hpipeline : (Run.begin (t'.run.context.derive .auth)).context.pipeline =
      (Run.begin (t.run.context.derive .auth)).context.pipeline :=
    (hapart.run.pipeline .auth).symm
  obtain ⟨hnext, hrecords, hcall⟩ :=
    begin_tokenCalls (p := (Run.begin (t.run.context.derive .auth)).context.pipeline) rfl rfl
      hshares.transport hrequest r.clockMs
  simp only [Task.beginToken, hbegun hq, hbegun hq', hpipeline]
  refine ⟨⟨hnext, hshares.caches, rfl⟩, ?_, hcall⟩
  exact Ledgers.addAll ⟨rfl, rfl⟩ hrecords

/-- Tasks correspond after the turn that follows a turn of their lookups. -/
theorem follow (hapart : rel.ApartFromStage t t') (hshares : rel.Shares r r')
    (hclients : rel.Clients t.run.context t'.run.context) (who : Nat)
    {token token' : Option TokenCall} (htoken : Option.Rel rel.InProgress token token')
    {rest : Except Failure Unit → Script (Envelope π)} (hrest : ∀ a, (rest a).AsksNoToken)
    {lookup lookup' : Cache.Phase CachedCredential} (hlookup : rel.pairing.Phases lookup lookup') :
    rel.Moves (t.follow r who token rest lookup) (t'.follow r' who token' rest lookup') := by
  have hkeep : rel.Tasks { t with stage := .authenticating lookup token rest }
      { t' with stage := .authenticating lookup' token' rest } :=
    hapart.tasks (.authenticating hclients hlookup htoken rest hrest)
  cases hlookup with
  | bare _ hbare =>
      cases lookup with
      | loading lock? =>
          -- The first turn of loading begins a token call, all others wait for it.
          cases htoken with
          | none =>
              obtain ⟨hnext, hcall⟩ := beginToken hapart hshares hclients
              refine ⟨hnext, hapart.tasks ?_, ?_, rfl⟩
              · exact .authenticating hclients (.bare _ rfl) (.some hcall) rest hrest
              · exact congrArg (fun ms => [Plan.after ms Move.arrive]) hcall.call.latency
          | some hcall => exact ⟨hshares, hkeep, rfl, rfl⟩
      | waiting lock =>
          have hholder : (r.cache t.cache).locks.holder? lock =
              (r'.cache t'.cache).locks.holder? lock :=
            hapart.cache ▸ (hshares.caches t.cache).locks.holder? lock
          simp only [Task.follow]
          rw [← hholder]
          split
          · exact ⟨hshares, hkeep, rfl, rfl⟩
          · exact ⟨hshares, hkeep, rfl, rfl⟩
      | storing lock? a ttl => exact nomatch hbare
      | leaving lock? x => exact nomatch hbare
      | done x => exact nomatch hbare
      | reading | sweeping | asking | queueing | rereading | resweeping =>
          exact ⟨hshares, hkeep, rfl, rfl⟩
  | storing lock? hvalue ttl => exact ⟨hshares, hkeep, rfl, rfl⟩
  | leaving lock? hresult => exact ⟨hshares, hkeep, rfl, rfl⟩
  | done hresult =>
      cases hresult with
      | success hvalue =>
          exact goOn (hapart.withRun (hapart.run.authorize hvalue.1)) hshares (hrest _)
      | failure f => exact goOn hapart (hshares.tell _ _) (hrest _)
      | crash text =>
          exact ⟨hshares, hapart.tasks (.crashed text), rfl, rfl⟩

theorem lookUp (hapart : rel.ApartFromStage t t') (hshares : rel.Shares r r')
    (hclients : rel.Clients t.run.context t'.run.context) (who : Nat)
    {token token' : Option TokenCall} (htoken : Option.Rel rel.InProgress token token')
    {rest : Except Failure Unit → Script (Envelope π)} (hrest : ∀ a, (rest a).AsksNoToken)
    {lookup lookup' : Cache.Phase CachedCredential} (hlookup : rel.pairing.Phases lookup lookup') :
    rel.Moves (t.lookUp r who token rest lookup) (t'.lookUp r' who token' rest lookup') := by
  have hcaches : rel.pairing.Caches (r.cache t.cache) (r'.cache t'.cache) :=
    hapart.cache ▸ hshares.caches t.cache
  have hturn := Cache.Pairing.advance hcaches hclients.key hlookup r.clockMs who
  have hmoves := follow hapart
    ((hshares.setCache t.cache hturn.cache).tell
      ((r.cache t.cache).advance credentialCodec r.clockMs who t.tokenKey lookup).entries
      ((r'.cache t'.cache).advance credentialCodec r.clockMs who t'.tokenKey lookup').entries)
    hclients who htoken hrest hturn.phase
  simp only [Task.lookUp, ← hshares.clockMs]
  rw [← hapart.cache] at hmoves hturn ⊢
  exact ⟨hmoves.shares, hmoves.tasks, hmoves.plans, hturn.handedTo⟩

/-- Tasks correspond after their token calls have ended. -/
theorem arriveToken (hapart : rel.ApartFromStage t t') (hshares : rel.Shares r r')
    (hclients : rel.Clients t.run.context t'.run.context) {token token' : TokenCall}
    (htoken : rel.InProgress token token') {rest : Except Failure Unit → Script (Envelope π)}
    (hrest : ∀ a, (rest a).AsksNoToken) {lookup lookup' : Cache.Phase CachedCredential}
    (hlookup : rel.pairing.Phases lookup lookup') :
    rel.Moves (t.arriveToken r token rest lookup) (t'.arriveToken r' token' rest lookup') := by
  have hread : (fun body => Attempt.ofExcept (Supplier.readToken body)) = readIssued := rfl
  have hsettle := htoken.call.settle r.clockMs
  rcases hsettled : token.call.settle readIssued r.clockMs with ⟨es, issued⟩
  rcases hsettled' : token'.call.settle readIssued r.clockMs with ⟨es', issued'⟩
  rw [hsettled, hsettled'] at hsettle
  obtain ⟨hrecords, hissued⟩ :
    rel.RecordsAgree es es' ∧ Agree (IssuedAlike rel.token) issued issued' := hsettle
  have hchild := htoken.ledgers.addAll hrecords
  have hkept : ∀ i i' : Supplier.IssuedToken, IssuedAlike rel.token i i' →
      rel.pairing.value (kept t.tokenKey i).1 (kept t'.tokenKey i').1 ∧
        (kept t.tokenKey i).2 = (kept t'.tokenKey i').2 :=
    fun i i' halike =>
      ⟨⟨halike.token, congrArg Cache.Lifetime.ofSecs halike.lifetime⟩,
        congrArg Cache.Lifetime.ofSecs halike.lifetime⟩
  have hloaded := Cache.Pairing.loaded (hissued.map hkept) hlookup t.tokenKey t'.tokenKey
  simp only [Task.arriveToken, hread, ← hshares.clockMs, hsettled, hsettled']
  refine ⟨hshares.tell _ _, ⟨⟨?_, hapart.options, hapart.cache⟩, ?_⟩, rfl, rfl⟩
  · cases hissued with
    | success _ => exact hapart.run.absorb hchild
    | failure f => exact hapart.run.absorb (hchild.recordError f)
    | crash text => exact hapart.run
  · cases hissued with
    | success _ => exact .authenticating hclients hloaded .none rest hrest
    | failure f => exact .authenticating hclients hloaded .none rest hrest
    | crash text => exact .authenticating hclients hloaded .none rest hrest

theorem beginCall (hapart : rel.ApartFromStage t t') (hshares : rel.Shares r r') (phase : Phase)
    {request : Attempt Request} (hrequest : ∀ q, request = .success q → ¬ AsksForToken q)
    (decode : String → Attempt α) {rest : Option α → Script (Envelope π)}
    (hrest : ∀ a, (rest a).AsksNoToken) :
    rel.Moves (t.beginCall r phase request decode rest)
      (t'.beginCall r' phase request decode rest) := by
  obtain ⟨hnext, hrecords, hcall⟩ :=
    begin_calls (p := t.run.pipeline phase) rfl hshares.transport
      (hapart.run.authorizedRequest hrequest) r.clockMs
  have hpipeline : t'.pipeline phase = t.run.pipeline phase := (hapart.run.pipeline phase).symm
  simp only [Task.beginCall, hpipeline, ← hshares.clockMs]
  refine ⟨⟨hnext, hshares.caches, rfl⟩, ?_, ?_, rfl⟩
  · exact (hapart.withRun (hapart.run.collect hrecords)).tasks (.calling hcall decode rest hrest)
  · exact congrArg (fun ms => [Plan.after ms Move.arrive]) hcall.latency

theorem arriveCall (hapart : rel.ApartFromStage t t') (hshares : rel.Shares r r')
    {call call' : Pending} (hcall : rel.Calls call call') (decode : String → Attempt α)
    {rest : Option α → Script (Envelope π)} (hrest : ∀ a, (rest a).AsksNoToken) :
    rel.Moves (t.arriveCall r call decode rest) (t'.arriveCall r' call' decode rest) := by
  obtain ⟨hrecords, hattempt⟩ := hcall.settle decode r.clockMs
  have hruns := hapart.run.collect hrecords
  simp only [Task.arriveCall, ← hshares.clockMs, ← hattempt]
  cases (call.settle decode r.clockMs).2 with
  | success a => exact goOn (hapart.withRun hruns) (hshares.tell _ _) (hrest _)
  | failure f =>
      exact goOn (hapart.withRun (hruns.recordError f)) (hshares.tell _ _) (hrest _)
  | crash text =>
      exact ⟨hshares.tell _ _, (hapart.withRun hruns).tasks (.crashed text), rfl, rfl⟩

theorem beginSpread (hapart : rel.ApartFromStage t t') (hshares : rel.Shares r r') (phase : Phase)
    {requests : List (Attempt Request)}
    (hrequests : ∀ q, .success q ∈ requests → ¬ AsksForToken q) (decode : String → Attempt α)
    {rest : List α → Script (Envelope π)} (hrest : ∀ values, (rest values).AsksNoToken) :
    rel.Moves (t.beginSpread r phase requests decode rest)
      (t'.beginSpread r' phase requests decode rest) := by
  have hpipeline : t'.pipeline phase = t.pipeline phase := (hapart.run.pipeline phase).symm
  have hauthorized : List.Forall₂ (Agree rel.request) (requests.map t.authorized)
      (requests.map t'.authorized) := by
    rw [List.forall₂_map_left_iff, List.forall₂_map_right_iff, List.forall₂_same]
    intro request hin
    exact hapart.run.authorizedRequest fun q hq => hrequests q (hq ▸ hin)
  have hspread : rel.Spreads
      (Spread.start (t.pipeline phase) t.options (requests.map t.authorized) decode)
      (Spread.start (t'.pipeline phase) t'.options (requests.map t'.authorized) decode) := by
    rw [hpipeline, ← hapart.options]
    refine ⟨rfl, rfl, rfl, ?_, hauthorized, .nil⟩
    simp only [Spread.start, List.length_map]
  refine ⟨hshares, hapart.tasks ?_, ?_, rfl⟩
  · exact .spreading hspread rest hrest
  · simp only [Task.beginSpread, Spread.opening, hspread.pool]

theorem moveSpread (hapart : rel.ApartFromStage t t') (hshares : rel.Shares r r') {s s' : Spread α}
    (hspread : rel.Spreads s s') {rest : List α → Script (Envelope π)}
    (hrest : ∀ values, (rest values).AsksNoToken) (m : Move) :
    rel.Moves (t.moveSpread r s rest m) (t'.moveSpread r' s' rest m) := by
  have hturn := hspread.move hshares.transport r.clockMs m
  simp only [Task.moveSpread, ← hshares.clockMs]
  refine ⟨⟨hturn.transport, hshares.caches, rfl⟩, ?_, hturn.plans, rfl⟩
  exact (hapart.withRun (hapart.run.collect hturn.records)).tasks
    (.spreading hturn.spread rest hrest)

theorem endSpread (hapart : rel.ApartFromStage t t') (hshares : rel.Shares r r') {s s' : Spread α}
    (hspread : rel.Spreads s s') {rest : List α → Script (Envelope π)}
    (hrest : ∀ values, (rest values).AsksNoToken) :
    rel.Moves (t.endSpread r s rest) (t'.endSpread r' s' rest) := by
  have hreport : s'.report = s.report := by
    unfold Spread.report
    rw [hspread.pool]
  simp only [Task.endSpread, hreport]
  exact goOn (hapart.withRun (hapart.run.recordErrors _)) (hshares.tell _ _) (hrest _)

/-- Tasks that carry out the same instruction correspond. -/
theorem carryOut (hapart : rel.ApartFromStage t t') (hshares : rel.Shares r r')
    {script : Script (Envelope π)} (hscript : script.AsksNoToken) :
    rel.Moves (t.carryOut r script) (t'.carryOut r' script) := by
  cases hscript with
  | report f entry rest hrest =>
      exact goOn (hapart.withRun (hapart.run.recordError f)) (hshares.tell _ _) hrest
  | authenticate rest hrest =>
      simp only [Task.carryOut, ← hapart.run.context.required]
      split
      · next hrequired =>
        refine ⟨hshares, hapart.tasks ?_, rfl, rfl⟩
        exact .authenticating (hapart.run.context.clients hrequired) (.bare _ rfl) .none rest
          hrest
      · exact goOn hapart hshares (hrest _)
  | call phase request decode rest hrequest hrest =>
      exact beginCall hapart hshares phase hrequest decode hrest
  | fanOut phase requests decode rest hrequests hrest =>
      exact beginSpread hapart hshares phase hrequests decode hrest
  | finish policy payload empty =>
      exact ⟨hshares.tell _ _, hapart.tasks (.closing (hapart.run.envelope policy payload empty)),
        rfl, rfl⟩

/-- Tasks that correspond do so after the same move, and have the same plans. -/
theorem move_tasks (htasks : rel.Tasks t t') (hshares : rel.Shares r r') (who : Nat) (m : Move) :
    rel.Moves (t.move r who m) (t'.move r' who m) := by
  obtain ⟨run, options, cache, stage⟩ := t
  obtain ⟨run', options', cache', stage'⟩ := t'
  obtain ⟨hapart, hstage⟩ := htasks
  -- Both tasks are at the same stage, so a move that does not apply leaves both as they are.
  have hstays := stay ⟨hapart, hstage⟩ hshares
  cases hstage with
  | ready script hscript =>
      cases m with
      | proceed => exact carryOut hapart hshares hscript
      | arrive | take | begin | settle | giveUp | receive => exact hstays
  | closing henvelope =>
      cases m with
      | proceed =>
          exact ⟨hshares, hapart.tasks (.done henvelope), rfl, rfl⟩
      | arrive | take | begin | settle | giveUp | receive => exact hstays
  | authenticating hclients hlookup htoken rest hrest =>
      cases m with
      | proceed => exact lookUp hapart hshares hclients who htoken hrest hlookup
      | arrive =>
          cases htoken with
          | none => exact hstays
          | some hcall => exact arriveToken hapart hshares hclients hcall hrest hlookup
      | take | begin | settle | giveUp | receive => exact hstays
  | calling hcall decode rest hrest =>
      cases m with
      | arrive => exact arriveCall hapart hshares hcall decode hrest
      | proceed | take | begin | settle | giveUp | receive => exact hstays
  | @spreading _ s s' hspread rest hrest =>
      cases m with
      | proceed =>
          simp only [Task.move, ← hspread.pool]
          split
          · exact endSpread hapart hshares hspread hrest
          · exact hstays
      | arrive | take | begin | settle | giveUp | receive =>
          exact moveSpread hapart hshares hspread hrest _
  | done henvelope => exact hstays
  | crashed text => exact hstays

/-- The results of tasks that correspond are equal through the view. -/
theorem Tasks.result (htasks : rel.Tasks t t') :
    t.result?.map (Except.map (Envelope.through rel.view)) =
      t'.result?.map (Except.map (Envelope.through rel.view)) := by
  obtain ⟨run, options, cache, stage⟩ := t
  obtain ⟨run', options', cache', stage'⟩ := t'
  obtain ⟨-, hstage⟩ := htasks
  cases hstage with
  | done henvelope => exact congrArg (some ∘ Except.ok) henvelope
  | crashed text => rfl
  | ready | closing | authenticating | calling | spreading => rfl

end Moves

/-! ## Worlds -/

/-- Lists that correspond member by member do so after a member of each was replaced. -/
theorem rel_set {γ : Type 1} {R : γ → γ → Prop} {l l' : List γ}
    (hrel : ∀ i : Nat, Option.Rel R l[i]? l'[i]?) (i : Nat) {x x' : γ} (hx : R x x') (j : Nat) :
    Option.Rel R (l.set i x)[j]? (l'.set i x')[j]? := by
  rcases eq_or_ne i j with rfl | hne
  · have hi := hrel i
    rw [List.getElem?_set_self', List.getElem?_set_self']
    generalize l[i]? = y at hi
    generalize l'[i]? = y' at hi
    cases hi with
    | none => exact .none
    | some _ => exact .some hx
  · rw [List.getElem?_set_ne hne, List.getElem?_set_ne hne]
    exact hrel j

section Worlds

variable {w w' : World (Envelope π)}

/-- Worlds that correspond do so after the same event, and have the same plans. -/
theorem turn_worlds (hworlds : rel.Worlds w w') {e : Event}
    (hreplace : ∀ number backend, e = .replace number backend →
      rel.pairing.Stores backend backend) :
    rel.Worlds (w.turn e).1 (w'.turn e).1 ∧ (w.turn e).2 = (w'.turn e).2 := by
  cases e with
  | task who m =>
      have htask := hworlds.tasks who
      simp only [World.turn, World.move]
      generalize htask₀ : w.tasks[who]? = task at htask
      generalize htask₁ : w'.tasks[who]? = task' at htask
      cases htask with
      | none => exact ⟨hworlds, rfl⟩
      | some htasks =>
          have hmoves := move_tasks htasks hworlds.shares who m
          refine ⟨⟨hmoves.shares, rel_set hworlds.tasks who hmoves.tasks⟩, ?_⟩
          simp only [hmoves.plans, hmoves.handedTo]
  | wait ms =>
      refine ⟨⟨⟨hworlds.shares.transport, hworlds.shares.caches, ?_⟩, hworlds.tasks⟩, rfl⟩
      exact congrArg (· + ms) hworlds.shares.clockMs
  | replace number backend =>
      have hcaches := hworlds.shares.caches number
      refine ⟨⟨hworlds.shares.setCache number ?_, hworlds.tasks⟩, rfl⟩
      exact ⟨hreplace number backend rfl, hcaches.singleFlight, hcaches.locks⟩

/-- Worlds that correspond do so after the same events. -/
theorem run_worlds (hworlds : rel.Worlds w w') {events : List Event}
    (hreplace : ∀ number backend, .replace number backend ∈ events →
      rel.pairing.Stores backend backend) : rel.Worlds (w.run events) (w'.run events) := by
  induction events generalizing w w' with
  | nil => exact hworlds
  | cons e events ih =>
      have hstep := turn_worlds hworlds (e := e) fun number backend he =>
        hreplace number backend (he ▸ List.mem_cons_self)
      exact ih hstep.1 fun number backend hin =>
        hreplace number backend (List.mem_cons_of_mem e hin)

/-- Worlds that correspond do so after the events that their tasks plan. -/
theorem settled_worlds (hworlds : rel.Worlds w w') : rel.Worlds w.settled w'.settled := by
  have hlength : w'.tasks.length = w.tasks.length := by
    have hiff : ∀ n, w'.tasks.length ≤ n ↔ w.tasks.length ≤ n := by
      intro n
      have htask := hworlds.tasks n
      rw [← List.getElem?_eq_none_iff, ← List.getElem?_eq_none_iff]
      generalize w.tasks[n]? = task at htask
      generalize w'.tasks[n]? = task' at htask
      cases htask with
      | none => rfl
      | some _ => simp
    exact Nat.le_antisymm ((hiff _).mpr (Nat.le_refl _)) ((hiff _).mp (Nat.le_refl _))
  unfold World.settled
  rw [hlength]
  -- Only moves of tasks are planned, so that no store is replaced.
  refine Schedule.run_rel (P := fun e => ∃ who m, e = .task who m) ?_ World.patience hworlds ?_
  · rintro u u' e ⟨who, m, rfl⟩ hu
    obtain ⟨hnext, hplans⟩ := turn_worlds hu (e := .task who m) nofun
    refine ⟨hnext, hplans, fun plan hplan => ?_⟩
    simp only [World.turn, World.move] at hplan
    split at hplan
    · exact absurd hplan List.not_mem_nil
    · rcases List.mem_append.mp hplan with hown | hother
      · obtain ⟨own, -, rfl⟩ := List.mem_map.mp hown
        cases own with
        | next m' => exact ⟨who, m', rfl⟩
        | soon m' => exact ⟨who, m', rfl⟩
        | later ms m' => exact ⟨who, m', rfl⟩
      · obtain ⟨other, -, rfl⟩ := List.mem_map.mp hother
        exact ⟨other, .proceed, rfl⟩
  · refine Schedule.Agenda.Only.add ⟨nofun, nofun⟩ fun plan hplan => ?_
    obtain ⟨who, -, rfl⟩ := List.mem_map.mp hplan
    exact ⟨who, .proceed, rfl⟩

end Worlds

end Correspondence
end Operation
end SupplierGateway
