import SupplierGateway.Cache.Lookup
import SupplierGateway.Operation.Script
import SupplierGateway.Operation.Spread
import SupplierGateway.Supplier.Replies
import SupplierGateway.Supplier.Requests

/-!
# Tasks

A task carries out a script within a run.  It uses what all tasks share: the transport, the caches,
the clock and the log.

A task moves when its turn comes, when a call of its own comes to its end, or by a move of the group
of calls that it makes at once.  A move that is impossible at its moment changes nothing.
Each move plans further moves.  The latencies of calls are given by the transport, so that
moves of several tasks may come in any order.
-/

namespace SupplierGateway
namespace Operation

open Cache (CachedCredential Codec)
open Call (Emission Pending)
open Http (Request Transport)
open Schedule (Plan)
open Supplier (IssuedToken)

/-- The resources that all tasks share. -/
structure Resources where
  transport : Transport := {}
  /-- The caches by number. -/
  cache : Nat → Cache := fun _ => {}
  clockMs : Nat := 0
  log : List LogEntry := []

namespace Resources

/-- Appends entries to the log. -/
def tell (r : Resources) (entries : List LogEntry) : Resources :=
  { r with log := r.log ++ entries }

/-- Replaces the cache of a number. -/
def setCache (r : Resources) (number : Nat) (cache : Cache) : Resources :=
  { r with cache := fun n => if n = number then cache else r.cache n }

end Resources

/-- A token call in progress, with a run of its own. -/
structure TokenCall where
  child : Run
  call : Pending

/-- The stages of a task. -/
inductive Stage (β : Type) : Type 1 where
  | ready (script : Script β)
  | authenticating (lookup : Cache.Phase CachedCredential) (token : Option TokenCall)
      (rest : Except Failure Unit → Script β)
  | calling {α : Type} (call : Pending) (decode : String → Attempt α) (rest : Option α → Script β)
  | spreading {α : Type} (spread : Spread α) (rest : List α → Script β)
  | done (result : β)
  | crashed (text : String)

/-- A script being carried out. -/
structure Task (β : Type) : Type 1 where
  run : Run
  options : FanOut.Options
  /-- The number of the cache that is used. -/
  cache : Nat
  stage : Stage β

/-- The result of a move. -/
structure Moved (β : Type) : Type 1 where
  resources : Resources
  task : Task β
  plans : List (Plan Move) := []
  /-- The task to which a lock was handed. -/
  handedTo : Option Nat := none

/-- The codec of cached credentials. -/
def credentialCodec : Codec CachedCredential :=
  .ofJson CachedCredential.json CachedCredential.decoder

/-- The cached credential of a token under a key, with its lifetime. -/
def kept (key : String) (t : IssuedToken) : CachedCredential × Cache.Lifetime :=
  let ttl := Cache.Lifetime.ofSecs t.lifetimeSecs
  ({ token := t.token, key, ttl }, ttl)

namespace Task

variable {α β : Type}

/-- A task at the beginning of a run. -/
def start (context : Context) (options : FanOut.Options) (cache : Nat) (script : Script β) :
    Task β :=
  { run := Run.begin context, options, cache, stage := .ready script }

/-- The key under which the token is kept. -/
def tokenKey (t : Task β) : String :=
  Cache.key t.run.context.endpoint t.run.context.credential

/-- The pipeline for calls in a phase. -/
def pipeline (t : Task β) (phase : Phase) : Call.Pipeline :=
  (t.run.context.derive phase).pipeline

/-- A request as the run sends it. -/
def authorized (t : Task β) (request : Attempt Request) : Attempt Request :=
  request.map fun r => r.withAuthorization t.run.authorization

/-- The task goes on with a script. -/
def goOn (t : Task β) (r : Resources) (script : Script β) : Moved β :=
  { resources := r, task := { t with stage := .ready script }, plans := [.next .proceed] }

/-- The move that changes nothing. -/
def stay (t : Task β) (r : Resources) : Moved β := { resources := r, task := t }

/-! ## Authentication -/

/-- Begins a token call. -/
def beginToken (t : Task β) (r : Resources) : Resources × TokenCall :=
  let child := Run.begin (t.run.context.derive .auth)
  let request := Attempt.ofExcept
    (Supplier.token child.context.endpoint child.context.credential)
  let (transport, es, call) :=
    Pending.begin child.context.pipeline r.clockMs r.transport request
  ({ r with transport }.tell (Emission.logs es), { child := child.collect es, call })

/-- The move of a task whose lookup is in a given phase: it makes a token call, waits for the lock
or for the call, ends the lookup, or takes another turn. -/
def follow (t : Task β) (r : Resources) (who : Nat) (token : Option TokenCall)
    (rest : Except Failure Unit → Script β) (lookup : Cache.Phase CachedCredential) : Moved β :=
  let keep : Task β := { t with stage := .authenticating lookup token rest }
  match lookup, token with
  | .loading _, none =>
      let (next, call) := t.beginToken r
      { resources := next, task := { t with stage := .authenticating lookup (some call) rest }
        plans := [.after call.call.latency .arrive] }
  | .loading _, some _ => keep.stay r
  | .waiting lock, _ =>
      if (r.cache t.cache).locks.holder? lock = some who then
        { resources := r, task := keep, plans := [.next .proceed] }
      else keep.stay r
  | .done (.success c), _ => { t with run := t.run.authorize c.token }.goOn r (rest (.ok ()))
  | .done (.failure f), _ =>
      t.goOn
        (r.tell [{ level := .warn, message := "authentication failed; aborting operation" }])
        (rest (.error f))
  | .done (.crash text), _ => { t with stage := .crashed text }.stay r
  | _, _ => { resources := r, task := keep, plans := [.next .proceed] }

/-- Takes a turn in the lookup of a token. -/
def lookUp (t : Task β) (r : Resources) (who : Nat) (token : Option TokenCall)
    (rest : Except Failure Unit → Script β) (lookup : Cache.Phase CachedCredential) : Moved β :=
  let turn := (r.cache t.cache).advance credentialCodec r.clockMs who t.tokenKey lookup
  let next := (r.setCache t.cache turn.cache).tell turn.entries
  { t.follow next who token rest turn.phase with handedTo := turn.handedTo }

/-- The token call ends.  Unless it crashed, its records and failures are appended to those of the
operation. -/
def arriveToken (t : Task β) (r : Resources) (token : TokenCall)
    (rest : Except Failure Unit → Script β) (lookup : Cache.Phase CachedCredential) : Moved β :=
  let (es, issued) :=
    token.call.settle (fun body => .ofExcept (Supplier.readToken body)) r.clockMs
  let child := token.child.collect es
  let run :=
    match issued with
    | .success _ => t.run.absorb child
    | .failure f => t.run.absorb (child.recordError f)
    | .crash _ => t.run
  let (next, entries) := Cache.loaded t.tokenKey (issued.map (kept t.tokenKey)) lookup
  { resources := r.tell (Emission.logs es ++ entries)
    task := { t with run, stage := .authenticating next none rest }
    plans := [.next .proceed] }

/-! ## Calls -/

/-- Begins a call. -/
def beginCall (t : Task β) (r : Resources) (phase : Phase) (request : Attempt Request)
    (decode : String → Attempt α) (rest : Option α → Script β) : Moved β :=
  let (transport, es, call) :=
    Pending.begin (t.pipeline phase) r.clockMs r.transport (t.authorized request)
  { resources := { r with transport }.tell (Emission.logs es)
    task := { t with run := t.run.collect es, stage := .calling call decode rest }
    plans := [.after call.latency .arrive] }

/-- A call ends. -/
def arriveCall (t : Task β) (r : Resources) (call : Pending) (decode : String → Attempt α)
    (rest : Option α → Script β) : Moved β :=
  let (es, attempt) := call.settle decode r.clockMs
  let told := r.tell (Emission.logs es)
  let run := t.run.collect es
  match attempt with
  | .success a => { t with run }.goOn told (rest (some a))
  | .failure f => { t with run := run.recordError f }.goOn told (rest none)
  | .crash text => { t with run, stage := .crashed text }.stay told

/-- Begins a group of calls. -/
def beginSpread (t : Task β) (r : Resources) (phase : Phase) (requests : List (Attempt Request))
    (decode : String → Attempt α) (rest : List α → Script β) : Moved β :=
  let spread := Spread.start (t.pipeline phase) t.options (requests.map t.authorized) decode
  { resources := r, task := { t with stage := .spreading spread rest }, plans := spread.opening }

/-- Makes a move of a group of calls. -/
def moveSpread (t : Task β) (r : Resources) (spread : Spread α) (rest : List α → Script β)
    (m : Move) : Moved β :=
  let turn := spread.move r.clockMs r.transport m
  { resources := { r with transport := turn.transport }.tell (Emission.logs turn.emissions)
    task :=
      { t with run := t.run.collect turn.emissions, stage := .spreading turn.spread rest }
    plans := turn.plans }

/-- A group of calls ends. -/
def endSpread (t : Task β) (r : Resources) (spread : Spread α) (rest : List α → Script β) :
    Moved β :=
  let report := spread.report
  { t with run := t.run.recordErrors report.failures }.goOn
    (r.tell spread.pool.lostNotices) (rest report.values)

/-! ## Moves -/

/-- Carries out the first instruction of a script. -/
def carryOut (t : Task β) (r : Resources) : Script β → Moved β
  | .done result => { t with stage := .done result }.stay r
  | .report f entry rest => { t with run := t.run.recordError f }.goOn (r.tell entry.toList) rest
  | .authenticate rest =>
      if t.run.context.credential.requiresToken then
        { resources := r, task := { t with stage := .authenticating .reading none rest }
          plans := [.next .proceed] }
      else t.goOn r (rest (.ok ()))
  | .call phase request decode rest => t.beginCall r phase request decode rest
  | .fanOut phase requests decode rest => t.beginSpread r phase requests decode rest
  | .finish policy payload empty rest =>
      t.goOn (r.tell [t.run.endEntry policy]) (rest (t.run.envelope policy payload empty))

/-- Makes a move.  The task has the number `who` among all tasks. -/
def move (t : Task β) (r : Resources) (who : Nat) (m : Move) : Moved β :=
  match t.stage, m with
  | .ready script, .proceed => t.carryOut r script
  | .authenticating lookup token rest, .proceed => t.lookUp r who token rest lookup
  | .authenticating lookup (some token) rest, .arrive => t.arriveToken r token rest lookup
  | .calling call decode rest, .arrive => t.arriveCall r call decode rest
  | .spreading spread rest, .proceed =>
      if spread.pool.finished then t.endSpread r spread rest else t.stay r
  | .spreading spread rest, m => t.moveSpread r spread rest m
  | _, _ => t.stay r

/-- The result of a task that has ended: a value, or the text of a crash. -/
def result? (t : Task β) : Option (Except String β) :=
  match t.stage with
  | .done result => some (.ok result)
  | .crashed text => some (.error text)
  | _ => none

end Task
end Operation
end SupplierGateway
