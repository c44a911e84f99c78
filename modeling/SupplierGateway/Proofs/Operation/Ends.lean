import SupplierGateway.Operation.Task
import SupplierGateway.Proofs.Cache.Stored
import SupplierGateway.Proofs.Call.Exchange

/-!
# Ends of scripts

A task carries a script out move by move, and other tasks move in between.  The ends of a script are
defined here without moves: by the exchanges that it has, one after another, and the instructions
that follow each of them.

* `Authenticates` — the ends of authentication;
* `UnitEnd` — the ends of one of several calls that are made at once;
* `Script.Ends` — a script, begun in a run, has exchanges and ends in a run with a result or a
  crash.

That a script ends is not stated here.
-/

namespace SupplierGateway
namespace Operation

open Audit (CallRecord)
open Call (Completed Exchange Undertaken)
open Http (Request)

variable {α β : Type}

namespace Run

/-- Appends records. -/
def addRecords (r : Run) (rs : List CallRecord) : Run :=
  { r with ledgers := { r.ledgers with calls := r.ledgers.calls.addAll rs } }

@[simp] theorem addRecords_nil (r : Run) : r.addRecords [] = r := by
  simp [addRecords, Audit.Ledger.addAll]

@[simp] theorem addRecords_addRecords (r : Run) (rs more : List CallRecord) :
    (r.addRecords rs).addRecords more = r.addRecords (rs ++ more) := by
  simp [addRecords, Audit.Ledger.addAll]

theorem collect_eq (r : Run) (es : List Call.Emission) :
    r.collect es = r.addRecords (Call.Emission.records es) := rfl

/-- The pipeline for calls in a phase. -/
def pipeline (r : Run) (phase : Phase) : Call.Pipeline := (r.context.derive phase).pipeline

/-- A request as the run sends it. -/
def authorized (r : Run) (request : Attempt Request) : Attempt Request :=
  request.map fun q => q.withAuthorization r.authorization

/-- The request for a token. -/
def tokenRequest (r : Run) : Attempt Request :=
  .ofExcept (Supplier.token r.context.endpoint r.context.credential)

end Run

/-- Reads the body of an issued token. -/
def readIssued (body : String) : Attempt Supplier.IssuedToken :=
  .ofExcept (Supplier.readToken body)

/-- Authentication in a run: its exchanges, its result, and the run after it.  The records of a
token call that crashed are lost. -/
inductive Authenticates (latest : Nat) (r : Run) : List Exchange → Attempt Unit → Run → Prop
  | notRequired (hcredential : r.context.credential.requiresToken = false) :
      Authenticates latest r [] (.success ()) r
  | cached (hcredential : r.context.credential.requiresToken = true)
      (c : Cache.CachedCredential) :
      Authenticates latest r [] (.success ()) (r.authorize c.token)
  | issued (hcredential : r.context.credential.requiresToken = true) (xs : List Exchange)
      (rs : List CallRecord) (t : Supplier.IssuedToken)
      (hcall : Undertaken (r.pipeline .auth) readIssued r.tokenRequest xs rs (.success t)) :
      Authenticates latest r xs (.success ()) ((r.addRecords rs).authorize t.token)
  | refused (hcredential : r.context.credential.requiresToken = true) (xs : List Exchange)
      (rs : List CallRecord) (f : Failure)
      (hcall : Undertaken (r.pipeline .auth) readIssued r.tokenRequest xs rs (.failure f)) :
      Authenticates latest r xs (.failure f) ((r.addRecords rs).recordError f)
  | crashed (hcredential : r.context.credential.requiresToken = true) (xs : List Exchange)
      (rs : List CallRecord) (text : String)
      (hcall : Undertaken (r.pipeline .auth) readIssued r.tokenRequest xs rs (.crash text)) :
      Authenticates latest r xs (.crash text) r
  /-- The token would expire beyond the clock, so that storing it crashes. -/
  | unstorable (hcredential : r.context.credential.requiresToken = true) (xs : List Exchange)
      (rs : List CallRecord) (t : Supplier.IssuedToken)
      (hcall : Undertaken (r.pipeline .auth) readIssued r.tokenRequest xs rs (.success t))
      (hbeyond : Cache.BeyondClock latest (.ofSecs t.lifetimeSecs)) :
      Authenticates latest r xs (.crash Cache.CacheError.beyondClock.message) (r.addRecords rs)

/-- The ends of one of several calls that are made at once, with the number of its unit: its
exchanges, its records and its outcome. -/
inductive UnitEnd (p : Call.Pipeline) (decode : String → Attempt α) (failFast : Bool) (unit : Nat)
    (request : Attempt Request) :
    List Exchange → List CallRecord → Except Failure α → Prop
  | settled (xs : List Exchange) (rs : List CallRecord) (a : Attempt α)
      (hcall : Completed p decode request xs rs a) :
      UnitEnd p decode failFast unit request xs rs (FanOut.unitOutcome unit a)
  /-- The call was cancelled before or after its request was sent. -/
  | cancelled (hfast : failFast = true) (xs : List Exchange) (rs : List CallRecord)
      (hrecorded : List.Forall₂ (Exchange.RecordedAs p.context) xs rs)
      (hrequests : ∀ x ∈ xs, ∃ q, request = .success q ∧ x.request = p.outgoing q) :
      UnitEnd p decode failFast unit request xs rs (.error FanOut.cancelledFailure)

/-- The entries of a unit. -/
def ofUnit {γ : Type} (unit : Nat) (entries : List (Nat × γ)) : List γ :=
  (entries.filter fun entry => entry.1 == unit).map Prod.snd

/-- The end of calls that are made at once, one for each of a list of requests: their exchanges and
records by the numbers of their units, and their outcomes in order. -/
structure SpreadEnd (p : Call.Pipeline) (decode : String → Attempt α) (failFast : Bool)
    (requests : List (Attempt Request)) (xs : List (Nat × Exchange)) (rs : List (Nat × CallRecord))
    (outcomes : List (Except Failure α)) : Prop where
  length_eq : outcomes.length = requests.length
  exchange_lt : ∀ x ∈ xs, x.1 < requests.length
  record_lt : ∀ r ∈ rs, r.1 < requests.length
  unit : ∀ unit request o, requests[unit]? = some request → outcomes[unit]? = some o →
    UnitEnd p decode failFast unit request (ofUnit unit xs) (ofUnit unit rs) o

/-- The values among outcomes. -/
def valuesOf (outcomes : List (Except Failure α)) : List α :=
  outcomes.filterMap fun
    | .ok a => some a
    | .error _ => none

/-- The failures among outcomes. -/
def failuresOf (outcomes : List (Except Failure α)) : List Failure :=
  outcomes.filterMap fun
    | .ok _ => none
    | .error f => some f

/-- Begun in a run, a script has exchanges and ends in a run with a result or a crash. -/
def Script.Ends (o : FanOut.Options) (latest : Nat) :
    Script β → Run → List Exchange → Run → Except String β → Prop
  | .done b, r, xs, r', result => xs = [] ∧ r' = r ∧ result = .ok b
  | .report f _ rest, r, xs, r', result => rest.Ends o latest (r.recordError f) xs r' result
  | .authenticate rest, r, xs, r', result =>
      ∃ ys zs a after, xs = ys ++ zs ∧ Authenticates latest r ys a after ∧
        match a with
        | .success _ => (rest (.ok ())).Ends o latest after zs r' result
        | .failure f => (rest (.error f)).Ends o latest after zs r' result
        | .crash text => zs = [] ∧ r' = after ∧ result = .error text
  | .call phase request decode rest, r, xs, r', result =>
      ∃ ys zs rs a, xs = ys ++ zs ∧
        Completed (r.pipeline phase) decode (r.authorized request) ys rs a ∧
        match a with
        | .success x => (rest (some x)).Ends o latest (r.addRecords rs) zs r' result
        | .failure f => (rest none).Ends o latest ((r.addRecords rs).recordError f) zs r' result
        | .crash text => zs = [] ∧ r' = r.addRecords rs ∧ result = .error text
  | .fanOut phase requests decode rest, r, xs, r', result =>
      ∃ ys zs rs outcomes, xs = ys.map Prod.snd ++ zs ∧
        SpreadEnd (r.pipeline phase) decode o.failFast (requests.map r.authorized) ys rs outcomes ∧
        (rest (valuesOf outcomes)).Ends o latest
          ((r.addRecords (rs.map Prod.snd)).recordErrors (failuresOf outcomes)) zs r' result
  | .finish policy payload empty rest, r, xs, r', result =>
      (rest (r.envelope policy payload empty)).Ends o latest r xs r' result

/-! ## Records of authentication -/

/-- Authentication makes at most one call, which is the token call. -/
theorem Authenticates.requests {latest : Nat} {r after : Run} {xs : List Exchange}
    {a : Attempt Unit} (hauth : Authenticates latest r xs a after) :
    xs.length ≤ 1 ∧ ∀ x ∈ xs, ∃ q, r.tokenRequest = .success q ∧
      x.request = (r.pipeline .auth).outgoing q := by
  cases hauth with
  | notRequired | cached => exact ⟨Nat.zero_le 1, nofun⟩
  | issued _ _ _ _ hcall => exact hcall.requests
  | refused _ _ _ _ hcall => exact hcall.requests
  | crashed _ _ _ _ hcall => exact hcall.requests
  | unstorable _ _ _ _ hcall _ => exact hcall.requests

/-- Authentication that succeeds records no failure. -/
theorem Authenticates.of_success {latest : Nat} {r after : Run} {xs : List Exchange}
    (hauth : Authenticates latest r xs (.success ()) after) :
    after.context = r.context ∧ after.ledgers.errors = r.ledgers.errors := by
  cases hauth <;> exact ⟨rfl, rfl⟩

/-- Authentication that fails records its failure. -/
theorem Authenticates.of_failure {latest : Nat} {r after : Run} {xs : List Exchange} {f : Failure}
    (hauth : Authenticates latest r xs (.failure f) after) :
    after.ledgers.errors.entries = r.ledgers.errors.entries ++ [f] := by
  cases hauth with
  | refused => rfl

end Operation
end SupplierGateway
