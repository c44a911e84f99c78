import SupplierGateway.Proofs.Operation.Records
import SupplierGateway.Proofs.Operation.Tokens

/-!
# The time limit of a call is the timeout of its phase

A script makes its calls phase by phase, and every request carries the timeout of its own phase, for
any phase of the operation and any latencies of earlier calls.

* `Ordered` — phases that come one after another in the order of a list;
* `Context.Sends` — a request as it is sent in a phase, and `timeoutMs_of_sends`, its timeout;
* `Script.InPhases` — a script that makes its calls in the order of a list of phases;
* `Task.InPhases` and `InPhases.move` — the same of a task, and the request that a move sends;
* `Task.sends_of_path` — the requests that a task has sent at any moment;
* `Script.InPhases.tags` — the phases of the records of a script that has a result.
-/

namespace SupplierGateway
namespace Operation

open Audit (CallRecord)
open Call (Exchange Pending Undertaken exchanges exchanges_self)
open Http (Request)

variable {α β : Type}

/-! ## Phases in order -/

/-- Phases that come in the order of a list: first any number of the first phase of the list, then
any number of the second, and so on. -/
def Ordered : List Phase → List Phase → Prop
  | [], phases => phases = []
  | tag :: tags, phases =>
      ∃ first rest, phases = first ++ rest ∧ (∀ p ∈ first, p = tag) ∧ Ordered tags rest

namespace Ordered

variable {tags later phases first : List Phase}

theorem nil (tags : List Phase) : Ordered tags [] := by
  induction tags with
  | nil => rfl
  | cons tag tags ih => exact ⟨[], [], rfl, List.forall_mem_nil _, ih⟩

/-- Phases of which some are left out. -/
theorem of_suffix (hordered : Ordered later phases) (hsuffix : later <:+ tags) :
    Ordered tags phases := by
  obtain ⟨before, rfl⟩ := hsuffix
  induction before with
  | nil => exact hordered
  | cons tag before ih => exact ⟨[], phases, rfl, List.forall_mem_nil _, ih⟩

/-- More of the first phase may come before. -/
theorem append (hfirst : ∀ p ∈ first, later.head? = some p) (hordered : Ordered later phases) :
    Ordered later (first ++ phases) := by
  cases later with
  | nil =>
      have hnone : first = [] := List.eq_nil_iff_forall_not_mem.mpr fun p hp => by
        cases hfirst p hp
      rw [hnone]
      exact hordered
  | cons tag later =>
      obtain ⟨more, rest, rfl, hmore, hrest⟩ := hordered
      refine ⟨first ++ more, rest, (List.append_assoc ..).symm, ?_, hrest⟩
      exact List.forall_mem_append.mpr ⟨fun p hp => (Option.some.inj (hfirst p hp)).symm, hmore⟩

end Ordered

/-! ## Requests -/

/-- A request is sent in a phase of an operation. -/
def Context.Sends (c : Context) (x : Exchange) (phase : Phase) : Prop :=
  ∃ q, x.request = (c.derive phase).pipeline.outgoing q

/-- A request carries the timeout of its phase. -/
theorem Context.timeoutMs_of_sends {c : Context} {x : Exchange} {phase : Phase}
    (hsends : c.Sends x phase) : x.request.timeoutMs = c.timeouts.resolve phase := by
  obtain ⟨q, hq⟩ := hsends
  rw [hq]
  rfl

/-- A record that an exchange leaves is of the phase in which the exchange was sent. -/
theorem Context.Records.sends {c : Context} {x : Exchange} {record : CallRecord}
    (hrecord : c.Records x record) : c.Sends x record.phase := by
  obtain ⟨phase, q, hsent, hrecorded⟩ := hrecord
  exact ⟨q, hrecorded.phase.symm ▸ hsent⟩

/-- Exchanges that were all sent in the first of some phases. -/
theorem exists_phases {c : Context} {later : List Phase} {xs : List Exchange}
    (hsent : ∀ x ∈ xs, ∃ phase, later.head? = some phase ∧ c.Sends x phase) :
    ∃ phases, List.Forall₂ c.Sends xs phases ∧ ∀ p ∈ phases, later.head? = some p := by
  induction xs with
  | nil => exact ⟨[], .nil, List.forall_mem_nil _⟩
  | cons x xs ih =>
      obtain ⟨⟨phase, hhead, hx⟩, hxs⟩ := List.forall_mem_cons.mp hsent
      obtain ⟨phases, hphases, hheads⟩ := ih hxs
      exact ⟨phase :: phases, .cons hx hphases, List.forall_mem_cons.mpr ⟨hhead, hheads⟩⟩

/-! ## Scripts -/

/-- A script makes its calls in the order of a list of phases. -/
inductive Script.InPhases : List Phase → Script β → Prop
  | done {tags : List Phase} (b : β) : InPhases tags (.done b)
  | report {tags : List Phase} (f : Failure) (entry : Option LogEntry) (rest : Script β)
      (hrest : InPhases tags rest) : InPhases tags (.report f entry rest)
  | authenticate {tags later : List Phase} (hsuffix : .auth :: later <:+ tags)
      (rest : Except Failure Unit → Script β) (hrest : ∀ a, InPhases later (rest a)) :
      InPhases tags (.authenticate rest)
  | call {α : Type} {tags later : List Phase} {phase : Phase} (hsuffix : phase :: later <:+ tags)
      (request : Attempt Request) (decode : String → Attempt α) (rest : Option α → Script β)
      (hrest : ∀ a, InPhases (phase :: later) (rest a)) :
      InPhases tags (.call phase request decode rest)
  | fanOut {α : Type} {tags later : List Phase} {phase : Phase} (hsuffix : phase :: later <:+ tags)
      (requests : List (Attempt Request)) (decode : String → Attempt α)
      (rest : List α → Script β) (hrest : ∀ values, InPhases (phase :: later) (rest values)) :
      InPhases tags (.fanOut phase requests decode rest)
  | finish {π : Type} {tags : List Phase} (policy : Policy) (payload empty : π)
      (rest : Envelope π → Script β) (hrest : ∀ env, InPhases tags (rest env)) :
      InPhases tags (.finish policy payload empty rest)

/-- Phases may be left out. -/
theorem Script.InPhases.of_suffix {tags later : List Phase} {script : Script β}
    (hphases : script.InPhases later) (hsuffix : later <:+ tags) : script.InPhases tags := by
  induction hphases generalizing tags with
  | done b => exact .done b
  | report f entry rest _ ih => exact .report f entry rest (ih hsuffix)
  | authenticate hinner rest hrest _ => exact .authenticate (hinner.trans hsuffix) rest hrest
  | call hinner request decode rest hrest _ =>
      exact .call (hinner.trans hsuffix) request decode rest hrest
  | fanOut hinner requests decode rest hrest _ =>
      exact .fanOut (hinner.trans hsuffix) requests decode rest hrest
  | finish policy payload empty rest _ ih =>
      exact .finish policy payload empty rest fun env => ih env hsuffix

/-! ## Tasks -/

/-- The calls that a stage has yet to make are in the order of a list of phases.  The first phase of
the list may be the one of the calls that are being made. -/
def Stage.InPhases (c : Context) (tags : List Phase) : Stage β → Prop
  | .ready script => script.InPhases tags
  | .authenticating _ _ rest =>
      ∃ later, .auth :: later <:+ tags ∧ ∀ a, (rest a).InPhases later
  | .calling _ _ rest => ∀ a, (rest a).InPhases tags
  | .spreading spread rest => ∃ phase later, phase :: later <:+ tags ∧
      spread.pipeline = (c.derive phase).pipeline ∧ ∀ values, (rest values).InPhases (phase :: later)
  | .done _ | .crashed _ => True

namespace Task

/-- The calls that a task has yet to make are in the order of a list of phases. -/
def InPhases (t : Task β) (tags : List Phase) : Prop := t.stage.InPhases t.run.context tags

/-- The property that a move of a task preserves: a request that it sends is sent in the first of
the phases that are left. -/
def Keeps (t : Task β) (tags : List Phase) (xs : List Exchange) (t' : Task β) : Prop :=
  ∃ later, later <:+ tags ∧ t'.stage.InPhases t.run.context later ∧
    ∀ x ∈ xs, ∃ phase, later.head? = some phase ∧ t.run.context.Sends x phase

variable {t : Task β} {r : Resources} {tags : List Phase}

/-- A move that sends nothing has the property if the task after it makes its calls in the order of
the phases. -/
theorem keeps_of_silent (later : List Phase) {t' : Task β}
    (hstage : t'.stage.InPhases t.run.context later) (hsuffix : later <:+ tags) :
    t.Keeps tags [] t' :=
  ⟨later, hsuffix, hstage, List.forall_mem_nil _⟩

/-- Beginning a call sends its request in the phase of the call. -/
theorem sends_begin {c : Context} {phase : Phase} (haddress : r.transport.address = id)
    (clockMs : Nat) (request : Attempt Request) :
    ∀ x ∈ exchanges r.transport
        (Pending.begin (c.derive phase).pipeline clockMs r.transport request).1, c.Sends x phase := by
  intro x hx
  obtain ⟨hbegun, -⟩ :=
    Pending.begun_begin (p := (c.derive phase).pipeline) rfl clockMs haddress request
  obtain ⟨q, -, hsent⟩ := hbegun.requests x hx
  exact ⟨q, hsent⟩

theorem keeps_carryOut (haddress : r.transport.address = id) {script : Script β}
    (hphases : script.InPhases tags) :
    t.Keeps tags (exchanges r.transport (t.carryOut r script).resources.transport)
      (t.carryOut r script).task := by
  cases hphases with
  | done b =>
      rw [carryOut, stay, exchanges_self]
      exact keeps_of_silent tags trivial List.suffix_rfl
  | report f entry rest hrest =>
      simp only [carryOut, goOn, Resources.tell, exchanges_self]
      exact keeps_of_silent _ hrest List.suffix_rfl
  | authenticate hsuffix rest hrest =>
      simp only [carryOut]
      split
      · rw [exchanges_self]
        exact keeps_of_silent tags ⟨_, hsuffix, hrest⟩ List.suffix_rfl
      · rw [goOn, exchanges_self]
        exact keeps_of_silent _ (hrest _) ((List.suffix_cons _ _).trans hsuffix)
  | call hsuffix request decode rest hrest =>
      exact ⟨_, hsuffix, hrest, fun x hx => ⟨_, rfl, sends_begin haddress r.clockMs _ x hx⟩⟩
  | fanOut hsuffix requests decode rest hrest =>
      rw [carryOut, beginSpread, exchanges_self]
      exact keeps_of_silent tags ⟨_, _, hsuffix, rfl, hrest⟩ List.suffix_rfl
  | finish policy payload empty rest hrest =>
      simp only [carryOut, goOn, Resources.tell, exchanges_self]
      exact keeps_of_silent _ (hrest _) List.suffix_rfl

theorem keeps_follow (haddress : r.transport.address = id) (who : Nat) {later : List Phase}
    (hsuffix : .auth :: later <:+ tags) (token : Option TokenCall)
    {rest : Except Failure Unit → Script β} (hrest : ∀ a, (rest a).InPhases later)
    (lookup : Cache.Phase Cache.CachedCredential) :
    t.Keeps tags (exchanges r.transport (t.follow r who token rest lookup).resources.transport)
      (t.follow r who token rest lookup).task := by
  have hstays : ∀ {lookup token},
      t.Keeps tags [] { t with stage := .authenticating lookup token rest } :=
    keeps_of_silent _ ⟨later, List.suffix_rfl, hrest⟩ hsuffix
  have hpassed : later <:+ tags := (List.suffix_cons _ _).trans hsuffix
  unfold follow
  split
  · refine ⟨_, hsuffix, ⟨later, List.suffix_rfl, hrest⟩, fun x hx => ⟨_, rfl, ?_⟩⟩
    exact sends_begin (c := t.run.context) haddress r.clockMs t.run.tokenRequest x hx
  · rw [stay, exchanges_self]
    exact hstays
  · simp only
    split <;> simp only [stay, exchanges_self] <;> exact hstays
  · rw [goOn, exchanges_self]
    exact keeps_of_silent _ (hrest _) hpassed
  · simp only [goOn, Resources.tell, exchanges_self]
    exact keeps_of_silent _ (hrest _) hpassed
  · rw [stay, exchanges_self]
    exact keeps_of_silent tags trivial List.suffix_rfl
  · rw [exchanges_self]
    exact hstays

theorem keeps_lookUp (haddress : r.transport.address = id) (who : Nat) {later : List Phase}
    (hsuffix : .auth :: later <:+ tags) (token : Option TokenCall)
    {rest : Except Failure Unit → Script β} (hrest : ∀ a, (rest a).InPhases later)
    (lookup : Cache.Phase Cache.CachedCredential) :
    t.Keeps tags (exchanges r.transport (t.lookUp r who token rest lookup).resources.transport)
      (t.lookUp r who token rest lookup).task :=
  keeps_follow (r := (r.setCache t.cache
    ((r.cache t.cache).advance credentialCodec r.clockMs who t.tokenKey lookup).cache).tell _)
      haddress who hsuffix token hrest _

/-- Calls that are made at once are sent through their pipeline. -/
theorem sends_moveSpread {c : Context} {phase : Phase} {spread : Spread α}
    (hpipeline : spread.pipeline = (c.derive phase).pipeline)
    (haddress : r.transport.address = id) (m : Move) :
    ∀ x ∈ exchanges r.transport (spread.move r.clockMs r.transport m).transport,
      c.Sends x phase := by
  have hsilent : ∀ x ∈ exchanges r.transport r.transport, c.Sends x phase := by
    rw [exchanges_self]
    exact List.forall_mem_nil _
  cases m with
  | begin runner =>
      simp only [Spread.move, Spread.begin]
      split
      · split
        · rw [hpipeline]
          exact sends_begin haddress r.clockMs _
        · exact hsilent
      · exact hsilent
  | settle unit =>
      simp only [Spread.move, Spread.settle]
      split <;> exact hsilent
  | giveUp unit =>
      simp only [Spread.move, Spread.giveUp]
      split
      · split <;> exact hsilent
      · exact hsilent
  | proceed | arrive | take | receive => exact hsilent

theorem keeps_moveSpread (haddress : r.transport.address = id) {spread : Spread α}
    {rest : List α → Script β} (hphases : Stage.InPhases t.run.context tags (.spreading spread rest))
    (m : Move) :
    t.Keeps tags (exchanges r.transport (t.moveSpread r spread rest m).resources.transport)
      (t.moveSpread r spread rest m).task := by
  obtain ⟨phase, later, hsuffix, hpipeline, hrest⟩ := hphases
  refine ⟨phase :: later, hsuffix, ⟨phase, later, List.suffix_rfl, ?_, hrest⟩, fun x hx => ?_⟩
  · exact (spread.same_move r.clockMs r.transport m).pipeline.trans hpipeline
  · exact ⟨phase, rfl, sends_moveSpread hpipeline haddress m x hx⟩

/-- Every move of a task sends in the first of the phases that are left. -/
theorem InPhases.move (hphases : t.InPhases tags) (haddress : r.transport.address = id) (who : Nat)
    (m : Move) :
    t.Keeps tags (exchanges r.transport (t.move r who m).resources.transport)
      (t.move r who m).task := by
  have hstays : t.Keeps tags (exchanges r.transport (t.stay r).resources.transport)
      (t.stay r).task := by
    rw [stay, exchanges_self]
    exact keeps_of_silent _ hphases List.suffix_rfl
  obtain ⟨run, options, cache, stage⟩ := t
  cases stage with
  | ready script =>
      cases m with
      | proceed => exact keeps_carryOut haddress hphases
      | arrive | take | begin | settle | giveUp | receive => exact hstays
  | authenticating lookup token rest =>
      obtain ⟨later, hsuffix, hrest⟩ := hphases
      cases m with
      | proceed => exact keeps_lookUp haddress who hsuffix token hrest lookup
      | arrive =>
          cases token with
          | none => exact hstays
          | some token =>
              simp only [Task.move, transport_arriveToken, exchanges_self]
              exact keeps_of_silent _ ⟨later, List.suffix_rfl, hrest⟩ hsuffix
      | take | begin | settle | giveUp | receive => exact hstays
  | calling call decode rest =>
      cases m with
      | arrive =>
          simp only [Task.move, transport_arriveCall, exchanges_self]
          refine keeps_of_silent tags ?_ List.suffix_rfl
          unfold arriveCall
          simp only
          split
          · exact hphases _
          · exact hphases _
          · exact trivial
      | proceed | take | begin | settle | giveUp | receive => exact hstays
  | spreading spread rest =>
      cases m with
      | proceed =>
          simp only [Task.move]
          split
          · simp only [endSpread, goOn, Resources.tell, exchanges_self]
            obtain ⟨phase, later, hsuffix, -, hrest⟩ := hphases
            exact keeps_of_silent _ (hrest _) hsuffix
          · exact hstays
      | arrive | take | begin | settle | giveUp | receive => exact keeps_moveSpread haddress hphases _
  | done b => cases m <;> exact hstays
  | crashed text => cases m <;> exact hstays

/-- At any moment, the requests that a task has sent were sent in the order of the phases of its
script. -/
theorem sends_of_path {who latest : Nat} {t' : Task β} {xs : List Exchange}
    (hpath : Path who latest t xs t') (hphases : t.InPhases tags) :
    ∃ phases, List.Forall₂ t.run.context.Sends xs phases ∧ Ordered tags phases := by
  induction hpath generalizing tags with
  | nil t => exact ⟨[], .nil, .nil tags⟩
  | @cons t t' xs r haddress hclock m hrest ih =>
      obtain ⟨later, hsuffix, hstage, hsent⟩ := hphases.move haddress who m
      have hcontext := (t.fixed_move r who m).context
      have hlater : (t.move r who m).task.InPhases later := by
        rw [InPhases, hcontext]
        exact hstage
      obtain ⟨phases, hsends, hordered⟩ := ih hlater
      rw [hcontext] at hsends
      obtain ⟨first, hfirst, hheads⟩ := exists_phases hsent
      exact ⟨first ++ phases, List.rel_append hfirst hsends,
        (hordered.append hheads).of_suffix hsuffix⟩

end Task

/-! ## Records -/

/-- There is one record for each exchange, in any order, and in the order of the exchanges their
phases are in the order of a list. -/
def Tagged (c : Context) (tags : List Phase) (xs : List Exchange) (rs : List CallRecord) : Prop :=
  ∃ rs', List.Forall₂ c.Records xs rs' ∧ rs'.Perm rs ∧ Ordered tags (rs'.map CallRecord.phase)

namespace Tagged

variable {c : Context} {tags later : List Phase} {xs ys : List Exchange} {rs ws : List CallRecord}

theorem nil (c : Context) (tags : List Phase) : Tagged c tags [] [] :=
  ⟨[], .nil, .nil, .nil tags⟩

/-- Exchanges and records in the first of some phases may be put before others. -/
theorem append {phase : Phase} (hsuffix : phase :: later <:+ tags) (haudited : Audited c xs rs)
    (hphase : ∀ r ∈ rs, r.phase = phase) (hrest : Tagged c (phase :: later) ys ws) :
    Tagged c tags (xs ++ ys) (rs ++ ws) := by
  obtain ⟨rs', hxs, hrs⟩ := haudited
  obtain ⟨ws', hys, hws, hordered⟩ := hrest
  refine ⟨rs' ++ ws', List.rel_append hxs hys, hrs.append hws, ?_⟩
  rw [List.map_append]
  refine (hordered.append fun p hp => ?_).of_suffix hsuffix
  obtain ⟨r, hr, rfl⟩ := List.mem_map.mp hp
  exact congrArg some (hphase r (hrs.mem_iff.mp hr)).symm

theorem of_suffix (htagged : Tagged c later xs rs) (hsuffix : later <:+ tags) :
    Tagged c tags xs rs := by
  obtain ⟨rs', hxs, hrs, hordered⟩ := htagged
  exact ⟨rs', hxs, hrs, hordered.of_suffix hsuffix⟩

end Tagged

/-- A call is recorded in the phase of its pipeline. -/
theorem phase_of_undertaken {p : Call.Pipeline} {decode : String → Attempt α}
    {request : Attempt Request} {xs : List Exchange} {rs : List CallRecord} {a : Attempt α}
    (hcall : Undertaken p decode request xs rs a) : ∀ r ∈ rs, r.phase = p.context.phase := by
  cases hcall with
  | unsent | crashed => exact List.forall_mem_nil _
  | sent q x record hrequest hrecord => exact List.forall_mem_singleton.mpr hrecord.phase

/-- A call among several is recorded in the phase of its pipeline, also when it is abandoned. -/
theorem phase_of_unitEnd {p : Call.Pipeline} {decode : String → Attempt α} {failFast : Bool}
    {unit : Nat} {request : Attempt Request} {xs : List Exchange} {rs : List CallRecord}
    {o : Except Failure α} (hend : UnitEnd p decode failFast unit request xs rs o) :
    ∀ r ∈ rs, r.phase = p.context.phase := by
  cases hend with
  | settled _ _ a hcall => exact phase_of_undertaken hcall.undertaken
  | cancelled _ _ _ hrecorded hrequests =>
      clear hrequests
      induction hrecorded with
      | nil => exact List.forall_mem_nil _
      | cons hrecord _ ih => exact List.forall_mem_cons.mpr ⟨hrecord.phase, ih⟩

/-- Calls that are made at once are recorded in the phase of their pipeline. -/
theorem phase_of_spreadEnd {p : Call.Pipeline} {decode : String → Attempt α} {failFast : Bool}
    {requests : List (Attempt Request)} {xs : List (Nat × Exchange)} {rs : List (Nat × CallRecord)}
    {outcomes : List (Except Failure α)}
    (hspread : SpreadEnd p decode failFast requests xs rs outcomes) :
    ∀ r ∈ rs.map Prod.snd, r.phase = p.context.phase := by
  intro record hrecord
  obtain ⟨⟨unit, r⟩, hr, rfl⟩ := List.mem_map.mp hrecord
  have hlt := hspread.record_lt _ hr
  have hof : r ∈ ofUnit unit rs :=
    List.mem_map.mpr ⟨(unit, r), List.mem_filter.mpr ⟨hr, beq_self_eq_true _⟩, rfl⟩
  exact phase_of_unitEnd (hspread.unit unit _ _ (List.getElem?_eq_getElem hlt)
    (List.getElem?_eq_getElem (hspread.length_eq ▸ hlt))) r hof

/-- From one moment of a run to a later one, the records of some exchanges were added, in the order
of a list of phases. -/
structure Run.Tags (r : Run) (tags : List Phase) (xs : List Exchange) (r' : Run) : Prop where
  context_eq : r'.context = r.context
  records : ∃ rs, r'.ledgers.calls.entries = r.ledgers.calls.entries ++ rs ∧
    Tagged r.context tags xs rs

namespace Run.Tags

variable {r r' : Run} {tags later : List Phase} {xs ys : List Exchange}

theorem refl (r : Run) (tags : List Phase) : r.Tags tags [] r :=
  ⟨rfl, [], (List.append_nil _).symm, .nil _ _⟩

theorem of_suffix (htags : r.Tags later xs r') (hsuffix : later <:+ tags) : r.Tags tags xs r' := by
  obtain ⟨rs, hrs, htagged⟩ := htags.records
  exact ⟨htags.context_eq, rs, hrs, htagged.of_suffix hsuffix⟩

/-- The records of a call in the first of some phases may be put before others. -/
theorem append {phase : Phase} (hsuffix : phase :: later <:+ tags) {rs : List CallRecord}
    (haudited : Audited r.context xs rs) (hphase : ∀ record ∈ rs, record.phase = phase)
    (after : Run) (hcontext : after.context = r.context)
    (hcalls : after.ledgers.calls.entries = r.ledgers.calls.entries ++ rs)
    (hrest : after.Tags (phase :: later) ys r') : r.Tags tags (xs ++ ys) r' := by
  obtain ⟨ws, hws, htagged⟩ := hrest.records
  refine ⟨hrest.context_eq.trans hcontext, rs ++ ws, ?_, ?_⟩
  · rw [hws, hcalls, List.append_assoc]
  · rw [hcontext] at htagged
    exact .append hsuffix haudited hphase htagged

end Run.Tags

/-- Authentication that does not crash leaves records in its own phase. -/
theorem Authenticates.exists_records {latest : Nat} {r after : Run} {xs : List Exchange}
    {a : Attempt Unit} (hauth : Authenticates latest r xs a after)
    (hlasts : ∀ text, a ≠ .crash text) :
    after.context = r.context ∧ ∃ rs, Audited r.context xs rs ∧
      (∀ record ∈ rs, record.phase = .auth) ∧
      after.ledgers.calls.entries = r.ledgers.calls.entries ++ rs := by
  have hnone : r.ledgers.calls.entries = r.ledgers.calls.entries ++ [] := (List.append_nil _).symm
  have hcalled : ∀ {issued : Attempt Supplier.IssuedToken} {rs : List CallRecord},
      Undertaken (r.pipeline .auth) readIssued r.tokenRequest xs rs issued →
        Audited r.context xs rs ∧ ∀ record ∈ rs, record.phase = .auth :=
    fun hcall => ⟨audited_of_undertaken hcall, phase_of_undertaken hcall⟩
  cases hauth with
  | notRequired hcredential => exact ⟨rfl, [], .nil _, List.forall_mem_nil _, hnone⟩
  | cached hcredential c => exact ⟨rfl, [], .nil _, List.forall_mem_nil _, hnone⟩
  | issued hcredential xs rs t hcall => exact ⟨rfl, rs, (hcalled hcall).1, (hcalled hcall).2, rfl⟩
  | refused hcredential xs rs f hcall => exact ⟨rfl, rs, (hcalled hcall).1, (hcalled hcall).2, rfl⟩
  | crashed hcredential xs rs text hcall => exact absurd rfl (hlasts text)
  | unstorable hcredential xs rs t hcall hbeyond => exact absurd rfl (hlasts _)

/-- A script that has a result leaves one record for each exchange, in the order of its phases. -/
theorem Script.InPhases.tags {o : FanOut.Options} {latest : Nat} {tags : List Phase}
    {script : Script β} (hphases : script.InPhases tags) {r r' : Run} {xs : List Exchange} {b : β}
    (hends : script.Ends o latest r xs r' (.ok b)) : r.Tags tags xs r' := by
  induction hphases generalizing r xs with
  | done b =>
      rw [Script.Ends] at hends
      obtain ⟨rfl, rfl, -⟩ := hends
      exact .refl _ _
  | report f entry rest _ ih =>
      have hrest := ih hends
      exact ⟨hrest.context_eq, hrest.records⟩
  | authenticate hsuffix rest _ ih =>
      rw [Script.Ends] at hends
      obtain ⟨ys, zs, a, after, rfl, hauth, hend⟩ := hends
      cases a with
      | success _ =>
          obtain ⟨hcontext, rs, haudited, hphase, hcalls⟩ :=
            hauth.exists_records fun text h => by cases h
          exact .append hsuffix haudited hphase after hcontext hcalls
            ((ih _ hend).of_suffix (List.suffix_cons _ _))
      | failure f =>
          obtain ⟨hcontext, rs, haudited, hphase, hcalls⟩ :=
            hauth.exists_records fun text h => by cases h
          exact .append hsuffix haudited hphase after hcontext hcalls
            ((ih _ hend).of_suffix (List.suffix_cons _ _))
      | crash text => cases hend.2.2
  | call hsuffix request decode rest _ ih =>
      rw [Script.Ends] at hends
      obtain ⟨ys, zs, rs, a, rfl, hcall, hend⟩ := hends
      have haudited := audited_of_undertaken (c := r.context) hcall.undertaken
      have hphase := phase_of_undertaken hcall.undertaken
      cases a with
      | success x => exact .append hsuffix haudited hphase (r.addRecords rs) rfl rfl (ih _ hend)
      | failure f =>
          exact .append hsuffix haudited hphase ((r.addRecords rs).recordError f) rfl rfl
            (ih _ hend)
      | crash text => cases hend.2.2
  | fanOut hsuffix requests decode rest _ ih =>
      rw [Script.Ends] at hends
      obtain ⟨ys, zs, rs, outcomes, rfl, hspread, hend⟩ := hends
      exact .append hsuffix (audited_of_spreadEnd (c := r.context) hspread)
        (phase_of_spreadEnd hspread)
        ((r.addRecords (rs.map Prod.snd)).recordErrors (failuresOf outcomes)) rfl rfl (ih _ hend)
  | finish policy payload empty rest _ ih => exact ih _ hends

end Operation
end SupplierGateway
