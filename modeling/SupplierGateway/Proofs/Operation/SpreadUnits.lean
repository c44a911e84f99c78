import Mathlib.Data.List.Perm.Basic
import SupplierGateway.Proofs.FanOut.Accounting
import SupplierGateway.Proofs.FanOut.Frames
import SupplierGateway.Proofs.Operation.Ends

/-!
# The units of calls that are made at once

While calls are made at once, each unit waits, is pending, or has been reported.  Its exchanges and
its records depend on this state only, and not on the other units.

* `Spread.Path` — moves of a spread, with their exchanges and records, tagged by the unit concerned;
* `Spread.UnitAt` — the state of a unit, with its exchanges and records so far;
* `Spread.Tracked` — the invariant: every unit is in one of these states;
* `Spread.Tracked.move` — every move preserves it;
* `Spread.spreadEnd_of_path` — when all calls have ended, each of them ended in one of the ways in
  which a single call can end, or was abandoned.
-/

namespace SupplierGateway
namespace Operation

open Audit (CallRecord)
open Call (Emission Exchange Interceptor Pending exchanges exchanges_self)
open FanOut (Pool)
open Http (Request Transport)

variable {α : Type}

/-! ## Entries of a unit -/

section OfUnit

variable {γ : Type}

@[simp] theorem ofUnit_append (unit : Nat) (xs ys : List (Nat × γ)) :
    ofUnit unit (xs ++ ys) = ofUnit unit xs ++ ofUnit unit ys := by
  simp [ofUnit]

@[simp] theorem ofUnit_tagged_self (unit : Nat) (ys : List γ) :
    ofUnit unit (ys.map fun y => (unit, y)) = ys := by
  simp [ofUnit, List.filter_map, Function.comp_def]

theorem ofUnit_tagged_of_ne {unit other : Nat} (hother : unit ≠ other) (ys : List γ) :
    ofUnit unit (ys.map fun y => (other, y)) = [] := by
  simp [ofUnit, List.filter_map, Function.comp_def, Ne.symm hother]

/-- Entries whose units are below a number are a permutation of the entries of each unit. -/
theorem flatMap_ofUnit_perm (n : Nat) (entries : List (Nat × γ))
    (hlt : ∀ entry ∈ entries, entry.1 < n) :
    (entries.map Prod.snd).Perm ((List.range n).flatMap fun unit => ofUnit unit entries) := by
  induction n generalizing entries with
  | zero =>
      have hnil : entries = [] :=
        List.eq_nil_iff_forall_not_mem.mpr fun entry hentry =>
          absurd (hlt entry hentry) (Nat.not_lt_zero _)
      rw [hnil]
      exact .nil
  | succ n ih =>
      -- Split off the entries of the last unit; the others are below it.
      have hlower := ih (entries.filter fun entry => entry.1 != n) fun entry hentry => by
        obtain ⟨hmem, hne⟩ := List.mem_filter.mp hentry
        have hbound := hlt entry hmem
        have hdiffer : entry.1 ≠ n := by simpa using hne
        omega
      have hsame : ∀ unit ∈ List.range n,
          ofUnit unit (entries.filter fun entry => entry.1 != n) = ofUnit unit entries := by
        intro unit hunit
        have hne : unit ≠ n := Nat.ne_of_lt (List.mem_range.mp hunit)
        rw [ofUnit, ofUnit, List.filter_filter]
        congr 1
        refine List.filter_congr fun entry _ => ?_
        by_cases hentry : entry.1 = unit
        · simp [hentry, hne]
        · simp [hentry]
      rw [List.flatMap_congr hsame] at hlower
      rw [List.range_succ, List.flatMap_append, List.flatMap_singleton]
      have hsplit := List.filter_append_perm (fun entry => entry.1 != n) entries
      have hlast :
          (entries.filter fun entry => !(entry.1 != n)).map Prod.snd = ofUnit n entries := by
        rw [ofUnit]
        congr 1
        exact List.filter_congr fun entry _ => Bool.not_not _
      refine (hsplit.map Prod.snd).symm.trans ?_
      rw [List.map_append, hlast]
      exact hlower.append_right _

end OfUnit

namespace Spread

/-! ## Moves -/

/-- The unit that a move concerns. -/
def subject (s : Spread α) : Move → Nat
  | .begin runner => (s.pool.runner runner).unit?.getD 0
  | .settle unit | .giveUp unit => unit
  | .proceed | .arrive | .take _ | .receive => 0

/-- Moves of a spread one after another, with their exchanges and records. -/
inductive Path : Spread α → List (Nat × Exchange) → List (Nat × CallRecord) → Spread α → Prop
  | nil (s : Spread α) : Path s [] [] s
  | cons {s s' : Spread α} {xs : List (Nat × Exchange)} {rs : List (Nat × CallRecord)}
      (clockMs : Nat) (t : Transport) (haddress : t.address = id) (m : Move)
      (hrest : Path (s.move clockMs t m).spread xs rs s') :
      Path s
        ((exchanges t (s.move clockMs t m).transport).map (fun x => (s.subject m, x)) ++ xs)
        ((Emission.records (s.move clockMs t m).emissions).map (fun r => (s.subject m, r)) ++ rs)
        s'

/-- A spread with the calls of another one. -/
structure Same (s s' : Spread α) : Prop where
  pipeline : s'.pipeline = s.pipeline
  requests : s'.requests = s.requests
  decode : s'.decode = s.decode

theorem Same.request {s s' : Spread α} (hsame : s.Same s') (unit : Nat) :
    s'.request unit = s.request unit := by
  rw [Spread.request, hsame.requests]
  rfl

theorem Same.trans {s s' s'' : Spread α} (hfirst : s.Same s') (hsecond : s'.Same s'') :
    s.Same s'' where
  pipeline := hsecond.pipeline.trans hfirst.pipeline
  requests := hsecond.requests.trans hfirst.requests
  decode := hsecond.decode.trans hfirst.decode

theorem same_move (s : Spread α) (clockMs : Nat) (t : Transport) (m : Move) :
    s.Same (s.move clockMs t m).spread := by
  cases m with
  | proceed | arrive | take | receive => exact ⟨rfl, rfl, rfl⟩
  | begin r =>
      simp only [move, begin]
      split
      · split <;> exact ⟨rfl, rfl, rfl⟩
      · exact ⟨rfl, rfl, rfl⟩
  | settle unit =>
      simp only [move, settle]
      split <;> exact ⟨rfl, rfl, rfl⟩
  | giveUp unit =>
      simp only [move, giveUp]
      split
      · split <;> exact ⟨rfl, rfl, rfl⟩
      · exact ⟨rfl, rfl, rfl⟩

/-- A move is an event of the pool, in which no runner vanishes, or does not change the pool. -/
theorem pool_move (s : Spread α) (clockMs : Nat) (t : Transport) (m : Move) :
    (s.move clockMs t m).spread.pool = s.pool ∨
      ∃ e : FanOut.Event α, e.vanishes = false ∧
        (s.move clockMs t m).spread.pool = s.pool.step e := by
  cases m with
  | proceed | arrive => exact .inl rfl
  | take r => exact .inr ⟨.take r, rfl, rfl⟩
  | receive => exact .inr ⟨.receive, rfl, rfl⟩
  | begin r =>
      simp only [move, begin]
      split
      · split <;> exact .inr ⟨.begin r, rfl, rfl⟩
      · exact .inl rfl
  | settle unit =>
      simp only [move, settle]
      split
      · next runner call _ _ => exact .inr ⟨.settle unit (call.settle s.decode clockMs).2, rfl, rfl⟩
      · exact .inl rfl
  | giveUp unit =>
      simp only [move, giveUp]
      split
      · split
        · exact .inr ⟨.giveUp unit, rfl, rfl⟩
        · exact .inl rfl
      · exact .inl rfl

/-! ## States of a unit -/

/-- The state of a unit of a spread that began as another one, with the exchanges and records of the
unit so far. -/
inductive UnitAt (start s : Spread α) (unit : Nat) (xs : List Exchange) (rs : List CallRecord) :
    Prop
  | waiting (hplace : unit ∈ s.pool.waiting) (hxs : xs = []) (hrs : rs = [])
  | pending (call : Pending) (hplace : unit ∈ s.pool.inProgress) (hcall : s.call? unit = some call)
      (hbegun : Pending.Begun start.pipeline (start.request unit) xs call) (hrs : rs = [])
  | ended (o : Except Failure α) (hplace : s.pool.Reports unit o)
      (hend : UnitEnd start.pipeline start.decode start.pool.failFast unit (start.request unit)
        xs rs o)

theorem UnitAt.frame {start s s' : Spread α} {unit : Nat} {xs : List Exchange}
    {rs : List CallRecord} (hunit : UnitAt start s unit xs rs)
    (hframe : s.pool.Frame s'.pool unit) (hcall : s'.call? unit = s.call? unit) :
    UnitAt start s' unit xs rs := by
  cases hunit with
  | waiting hplace hxs hrs => exact .waiting (hframe.waiting hplace) hxs hrs
  | pending call hplace hpending hbegun hrs =>
      exact .pending call (hframe.inProgress hplace) (hcall.trans hpending) hbegun hrs
  | ended o hplace hend => exact .ended o (hframe.reports o hplace) hend

/-- The invariant of the calls that are made at once. -/
structure Tracked (start : Spread α) (xs : List (Nat × Exchange)) (rs : List (Nat × CallRecord))
    (s : Spread α) : Prop where
  standard : start.pipeline.interceptors = Interceptor.standard
  same : start.Same s
  failFast : s.pool.failFast = start.pool.failFast
  keeps : s.pool.Keeps start.requests.length []
  staffed : s.pool.Staffed start.requests.length
  exchange_lt : ∀ x ∈ xs, x.1 < start.requests.length
  record_lt : ∀ r ∈ rs, r.1 < start.requests.length
  unit : ∀ unit < start.requests.length,
    UnitAt start s unit (ofUnit unit xs) (ofUnit unit rs)

/-- A unit that a runner has is a unit of the spread. -/
theorem Tracked.lt_of_runner {start s : Spread α} {xs : List (Nat × Exchange)}
    {rs : List (Nat × CallRecord)} (htracked : Tracked start xs rs s) {r unit : Nat}
    {x : FanOut.Runner} (hget : s.pool.runners[r]? = some x) (hunit : x.unit? = some unit) :
    unit < start.requests.length := by
  have hheld : 0 < s.pool.held.count unit :=
    List.count_pos_iff.mpr (FanOut.Pool.mem_held hget hunit)
  have hplaces : 0 < s.pool.places unit := by
    unfold Pool.places
    omega
  exact (htracked.keeps.places_le hplaces).1

/-- A unit that a runner holds has sent nothing. -/
theorem Tracked.holding {start s : Spread α} {xs : List (Nat × Exchange)}
    {rs : List (Nat × CallRecord)} (htracked : Tracked start xs rs s) {r unit : Nat}
    (hrunner : s.pool.runner r = .holding unit) :
    unit < start.requests.length ∧ ofUnit unit xs = [] ∧ ofUnit unit rs = [] := by
  have hget := FanOut.Pool.getElem?_runners_of_runner hrunner (by simp)
  have hwaiting : 0 < s.pool.waiting.count unit :=
    List.count_pos_iff.mpr (List.mem_append_right _
      (List.mem_filterMap.mpr ⟨_, List.mem_of_getElem? hget, rfl⟩))
  have hunique := htracked.keeps.place_unique unit
  have hlt := htracked.lt_of_runner hget rfl
  refine ⟨hlt, ?_⟩
  cases htracked.unit unit hlt with
  | waiting hplace hxs hrs => exact ⟨hxs, hrs⟩
  | pending call hplace hcall hbegun hrs =>
      have hpos := List.count_pos_iff.mpr hplace
      omega
  | ended o hplace hend =>
      have hpos := hplace.count_pos
      omega

/-- A unit on which a runner works is pending. -/
theorem Tracked.working {start s : Spread α} {xs : List (Nat × Exchange)}
    {rs : List (Nat × CallRecord)} (htracked : Tracked start xs rs s) {r unit : Nat}
    (hget : s.pool.runners[r]? = some (.working unit)) :
    unit < start.requests.length ∧ ofUnit unit rs = [] ∧
      ∃ call, s.call? unit = some call ∧
        Pending.Begun start.pipeline (start.request unit) (ofUnit unit xs) call := by
  have hprogress : 0 < s.pool.inProgress.count unit :=
    List.count_pos_iff.mpr (FanOut.Pool.mem_inProgress hget)
  have hunique := htracked.keeps.place_unique unit
  have hlt := htracked.lt_of_runner hget rfl
  refine ⟨hlt, ?_⟩
  cases htracked.unit unit hlt with
  | waiting hplace hxs hrs =>
      have hpos := List.count_pos_iff.mpr hplace
      omega
  | pending call hplace hcall hbegun hrs => exact ⟨hrs, call, hcall, hbegun⟩
  | ended o hplace hend =>
      have hpos := hplace.count_pos
      omega

/-! ## Every move preserves the invariant -/

@[simp] theorem records_append (es more : List Emission) :
    Emission.records (es ++ more) = Emission.records es ++ Emission.records more :=
  List.filterMap_append

@[simp] theorem records_logs (entries : List LogEntry) :
    Emission.records (entries.map .log) = [] := by
  simp [Emission.records, List.filterMap_map]

theorem call?_cons_without_of_ne (s : Spread α) {unit other : Nat} (hother : other ≠ unit)
    (call : Pending) : ((unit, call) :: s.without unit).lookup other = s.call? other := by
  have hbeq : (other == unit) = false := by simpa using hother
  rw [List.lookup_cons, hbeq]
  exact lookup_filter_of_ne s.calls hother

/-- A move that concerns one unit does not change the state of the others. -/
theorem Tracked.units {start s s' : Spread α} {xs : List (Nat × Exchange)}
    {rs : List (Nat × CallRecord)} (htracked : Tracked start xs rs s) {unit : Nat}
    {ys : List Exchange} {ws : List CallRecord}
    (hunit : UnitAt start s' unit (ofUnit unit xs ++ ys) (ofUnit unit rs ++ ws))
    (hframe : ∀ other, other ≠ unit → s.pool.Frame s'.pool other)
    (hcall : ∀ other, other ≠ unit → s'.call? other = s.call? other) :
    ∀ other < start.requests.length,
      UnitAt start s' other (ofUnit other (xs ++ ys.map fun x => (unit, x)))
        (ofUnit other (rs ++ ws.map fun r => (unit, r))) := by
  intro other hlt
  by_cases hother : other = unit
  · subst hother
    simpa using hunit
  · have hbefore := htracked.unit other hlt
    have hafter := hbefore.frame (hframe other hother) (hcall other hother)
    simpa [ofUnit_tagged_of_ne hother] using hafter

/-- A move that sends and records nothing, and in which all units keep their places, keeps the
invariant. -/
theorem Tracked.units_of_frame {start s s' : Spread α} {xs : List (Nat × Exchange)}
    {rs : List (Nat × CallRecord)} (htracked : Tracked start xs rs s)
    (hframe : ∀ unit, s.pool.Frame s'.pool unit) (hcall : ∀ unit, s'.call? unit = s.call? unit) :
    ∀ unit < start.requests.length,
      UnitAt start s' unit (ofUnit unit xs) (ofUnit unit rs) :=
  fun unit hlt => (htracked.unit unit hlt).frame (hframe unit) (hcall unit)

/-- The effect of a move on the units. -/
structure Step (start s' : Spread α) (xs ys : List (Nat × Exchange))
    (rs ws : List (Nat × CallRecord)) : Prop where
  exchange_lt : ∀ x ∈ ys, x.1 < start.requests.length
  record_lt : ∀ r ∈ ws, r.1 < start.requests.length
  unit : ∀ unit < start.requests.length,
    UnitAt start s' unit (ofUnit unit (xs ++ ys)) (ofUnit unit (rs ++ ws))

/-- A move that concerns one unit of the spread keeps the invariant. -/
theorem Tracked.step {start s s' : Spread α} {xs : List (Nat × Exchange)}
    {rs : List (Nat × CallRecord)} (htracked : Tracked start xs rs s) {unit : Nat}
    (hlt : unit < start.requests.length) (ys : List Exchange) (ws : List CallRecord)
    (hunit : UnitAt start s' unit (ofUnit unit xs ++ ys) (ofUnit unit rs ++ ws))
    (hframe : ∀ other, other ≠ unit → s.pool.Frame s'.pool other)
    (hcall : ∀ other, other ≠ unit → s'.call? other = s.call? other) :
    Step start s' xs (ys.map fun x => (unit, x)) rs (ws.map fun r => (unit, r)) where
  exchange_lt x hx := by
    obtain ⟨y, -, rfl⟩ := List.mem_map.mp hx
    exact hlt
  record_lt r hr := by
    obtain ⟨w, -, rfl⟩ := List.mem_map.mp hr
    exact hlt
  unit := htracked.units hunit hframe hcall

/-- A move that concerns no unit keeps the invariant. -/
theorem Tracked.idle {start s s' : Spread α} {xs : List (Nat × Exchange)}
    {rs : List (Nat × CallRecord)} (htracked : Tracked start xs rs s)
    (hframe : ∀ unit, s.pool.Frame s'.pool unit) (hcall : ∀ unit, s'.call? unit = s.call? unit) :
    Step start s' xs [] rs [] where
  exchange_lt _ hx := absurd hx List.not_mem_nil
  record_lt _ hr := absurd hr List.not_mem_nil
  unit := by simpa using htracked.units_of_frame hframe hcall

theorem frame_refl (p : Pool α) (unit : Nat) : p.Frame p unit := ⟨id, id, fun _ => id⟩

/-- A runner begins the unit that it holds: the unit is pending, or is cancelled before it was
begun. -/
theorem Tracked.begin {start s : Spread α} {xs : List (Nat × Exchange)}
    {rs : List (Nat × CallRecord)} (htracked : Tracked start xs rs s) (clockMs : Nat)
    {t : Transport} (haddress : t.address = id) (r : Nat) :
    Step start (s.begin clockMs t r).spread xs
      ((exchanges t (s.begin clockMs t r).transport).map
        fun x => ((s.pool.runner r).unit?.getD 0, x)) rs
      ((Emission.records (s.begin clockMs t r).emissions).map
        fun w => ((s.pool.runner r).unit?.getD 0, w)) := by
  cases hrunner : s.pool.runner r with
  | idle | working | gone =>
      simp only [Spread.begin, hrunner, stay, exchanges_self]
      exact htracked.idle (frame_refl s.pool) fun _ => rfl
  | holding unit =>
      obtain ⟨hlt, hxs, hrs⟩ := htracked.holding hrunner
      have hget := FanOut.Pool.getElem?_runners_of_runner hrunner (by simp)
      -- With a signal to give up the unit is not begun any more.
      by_cases hsignal : (s.pool.failFast && s.pool.cancelled) = true
      · have hpool : s.pool.begin r =
            s.pool.report r unit (.error FanOut.cancelledFailure) := by
          simp only [Pool.begin, hrunner, if_pos hsignal]
        have hidle : (s.pool.report r unit (.error FanOut.cancelledFailure)).runner r = .idle :=
          FanOut.Pool.runner_setRunner hget .idle
        simp only [Spread.begin, hrunner, hpool, hidle, exchanges_self]
        refine htracked.step hlt [] [] ?_
          (fun other hother => FanOut.Pool.frame_report hget rfl hother _) fun _ _ => rfl
        rw [hxs, hrs]
        refine .ended _ (FanOut.Pool.reports_report ..) (.cancelled ?_ [] [] .nil (by simp))
        exact htracked.failFast ▸ (Bool.and_eq_true _ _ ▸ hsignal).1
      · have hpool : s.pool.begin r = s.pool.setRunner r (.working unit) := by
          simp only [Pool.begin, hrunner, if_neg hsignal]
        have hworking : (s.pool.setRunner r (.working unit)).runner r = .working unit :=
          FanOut.Pool.runner_setRunner hget _
        have hstandard : s.pipeline.interceptors = Interceptor.standard :=
          htracked.same.pipeline ▸ htracked.standard
        obtain ⟨hbegun, -, -, hrecords⟩ :=
          Pending.begun_begin hstandard clockMs haddress (s.request unit)
        simp only [Spread.begin, hrunner, hpool, hworking, hrecords]
        refine htracked.step hlt _ [] ?_ (fun other hother => ?_) fun other hother => ?_
        · rw [hxs, hrs]
          refine .pending (Pending.begin s.pipeline clockMs t (s.request unit)).2.2
            (FanOut.Pool.mem_inProgress (r := r) ?_) ?_ ?_ rfl
          · simp [Pool.setRunner, (List.getElem?_eq_some_iff.mp hget).1]
          · simp [call?]
          · rw [← htracked.same.pipeline, ← htracked.same.request unit]
            exact hbegun
        · exact FanOut.Pool.frame_setRunner hget (fun h => hother (Option.some.inj h).symm) _
        · exact call?_cons_without_of_ne s hother _

theorem Tracked.settle {start s : Spread α} {xs : List (Nat × Exchange)}
    {rs : List (Nat × CallRecord)} (htracked : Tracked start xs rs s) (clockMs : Nat)
    (t : Transport) (unit : Nat) :
    Step start (s.settle clockMs t unit).spread xs
      ((exchanges t (s.settle clockMs t unit).transport).map fun x => (unit, x)) rs
      ((Emission.records (s.settle clockMs t unit).emissions).map fun w => (unit, w)) := by
  unfold Spread.settle
  split
  · next r call hworker hcall =>
    have hget := FanOut.Pool.runner_of_workerOn? hworker
    obtain ⟨hlt, hrs, call', hcall', hbegun⟩ := htracked.working hget
    obtain rfl := Option.some.inj (hcall.symm.trans hcall')
    have hpool : s.pool.step (.settle unit (call.settle s.decode clockMs).2) =
        s.pool.report r unit (FanOut.unitOutcome unit (call.settle s.decode clockMs).2) := by
      simp only [Pool.step, Pool.settle, hworker]
    simp only [hpool, exchanges_self, records_append, records_logs, List.append_nil]
    refine htracked.step hlt [] _ ?_
      (fun other hother => FanOut.Pool.frame_report hget rfl hother _)
      fun other hother => lookup_filter_of_ne s.calls hother
    rw [hrs, List.append_nil, List.nil_append]
    refine .ended _ (FanOut.Pool.reports_report ..) (.settled _ _ _ ?_)
    rw [← htracked.same.decode]
    exact hbegun.complete s.decode clockMs
  · simp only [stay, exchanges_self]
    exact htracked.idle (frame_refl s.pool) fun _ => rfl

theorem Tracked.giveUp {start s : Spread α} {xs : List (Nat × Exchange)}
    {rs : List (Nat × CallRecord)} (htracked : Tracked start xs rs s) (clockMs : Nat)
    (t : Transport) (unit : Nat) :
    Step start (s.giveUp clockMs t unit).spread xs
      ((exchanges t (s.giveUp clockMs t unit).transport).map fun x => (unit, x)) rs
      ((Emission.records (s.giveUp clockMs t unit).emissions).map fun w => (unit, w)) := by
  have hstay : Step start s xs [] rs [] := htracked.idle (frame_refl s.pool) fun _ => rfl
  unfold Spread.giveUp
  split
  · next r call hworker hcall =>
    split
    · next hsignal =>
      have hget := FanOut.Pool.runner_of_workerOn? hworker
      obtain ⟨hlt, hrs, call', hcall', hbegun⟩ := htracked.working hget
      obtain rfl := Option.some.inj (hcall.symm.trans hcall')
      have hpool : s.pool.giveUp unit =
          s.pool.report r unit (.error FanOut.cancelledFailure) := by
        simp only [Pool.giveUp, hworker, if_pos hsignal]
      simp only [hpool, exchanges_self]
      refine htracked.step hlt [] _ ?_
        (fun other hother => FanOut.Pool.frame_report hget rfl hother _)
        fun other hother => lookup_filter_of_ne s.calls hother
      rw [hrs, List.append_nil, List.nil_append]
      refine .ended _ (FanOut.Pool.reports_report ..)
        (.cancelled ?_ _ _ (hbegun.abandon clockMs) ?_)
      · exact htracked.failFast ▸ (Bool.and_eq_true _ _ ▸ hsignal).1
      · exact hbegun.requests
    · simp only [stay, exchanges_self]
      exact hstay
  · simp only [stay, exchanges_self]
    exact hstay

/-- Every move preserves the invariant. -/
theorem Tracked.move {start s : Spread α} {xs : List (Nat × Exchange)}
    {rs : List (Nat × CallRecord)} (htracked : Tracked start xs rs s) (clockMs : Nat)
    {t : Transport} (haddress : t.address = id) (m : Move) :
    Tracked start
      (xs ++ (exchanges t (s.move clockMs t m).transport).map fun x => (s.subject m, x))
      (rs ++ (Emission.records (s.move clockMs t m).emissions).map fun w => (s.subject m, w))
      (s.move clockMs t m).spread := by
  have hstep : Step start (s.move clockMs t m).spread xs
      ((exchanges t (s.move clockMs t m).transport).map fun x => (s.subject m, x)) rs
      ((Emission.records (s.move clockMs t m).emissions).map fun w => (s.subject m, w)) := by
    cases m with
    | proceed | arrive =>
        simp only [Spread.move, stay, exchanges_self]
        exact htracked.idle (frame_refl s.pool) fun _ => rfl
    | take r =>
        simp only [Spread.move, Spread.take, exchanges_self]
        exact htracked.idle (s.pool.frame_take r) fun _ => rfl
    | begin r => exact htracked.begin clockMs haddress r
    | settle unit => exact htracked.settle clockMs t unit
    | giveUp unit => exact htracked.giveUp clockMs t unit
    | receive =>
        simp only [Spread.move, Spread.receive, exchanges_self, records_logs]
        exact htracked.idle (FanOut.Pool.frame_receive htracked.keeps) fun _ => rfl
  have hpool := s.pool_move clockMs t m
  refine ⟨htracked.standard, htracked.same.trans (s.same_move clockMs t m), ?_, ?_, ?_, ?_, ?_,
    hstep.unit⟩
  · rcases hpool with hsame | ⟨e, -, hevent⟩
    · rw [hsame]
      exact htracked.failFast
    · rw [hevent, FanOut.Pool.failFast_step]
      exact htracked.failFast
  · rcases hpool with hsame | ⟨e, he, hevent⟩
    · rw [hsame]
      exact htracked.keeps
    · obtain ⟨lost, hkeeps, hlost⟩ := htracked.keeps.step e
      rw [hevent]
      exact hlost he ▸ hkeeps
  · rcases hpool with hsame | ⟨e, he, hevent⟩
    · rw [hsame]
      exact htracked.staffed
    · rw [hevent]
      exact htracked.staffed.step he
  · intro x hx
    exact (List.mem_append.mp hx).elim (htracked.exchange_lt x) (hstep.exchange_lt x)
  · intro r hr
    exact (List.mem_append.mp hr).elim (htracked.record_lt r) (hstep.record_lt r)

/-- The invariant holds after any moves. -/
theorem Tracked.path {start s s' : Spread α} {xs ys : List (Nat × Exchange)}
    {rs ws : List (Nat × CallRecord)} (htracked : Tracked start xs rs s)
    (hpath : Path s ys ws s') : Tracked start (xs ++ ys) (rs ++ ws) s' := by
  induction hpath generalizing xs rs with
  | nil s => simpa using htracked
  | cons clockMs t haddress m hrest ih =>
      simpa using ih (htracked.move clockMs haddress m)

theorem tracked_start {pipeline : Call.Pipeline}
    (hstandard : pipeline.interceptors = Interceptor.standard) (o : FanOut.Options)
    (requests : List (Attempt Request)) (decode : String → Attempt α) :
    Tracked (Spread.start pipeline o requests decode) [] []
      (Spread.start pipeline o requests decode) where
  standard := hstandard
  same := ⟨rfl, rfl, rfl⟩
  failFast := rfl
  keeps := FanOut.Pool.keeps_start o requests.length
  staffed := FanOut.Pool.staffed_start o requests.length
  exchange_lt _ hx := absurd hx List.not_mem_nil
  record_lt _ hr := absurd hr List.not_mem_nil
  unit _ hlt := .waiting (FanOut.Pool.mem_waiting_start o hlt) rfl rfl

/-! ## The end -/

/-- The outcomes of all units, in order. -/
def outcomes (s : Spread α) : List (Except Failure α) := s.pool.outcomes.map Prod.fst

theorem values_report (s : Spread α) : s.report.values = valuesOf s.outcomes := by
  rw [report, FanOut.Pool.toReport_eq, outcomes]
  induction s.pool.outcomes with
  | nil => rfl
  | cons entry rest ih =>
      obtain ⟨o, unit⟩ := entry
      cases o with
      | ok a => exact congrArg (a :: ·) ih
      | error f => exact ih

theorem failures_report (s : Spread α) : s.report.failures = failuresOf s.outcomes := by
  rw [report, FanOut.Pool.toReport_eq, outcomes]
  induction s.pool.outcomes with
  | nil => rfl
  | cons entry rest ih =>
      obtain ⟨o, unit⟩ := entry
      cases o with
      | ok a => exact ih
      | error f => exact congrArg (f :: ·) ih

theorem length_outcomes (s : Spread α) : s.outcomes.length = s.pool.slots.length := by
  simp [outcomes, Pool.outcomes]

/-- An outcome in the list is the one that the coordinator keeps, if it keeps one. -/
theorem getElem?_outcomes {s : Spread α} {unit : Nat} {o kept : Except Failure α}
    (hget : s.outcomes[unit]? = some o) (hkept : s.pool.outcome? unit = some kept) : o = kept := by
  rw [outcomes, Pool.outcomes, List.getElem?_map, List.getElem?_map, List.getElem?_zipIdx] at hget
  rw [Pool.outcome?] at hkept
  cases hslot : s.pool.slots[unit]? with
  | none => simp [hslot] at hkept
  | some slot =>
      simp only [hslot, Option.join_some] at hkept
      simp only [hslot, hkept, Option.map_some, Option.getD_some] at hget
      exact (Option.some.inj hget).symm

/-- When all calls have ended, each of them ended as a single call ends, or was abandoned. -/
theorem spreadEnd_of_path {pipeline : Call.Pipeline}
    (hstandard : pipeline.interceptors = Interceptor.standard) {o : FanOut.Options}
    {requests : List (Attempt Request)} {decode : String → Attempt α} {s : Spread α}
    {xs : List (Nat × Exchange)} {rs : List (Nat × CallRecord)}
    (hpath : Path (Spread.start pipeline o requests decode) xs rs s)
    (hfinished : s.pool.finished = true) :
    SpreadEnd pipeline decode o.failFast requests xs rs s.outcomes := by
  have htracked := (tracked_start hstandard o requests decode).path hpath
  refine ⟨?_, htracked.exchange_lt, htracked.record_lt, ?_⟩
  · rw [length_outcomes, htracked.keeps.slots_length]
    rfl
  · intro unit request outcome hrequest houtcome
    have hlt : unit < requests.length := (List.getElem?_eq_some_iff.mp hrequest).1
    have hkept := FanOut.Pool.outcome?_isSome_of_finished htracked.keeps htracked.staffed
      hfinished hlt
    obtain ⟨kept, hkept⟩ := Option.isSome_iff_exists.mp hkept
    have hpos : 0 < s.pool.received.count unit := by
      rw [FanOut.Pool.count_received, hkept]
      exact Nat.one_pos
    -- The unit has been received, and is in no other place.
    have hunique := htracked.keeps.place_unique unit
    have hreq : (Spread.start pipeline o requests decode).request unit = request := by
      rw [Spread.request, Spread.start, List.getD_eq_getElem?_getD, hrequest]
      rfl
    cases htracked.unit unit hlt with
    | waiting hplace hxs hrs =>
        have hwaiting := List.count_pos_iff.mpr hplace
        omega
    | pending call hplace hcall hbegun hrs =>
        have hprogress := List.count_pos_iff.mpr hplace
        omega
    | ended o' hplace hend =>
        have hsame : o' = kept := by
          rcases hplace with hchannel | hslot
          · have hreported : 0 < s.pool.reported.count unit :=
              List.count_pos_iff.mpr (List.mem_map.mpr ⟨(unit, o'), hchannel, rfl⟩)
            omega
          · exact Option.some.inj (hslot.symm.trans hkept)
        rw [getElem?_outcomes houtcome hkept, ← hsame, ← hreq]
        have hfast : (Spread.start pipeline o requests decode).pool.failFast = o.failFast :=
          FanOut.Pool.failFast_start o requests.length
        rw [hfast] at hend
        exact hend

end Spread
end Operation
end SupplierGateway
