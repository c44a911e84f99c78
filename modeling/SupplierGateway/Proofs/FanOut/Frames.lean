import SupplierGateway.Proofs.FanOut.Conservation

/-!
# Frame properties of events

A unit waits, then it is in progress, and then it is reported.  This file shows that an event
concerns at most one unit, and does not move the others.

* `Pool.waiting` and `Pool.Reports` — a unit was not begun, or is reported;
* `Keeps.place_unique` — a unit waits, is in progress, or is reported, and only one of these;
* `Pool.Frame` — a unit keeps its place;
* `frame_take`, `frame_report`, `frame_receive` — the frame properties of the events.
-/

namespace SupplierGateway
namespace FanOut
namespace Pool

variable {α : Type} {p : Pool α}

/-- The units that no runner has begun. -/
def waiting (p : Pool α) : List Nat :=
  p.queue ++ p.runners.filterMap fun | .holding unit => some unit | _ => none

/-- An outcome of a unit is reported, whether or not it has been received. -/
def Reports (p : Pool α) (unit : Nat) (o : Except Failure α) : Prop :=
  (unit, o) ∈ p.channel ∨ p.outcome? unit = some o

/-- A unit that a runner has is waiting or in progress. -/
theorem count_waiting_add (p : Pool α) (unit : Nat) :
    p.waiting.count unit + p.inProgress.count unit = p.queue.count unit + p.held.count unit := by
  have hrunners : ∀ runners : List Runner,
      ({ p with runners } : Pool α).waiting.count unit +
        ({ p with runners } : Pool α).inProgress.count unit =
      p.queue.count unit + ({ p with runners } : Pool α).held.count unit := by
    intro runners
    simp only [waiting, inProgress, held, List.count_append]
    induction runners with
    | nil => rfl
    | cons x runners ih =>
        cases x with
        | idle | gone => exact ih
        | holding v | working v =>
            simp only [List.filterMap_cons, Runner.unit?, List.count_cons]
            omega
  exact hrunners p.runners

/-- A unit is waiting, in progress, or reported, and only one of these. -/
theorem Keeps.place_unique {n : Nat} (hkeeps : p.Keeps n []) (unit : Nat) :
    p.waiting.count unit + p.inProgress.count unit + p.reported.count unit +
      p.received.count unit ≤ 1 := by
  have honce := hkeeps.once unit
  have hsplit := p.count_waiting_add unit
  rw [places, List.count_nil] at honce
  split at honce <;> omega

theorem Reports.count_pos {unit : Nat} {o : Except Failure α} (hreports : p.Reports unit o) :
    0 < p.reported.count unit + p.received.count unit := by
  rcases hreports with hchannel | hslot
  · have hpos : 0 < p.reported.count unit :=
      List.count_pos_iff.mpr (List.mem_map.mpr ⟨(unit, o), hchannel, rfl⟩)
    omega
  · have hreceived : p.received.count unit = 1 := by
      rw [count_received, hslot]
      rfl
    omega

/-- A unit keeps its place: waiting, in progress or reported. -/
structure Frame (p p' : Pool α) (unit : Nat) : Prop where
  waiting : unit ∈ p.waiting → unit ∈ p'.waiting
  inProgress : unit ∈ p.inProgress → unit ∈ p'.inProgress
  reports : ∀ o, p.Reports unit o → p'.Reports unit o

/-- A unit that is not with a runner keeps its place when the runner changes its state. -/
theorem frame_setRunner {r unit : Nat} {x : Runner} (hget : p.runners[r]? = some x)
    (hother : x.unit? ≠ some unit) (next : Runner) : p.Frame (p.setRunner r next) unit := by
  have hkeep : ∀ f : Runner → Option Nat, f x ≠ some unit →
      unit ∈ p.runners.filterMap f → unit ∈ (p.runners.set r next).filterMap f := by
    intro f hf hmem
    have hcount := count_filterMap_set f hget next unit
    have hzero : (f x).toList.count unit = 0 := by
      cases hfx : f x with
      | none => rfl
      | some v =>
          rw [hfx] at hf
          simpa [List.count_singleton] using fun h : v = unit => hf (congrArg some h)
    have hpos := List.count_pos_iff.mpr hmem
    exact List.count_pos_iff.mp (by omega)
  refine ⟨fun hwaiting => ?_, fun hprogress => ?_, fun _ hreports => hreports⟩
  · rcases List.mem_append.mp hwaiting with hqueue | hholding
    · exact List.mem_append_left _ hqueue
    · refine List.mem_append_right _ (hkeep _ ?_ hholding)
      cases x with
      | holding v => exact hother
      | idle | working | gone => exact nofun
  · refine hkeep _ ?_ hprogress
    cases x with
    | working v => exact hother
    | idle | holding | gone => exact nofun

theorem frame_report {r unit other : Nat} {x : Runner} (hget : p.runners[r]? = some x)
    (hunit : x.unit? = some unit) (hother : other ≠ unit) (o : Except Failure α) :
    p.Frame (p.report r unit o) other := by
  have hset : p.Frame (p.setRunner r .idle) other :=
    frame_setRunner hget (fun h => hother (Option.some.inj (h.symm.trans hunit))) .idle
  refine ⟨hset.waiting, hset.inProgress, fun o' hreports => ?_⟩
  exact hreports.imp (fun h => List.mem_append_left _ h) id

theorem reports_report (p : Pool α) (r unit : Nat) (o : Except Failure α) :
    (p.report r unit o).Reports unit o :=
  .inl (by simp [report])

/-- A unit that a runner takes is still waiting. -/
theorem frame_take (p : Pool α) (r unit : Nat) : p.Frame (p.take r) unit := by
  unfold take
  split
  · next first rest hrunner hqueue =>
    have hget := getElem?_runners_of_runner hrunner (by simp)
    have hset : p.Frame (p.setRunner r (.holding first)) unit :=
      frame_setRunner hget nofun (.holding first)
    refine ⟨fun hwaiting => ?_, hset.inProgress, hset.reports⟩
    by_cases hfirst : unit = first
    · subst hfirst
      refine List.mem_append_right _ (List.mem_filterMap.mpr ⟨.holding unit, ?_, rfl⟩)
      exact List.mem_of_getElem? (i := r) (by
        simp [setRunner, List.getElem?_set_self (List.getElem?_eq_some_iff.mp hget).1])
    · have hkept := hset.waiting hwaiting
      rcases List.mem_append.mp hkept with hin | hholding
      · rw [show (p.setRunner r (.holding first)).queue = p.queue from rfl, hqueue] at hin
        exact List.mem_append_left _ ((List.mem_cons.mp hin).resolve_left hfirst)
      · exact List.mem_append_right _ hholding
  · next hrunner _ =>
    exact frame_setRunner (getElem?_runners_of_runner hrunner (by simp)) nofun .gone
  · exact ⟨id, id, fun _ => id⟩

/-- A report that is received from the channel is still reported. -/
theorem frame_receive {n : Nat} (hkeeps : p.Keeps n []) (unit : Nat) :
    p.Frame p.receive unit := by
  unfold receive
  split
  · next v o rest hchannel =>
    have hempty := hkeeps.slot_of_channel hchannel
    have houtcome : ∀ other, (({ p with channel := rest } : Pool α).accept v o).outcome? other =
        if other = v then some o else p.outcome? other :=
      fun other => outcome?_accept (p := { p with channel := rest }) hempty other o
    refine ⟨fun hwaiting => ?_, fun hprogress => ?_, fun o' hreports => ?_⟩
    · simpa [waiting] using hwaiting
    · simpa [inProgress] using hprogress
    · rcases hreports with hin | hslot
      · rw [hchannel] at hin
        rcases List.mem_cons.mp hin with hhead | htail
        · obtain ⟨rfl, rfl⟩ := Prod.mk.inj hhead
          exact .inr ((houtcome unit).trans (if_pos rfl))
        · exact .inl (by simpa using htail)
      · have hne : unit ≠ v := by
          rintro rfl
          rw [outcome?, hempty] at hslot
          cases hslot
        exact .inr ((houtcome unit).trans ((if_neg hne).trans hslot))
  · exact ⟨id, id, fun _ => id⟩

theorem mem_waiting_start (o : Options) {n unit : Nat} (hunit : unit < n) :
    unit ∈ (start o n : Pool α).waiting := by
  unfold start waiting
  cases o.scheduling with
  | unbounded =>
      refine List.mem_append_right _ (List.mem_filterMap.mpr ⟨.holding unit, ?_, rfl⟩)
      exact List.mem_map.mpr ⟨unit, List.mem_range.mpr hunit, rfl⟩
  | bounded workers => exact List.mem_append_left _ (List.mem_range.mpr hunit)

end Pool
end FanOut
end SupplierGateway
