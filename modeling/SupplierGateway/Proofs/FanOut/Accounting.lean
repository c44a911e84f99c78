import SupplierGateway.Proofs.FanOut.Conservation

/-!
# The entries of a report

Every entry of a report has its source in the events of the run.

* `Source` — where the outcome of a unit comes from: the work on the unit came to an end while a
  runner was working on it, or its runner saw the signal;
* `source_of_outcome?` — every outcome that the coordinator keeps has a source;
* `report_accounts_for_all` — a report has one entry for each unit, in ascending order, and its
  values are the results of the work on their own units.

A report can be made at any moment, in particular when the pool is finished.
-/

namespace SupplierGateway
namespace FanOut
namespace Pool

variable {α : Type} {p : Pool α}

/-- In the course of events, the work on a unit ended with an attempt while a runner was working on
it. -/
def Settles (p : Pool α) (events : List (Event α)) (unit : Nat) (a : Attempt α) : Prop :=
  ∃ before after, events = before ++ .settle unit a :: after ∧
    unit ∈ (p.run before).inProgress

/-- In the course of events, the signal was up while a runner had a unit. -/
def Alarms (p : Pool α) (events : List (Event α)) (unit : Nat) : Prop :=
  ∃ before after, events = before ++ after ∧ unit ∈ (p.run before).held ∧
    (p.run before).failFast = true ∧ (p.run before).cancelled = true

/-- Where the outcome of a unit comes from. -/
inductive Source (p : Pool α) (events : List (Event α)) (unit : Nat) : Except Failure α → Prop
  | settled (a : Attempt α) (hsettles : p.Settles events unit a) :
      Source p events unit (unitOutcome unit a)
  | cancelled (halarms : p.Alarms events unit) : Source p events unit (.error cancelledFailure)

theorem Source.append {events : List (Event α)} {unit : Nat} {o : Except Failure α}
    (hsource : p.Source events unit o) (more : List (Event α)) :
    p.Source (events ++ more) unit o := by
  cases hsource with
  | settled a hsettles =>
      obtain ⟨before, after, rfl, hworking⟩ := hsettles
      exact .settled a ⟨before, after ++ more, by simp, hworking⟩
  | cancelled halarms =>
      obtain ⟨before, after, rfl, halarm⟩ := halarms
      exact .cancelled ⟨before, after ++ more, by simp, halarm⟩

/-- A report that an event adds to the channel has a cause, and its unit was with a runner. -/
theorem mem_channel_step {e : Event α} {unit : Nat} {o : Except Failure α}
    (hmem : (unit, o) ∈ (p.step e).channel) :
    (unit, o) ∈ p.channel ∨ unit ∈ p.held ∧ p.Cause unit e o := by
  have hmoved := p.moved_step e
  generalize p.step e = p' at hmoved hmem
  cases hmoved with
  | same | taken | left | begun | vanished => exact .inl hmem
  | reported _ r v x o' hget hunit hcause =>
      rcases List.mem_append.mp hmem with hbefore | hnew
      · exact .inl hbefore
      · obtain ⟨rfl, rfl⟩ := Prod.mk.inj (List.mem_singleton.mp hnew)
        exact .inr ⟨mem_held hget hunit, hcause⟩
  | received v o' rest hchannel =>
      left
      rw [hchannel]
      exact List.mem_cons_of_mem _ (by simpa using hmem)

/-- An outcome that the coordinator keeps after an event was kept before or is received by the
event. -/
theorem outcome?_step {e : Event α} {unit : Nat} {o : Except Failure α}
    (hkept : (p.step e).outcome? unit = some o) :
    p.outcome? unit = some o ∨ (unit, o) ∈ p.channel := by
  have hmoved := p.moved_step e
  generalize p.step e = p' at hmoved hkept
  cases hmoved with
  | same | taken | left | begun | reported | vanished => exact .inl hkept
  | received v o' rest hchannel =>
      by_cases hempty : p.slots[v]? = some none
      · rw [outcome?_accept (p := { p with channel := rest }) hempty] at hkept
        split at hkept
        · next hunit =>
          right
          rw [hchannel, hunit, ← Option.some.inj hkept]
          exact List.mem_cons_self
        · exact .inl hkept
      · -- The unit was reported before, and the first report counts.
        left
        rw [accept_of_ne (p := { p with channel := rest }) hempty] at hkept
        exact hkept

/-- Every report has a source, whether it is still in the channel or has been received. -/
theorem source_of_report (o : Options) (n : Nat) (events : List (Event α)) :
    (∀ unit r, (unit, r) ∈ ((start o n).run events).channel →
      (start o n).Source events unit r) ∧
    (∀ unit r, ((start o n).run events).outcome? unit = some r →
      (start o n).Source events unit r) := by
  induction events using List.reverseRecOn with
  | nil =>
      refine ⟨fun unit r hmem => ?_, fun unit r hkept => ?_⟩
      · rw [run, List.foldl_nil, channel_start] at hmem
        exact absurd hmem List.not_mem_nil
      · rw [run, List.foldl_nil, outcome?_start] at hkept
        exact absurd hkept nofun
  | append_singleton events e ih =>
      obtain ⟨hchannel, houtcome⟩ := ih
      rw [run_concat]
      refine ⟨fun unit r hmem => ?_, fun unit r hkept => ?_⟩
      · rcases mem_channel_step hmem with hbefore | ⟨hheld, hcause⟩
        · exact (hchannel unit r hbefore).append [e]
        · cases hcause with
          | settled a hworking => exact .settled a ⟨events, [], rfl, hworking⟩
          | cancelled _ hsignal =>
              rw [Bool.and_eq_true] at hsignal
              exact .cancelled ⟨events, [e], rfl, hheld, hsignal.1, hsignal.2⟩
      · rcases outcome?_step hkept with hbefore | hreceived
        · exact (houtcome unit r hbefore).append [e]
        · exact (hchannel unit r hreceived).append [e]

theorem source_of_outcome? {o : Options} {n : Nat} {events : List (Event α)} {unit : Nat}
    {r : Except Failure α} (hkept : ((start o n).run events).outcome? unit = some r) :
    (start o n).Source events unit r :=
  (source_of_report o n events).2 unit r hkept

end Pool

/-! ## Reports -/

section Entries

variable {α : Type}

theorem Report.ofOutcomes_perm (outcomes : List (Except Failure α × Nat)) :
    ((Report.ofOutcomes outcomes).successes.map Prod.fst ++
      (Report.ofOutcomes outcomes).errors.map Prod.fst).Perm (outcomes.map Prod.snd) := by
  induction outcomes with
  | nil => exact .refl _
  | cons entry rest ih =>
      obtain ⟨o, unit⟩ := entry
      cases o with
      | ok a => exact ih.cons unit
      | error f => exact List.perm_middle.trans (ih.cons unit)

theorem Report.successes_sublist (outcomes : List (Except Failure α × Nat)) :
    ((Report.ofOutcomes outcomes).successes.map Prod.fst).Sublist (outcomes.map Prod.snd) := by
  induction outcomes with
  | nil => exact .slnil
  | cons entry rest ih =>
      obtain ⟨o, unit⟩ := entry
      cases o with
      | ok a => exact ih.cons_cons unit
      | error f => exact ih.cons unit

theorem Report.errors_sublist (outcomes : List (Except Failure α × Nat)) :
    ((Report.ofOutcomes outcomes).errors.map Prod.fst).Sublist (outcomes.map Prod.snd) := by
  induction outcomes with
  | nil => exact .slnil
  | cons entry rest ih =>
      obtain ⟨o, unit⟩ := entry
      cases o with
      | ok a => exact ih.cons unit
      | error f => exact ih.cons_cons unit

theorem Report.mem_successes {outcomes : List (Except Failure α × Nat)} {unit : Nat} {a : α} :
    (unit, a) ∈ (Report.ofOutcomes outcomes).successes ↔ (.ok a, unit) ∈ outcomes := by
  simp only [Report.ofOutcomes, List.mem_filterMap]
  constructor
  · rintro ⟨⟨o, v⟩, hmem, heq⟩
    cases o with
    | ok b =>
        obtain ⟨rfl, rfl⟩ := Prod.mk.inj (Option.some.inj heq)
        exact hmem
    | error f => exact absurd heq nofun
  · exact fun hmem => ⟨_, hmem, rfl⟩

theorem Report.mem_errors {outcomes : List (Except Failure α × Nat)} {unit : Nat} {f : Failure} :
    (unit, f) ∈ (Report.ofOutcomes outcomes).errors ↔ (.error f, unit) ∈ outcomes := by
  simp only [Report.ofOutcomes, List.mem_filterMap]
  constructor
  · rintro ⟨⟨o, v⟩, hmem, heq⟩
    cases o with
    | ok b => exact absurd heq nofun
    | error g =>
        obtain ⟨rfl, rfl⟩ := Prod.mk.inj (Option.some.inj heq)
        exact hmem
  · exact fun hmem => ⟨_, hmem, rfl⟩

end Entries

namespace Pool

variable {α : Type}

/-- The outcomes from which the report of a pool is made, by unit. -/
def outcomes (p : Pool α) : List (Except Failure α × Nat) :=
  p.slots.zipIdx.map fun (slot, unit) => (slot.getD (.error (lostFailure unit)), unit)

theorem toReport_eq (p : Pool α) : p.toReport = Report.ofOutcomes p.outcomes := rfl

theorem outcomes_map_snd (p : Pool α) :
    p.outcomes.map Prod.snd = List.range p.slots.length := by
  rw [outcomes, List.map_map]
  change p.slots.zipIdx.map Prod.snd = _
  simp [List.range_eq_range']

/-- The outcome of a unit is the one that was received, or that it is lost. -/
theorem mem_outcomes {p : Pool α} {o : Except Failure α} {unit : Nat} :
    (o, unit) ∈ p.outcomes ↔ unit < p.slots.length ∧
      o = (p.outcome? unit).getD (.error (lostFailure unit)) := by
  simp only [outcomes, List.mem_map, outcome?]
  constructor
  · rintro ⟨⟨slot, v⟩, hmem, heq⟩
    obtain ⟨ho, rfl⟩ := Prod.mk.inj heq
    have hget : p.slots[v]? = some slot := List.mem_zipIdx_iff_getElem?.mp hmem
    refine ⟨(List.getElem?_eq_some_iff.mp hget).1, ?_⟩
    rw [hget]
    exact ho.symm
  · rintro ⟨hunit, rfl⟩
    refine ⟨(p.slots[unit], unit), List.mem_zipIdx_iff_getElem?.mpr (by simp [hunit]), ?_⟩
    simp [List.getElem?_eq_getElem hunit]

/-- After any events in a fan-out of `n` units, the report has one entry for each of them, in
ascending order among the values and among the failures.  A value is the result of the work on
its own unit while a runner was working on it.  A failure is the result of the work on its own
unit, or the one of a unit cancelled after the signal, or the one of a unit for which no report
was received. -/
theorem report_accounts_for_all (o : Options) (n : Nat) (events : List (Event α)) :
    let p := (start o n).run events
    let r := p.toReport
    (r.successes.map Prod.fst ++ r.errors.map Prod.fst).Perm (List.range n) ∧
      (r.successes.map Prod.fst).Pairwise (· < ·) ∧
      (r.errors.map Prod.fst).Pairwise (· < ·) ∧
      (∀ unit a, (unit, a) ∈ r.successes → (start o n).Settles events unit (.success a)) ∧
      (∀ unit f, (unit, f) ∈ r.errors →
        (start o n).Source events unit (.error f) ∨
          (p.outcome? unit = none ∧ f = lostFailure unit)) := by
  intro p r
  have hlength : p.slots.length = n := length_slots_run o n events
  have hunits : p.outcomes.map Prod.snd = List.range n := hlength ▸ outcomes_map_snd p
  have hperm := Report.ofOutcomes_perm p.outcomes
  have hsuccesses := Report.successes_sublist p.outcomes
  have herrors := Report.errors_sublist p.outcomes
  rw [hunits] at hperm hsuccesses herrors
  refine ⟨hperm, List.pairwise_lt_range.sublist hsuccesses,
    List.pairwise_lt_range.sublist herrors, fun unit a hmem => ?_, fun unit f hmem => ?_⟩
  · obtain ⟨_, heq⟩ := mem_outcomes.mp (Report.mem_successes.mp hmem)
    cases hkept : p.outcome? unit with
    | none =>
        rw [hkept] at heq
        exact absurd heq nofun
    | some kept =>
        rw [hkept] at heq
        have hsource := source_of_outcome? hkept
        rw [← show Except.ok a = kept from heq] at hsource
        -- Of the attempts only a success is reported as a value.
        generalize hvalue : (Except.ok a : Except Failure α) = value at hsource
        cases hsource with
        | settled b hsettles =>
            cases b with
            | success c =>
                obtain rfl : a = c := Except.ok.inj hvalue
                exact hsettles
            | failure g => exact absurd hvalue nofun
            | crash text => exact absurd hvalue nofun
        | cancelled _ => exact absurd hvalue nofun
  · obtain ⟨_, heq⟩ := mem_outcomes.mp (Report.mem_errors.mp hmem)
    cases hkept : p.outcome? unit with
    | none =>
        rw [hkept] at heq
        exact .inr ⟨rfl, Except.error.inj heq⟩
    | some kept =>
        rw [hkept] at heq
        rw [show Except.error f = kept from heq]
        exact .inl (source_of_outcome? hkept)

/-- A unit whose runner vanished is reported as lost, and the other one with its own result. -/
example :
    ((start {} 2).run [.begin 1, .settle 1 (.success true), .vanish 0, .receive]).toReport =
      { successes := [(1, true)], errors := [(0, lostFailure 0)] } := by
  decide

end Pool
end FanOut
end SupplierGateway
