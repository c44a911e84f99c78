import SupplierGateway.Proofs.FanOut.BestEffort

/-!
# Fail-fast fan-outs

With fail-fast the coordinator raises a signal when it receives a fatal failure, and runners that
see the signal report their units as cancelled.  These reports are fatal failures too, which the
coordinator receives.  This file shows that the first fatal failure that the coordinator receives is
nevertheless the result of the work on a unit.

* `FatalReceived` — the coordinator has received a fatal failure that is the result of a unit;
* `exists_fatalReceived` — there is one if the signal is up;
* `GivenUp` — a unit was still with its runner when such a failure of another unit was received;
* `inProgress_run` — after the signal no unit is begun;
* `CutShort` — the properties of the report of a finished fail-fast fan-out;
* `fail_fast_sound` — the fan-out finishes, and its report has these properties.

A runner looks at the signal and begins its unit in one turn.  The coordinator receives a report and
raises the signal in another one.
-/

namespace SupplierGateway
namespace FanOut
namespace Pool

variable {α : Type} {p : Pool α} {attempts : List (Attempt α)} {events : List (Event α)}

/-! ## Signal and outcomes persist -/

/-- A signal that is up stays up. -/
theorem cancelled_step (hsignal : p.cancelled = true) (e : Event α) :
    (p.step e).cancelled = true := by
  have hmoved := p.moved_step e
  generalize p.step e = p' at hmoved ⊢
  cases hmoved with
  | same | taken | left | begun | reported | vanished => exact hsignal
  | received unit o rest hchannel =>
      unfold accept
      split
      · exact Bool.or_eq_true_iff.mpr (.inl hsignal)
      · exact hsignal

theorem cancelled_run (hsignal : p.cancelled = true) (events : List (Event α)) :
    (p.run events).cancelled = true := by
  induction events generalizing p with
  | nil => exact hsignal
  | cons e events ih => exact ih (cancelled_step hsignal e)

/-- An outcome that the coordinator keeps does not change. -/
theorem outcome?_step_of_some {unit : Nat} {o : Except Failure α}
    (hkept : p.outcome? unit = some o) (e : Event α) : (p.step e).outcome? unit = some o := by
  have hmoved := p.moved_step e
  generalize p.step e = p' at hmoved ⊢
  cases hmoved with
  | same | taken | left | begun | reported | vanished => exact hkept
  | received v o' rest hchannel =>
      by_cases hempty : p.slots[v]? = some none
      · rw [outcome?_accept (p := { p with channel := rest }) hempty]
        split
        · next hunit =>
          rw [hunit, outcome?, hempty] at hkept
          cases hkept
        · exact hkept
      · rw [accept_of_ne (p := { p with channel := rest }) hempty]
        exact hkept

theorem outcome?_run_of_some {unit : Nat} {o : Except Failure α}
    (hkept : p.outcome? unit = some o) (events : List (Event α)) :
    (p.run events).outcome? unit = some o := by
  induction events generalizing p with
  | nil => exact hkept
  | cons e events ih => exact ih (outcome?_step_of_some hkept e)

/-! ## The cause of the signal -/

/-- The signal is raised when a fatal failure is received. -/
theorem raised_by (hdown : p.cancelled = false) {e : Event α}
    (hsignal : (p.step e).cancelled = true) :
    ∃ unit f, (unit, .error f) ∈ p.channel ∧ f.fatal = true ∧
      (p.step e).outcome? unit = some (.error f) := by
  have hmoved := p.moved_step e
  generalize p.step e = p' at hmoved hsignal ⊢
  cases hmoved with
  | same | taken | left | begun | reported | vanished =>
      exact absurd (hdown.symm.trans hsignal) nofun
  | received unit o rest hchannel =>
      by_cases hempty : p.slots[unit]? = some none
      · rw [cancelled_accept (p := { p with channel := rest }) hempty, hdown, Bool.false_or,
          Bool.and_eq_true] at hsignal
        cases o with
        | ok a => exact absurd hsignal.2 nofun
        | error f =>
            refine ⟨unit, f, hchannel ▸ List.mem_cons_self, hsignal.2, ?_⟩
            rw [outcome?_accept (p := { p with channel := rest }) hempty, if_pos rfl]
      · rw [accept_of_ne (p := { p with channel := rest }) hempty] at hsignal
        exact absurd (hdown.symm.trans hsignal) nofun

/-- The coordinator has received a fatal failure that is the result of the work on a unit. -/
structure FatalReceived (p : Pool α) (events : List (Event α)) (unit : Nat) (f : Failure) :
    Prop where
  fatal : f.fatal = true
  own : ∃ a, p.Settles events unit a ∧ unitOutcome unit a = .error f
  received : (p.run events).outcome? unit = some (.error f)

theorem Settles.append {unit : Nat} {a : Attempt α} (hsettles : p.Settles events unit a)
    (more : List (Event α)) : p.Settles (events ++ more) unit a := by
  obtain ⟨before, after, rfl, hworking⟩ := hsettles
  exact ⟨before, after ++ more, by simp, hworking⟩

theorem FatalReceived.append {unit : Nat} {f : Failure} (hfatal : p.FatalReceived events unit f)
    (more : List (Event α)) : p.FatalReceived (events ++ more) unit f := by
  obtain ⟨a, hsettles, ha⟩ := hfatal.own
  refine ⟨hfatal.fatal, ⟨a, hsettles.append more, ha⟩, ?_⟩
  rw [run_append]
  exact outcome?_run_of_some hfatal.received more

/-- When the signal is up, the coordinator has received a fatal failure that is the result of the
work on a unit. -/
theorem exists_fatalReceived {o : Options} {n : Nat}
    (hsignal : ((start o n).run events).cancelled = true) :
    ∃ unit f, (start o n).FatalReceived events unit f := by
  induction events using List.reverseRecOn with
  | nil =>
      have hdown : (start o n : Pool α).cancelled = false := by
        unfold start
        cases o.scheduling <;> rfl
      exact absurd (hdown.symm.trans hsignal) nofun
  | append_singleton events e ih =>
      -- Either the signal was up before the last event, or this event raised it.
      cases hbefore : ((start o n).run events).cancelled with
      | true =>
          obtain ⟨unit, f, hfatal⟩ := ih hbefore
          exact ⟨unit, f, hfatal.append [e]⟩
      | false =>
          rw [run_concat] at hsignal
          obtain ⟨unit, f, hmem, hfatal, hkept⟩ := raised_by hbefore hsignal
          refine ⟨unit, f, hfatal, ?_, by rwa [run_concat]⟩
          generalize (Except.error f : Except Failure α) = r at hmem ⊢
          cases (source_of_report o n events).1 unit r hmem with
          | settled a hsettles => exact ⟨a, hsettles.append [e], rfl⟩
          | cancelled halarms =>
              -- To be cancelled before the signal, a unit would have had to see it even earlier.
              obtain ⟨before, after, rfl, -, -, hearlier⟩ := halarms
              rw [run_append, cancelled_run hearlier after] at hbefore
              exact absurd hbefore nofun

/-- A unit was still with its runner when a fatal failure that is the result of another unit had
been received. -/
def GivenUp (p : Pool α) (events : List (Event α)) (unit : Nat) : Prop :=
  ∃ before after, events = before ++ after ∧ unit ∈ (p.run before).held ∧
    ∃ other f, other ≠ unit ∧ p.FatalReceived before other f

/-- A unit that is with a runner has not been received. -/
theorem Keeps.outcome?_of_held {n : Nat} (hkeeps : p.Keeps n []) {unit : Nat}
    (hheld : unit ∈ p.held) : p.outcome? unit = none := by
  have hcount := List.count_pos_iff.mpr hheld
  obtain ⟨-, hplaces⟩ := hkeeps.places_le (show 0 < p.places unit by unfold places; omega)
  have hreceived := count_received p unit
  unfold places at hplaces
  split at hreceived
  · omega
  · next hnone => simpa using hnone

/-- A runner sees the signal only after the fatal failure of another unit was received. -/
theorem Alarms.givenUp {o : Options} {n unit : Nat} (halarms : (start o n).Alarms events unit)
    (hobeys : ∀ e ∈ events, e.Obeys attempts) : (start o n).GivenUp events unit := by
  obtain ⟨before, after, rfl, hheld, -, hsignal⟩ := halarms
  obtain ⟨other, f, hfatal⟩ := exists_fatalReceived hsignal
  refine ⟨before, after, rfl, hheld, other, f, ?_, hfatal⟩
  rintro rfl
  have hkeeps := keeps_run o n fun e he => hobeys e (List.mem_append_left after he)
  have hreceived := hfatal.received
  rw [hkeeps.outcome?_of_held hheld] at hreceived
  exact absurd hreceived nofun

/-! ## After the signal -/

theorem mem_inProgress_setRunner {r unit : Nat} {next : Runner}
    (hmem : unit ∈ (p.setRunner r next).inProgress) :
    unit ∈ p.inProgress ∨ next = .working unit := by
  obtain ⟨x, hx, hworking⟩ := List.mem_filterMap.mp hmem
  rcases List.mem_or_eq_of_mem_set hx with hbefore | rfl
  · exact .inl (List.mem_filterMap.mpr ⟨x, hbefore, hworking⟩)
  · cases x with
    | working v => exact .inr (congrArg Runner.working (Option.some.inj hworking))
    | idle | holding | gone => exact absurd hworking nofun

/-- While the signal is up, no event begins a unit. -/
theorem inProgress_step (hsignal : (p.failFast && p.cancelled) = true) {e : Event α} {unit : Nat}
    (hmem : unit ∈ (p.step e).inProgress) : unit ∈ p.inProgress := by
  have hmoved := p.moved_step e
  generalize p.step e = p' at hmoved hmem
  cases hmoved with
  | same => exact hmem
  | taken r v rest hget hqueue => exact (mem_inProgress_setRunner hmem).resolve_right nofun
  | left r hget hqueue => exact (mem_inProgress_setRunner hmem).resolve_right nofun
  | begun r v hget hdown => exact absurd (hdown.symm.trans hsignal) nofun
  | reported _ r v x o hget hunit hcause =>
      exact (mem_inProgress_setRunner hmem).resolve_right nofun
  | received v o rest hchannel => simpa [inProgress] using hmem
  | vanished r x hget => exact (mem_inProgress_setRunner hmem).resolve_right nofun

/-- Once the signal is up, no unit is ever begun. -/
theorem inProgress_run (hfast : p.failFast = true) (hsignal : p.cancelled = true)
    {events : List (Event α)} {unit : Nat} (hmem : unit ∈ (p.run events).inProgress) :
    unit ∈ p.inProgress := by
  induction events generalizing p with
  | nil => exact hmem
  | cons e events ih =>
      have hstep : unit ∈ (p.step e).inProgress :=
        ih ((p.failFast_step e).trans hfast) (cancelled_step hsignal e) hmem
      exact inProgress_step (by rw [hfast, hsignal]; rfl) hstep

/-! ## The report at the end -/

/-- The properties of the report of a finished fail-fast fan-out. -/
structure CutShort (attempts : List (Attempt α)) (p : Pool α) (events : List (Event α)) :
    Prop where
  /-- Every unit is reported. -/
  complete : ∀ unit < attempts.length, ∃ o, (p.run events).toReport.Has unit o
  /-- A unit is reported as it came out, or as cancelled if it was given up. -/
  own_or_given_up : ∀ unit o, (p.run events).toReport.Has unit o →
    (∃ a, attempts[unit]? = some a ∧ o = unitOutcome unit a) ∨
      (o = .error cancelledFailure ∧ p.GivenUp events unit)
  /-- If a unit was given up, a fatal failure that is the result of another unit is reported too. -/
  to_blame : ∀ unit, p.GivenUp events unit → ∃ other a f, other ≠ unit ∧
    attempts[other]? = some a ∧ unitOutcome other a = .error f ∧ f.fatal = true ∧
      (p.run events).toReport.Has other (.error f)
  /-- If a unit is reported as cancelled, a fatal failure that is the result of a unit is reported
  too. -/
  genuine : ∀ unit, (p.run events).toReport.Has unit (.error cancelledFailure) →
    ∃ other a f, attempts[other]? = some a ∧ unitOutcome other a = .error f ∧ f.fatal = true ∧
      (p.run events).toReport.Has other (.error f)
  /-- If no unit has a fatal failure, the report is the one of a best-effort fan-out, which is the
  sequential one. -/
  harmless : (∀ unit a, attempts[unit]? = some a → isFatal (unitOutcome unit a) = false) →
    (p.run events).toReport = Report.sequential attempts ∧
      ∀ scheduling events', (∀ e ∈ events', e.Obeys attempts) →
        ((start { scheduling } attempts.length).run events').finished = true →
        (p.run events).toReport = ((start { scheduling } attempts.length).run events').toReport

/-- An outcome that the coordinator keeps is the result of its unit, or the unit was given up. -/
theorem own_or_given_up {o : Options} {n : Nat} (hobeys : ∀ e ∈ events, e.Obeys attempts)
    {unit : Nat} {r : Except Failure α}
    (hkept : ((start o n).run events).outcome? unit = some r) :
    (∃ a, attempts[unit]? = some a ∧ r = unitOutcome unit a) ∨
      (r = .error cancelledFailure ∧ (start o n).GivenUp events unit) := by
  cases source_of_outcome? hkept with
  | settled a hsettles => exact .inl ⟨a, hsettles.attempt hobeys, rfl⟩
  | cancelled halarms => exact .inr ⟨rfl, halarms.givenUp hobeys⟩

/-- A unit is given up only after a fatal failure that is the result of another unit, and that the
coordinator keeps. -/
theorem GivenUp.to_blame {unit : Nat} (hgiven : p.GivenUp events unit)
    (hobeys : ∀ e ∈ events, e.Obeys attempts) :
    ∃ other a f, other ≠ unit ∧ attempts[other]? = some a ∧ unitOutcome other a = .error f ∧
      f.fatal = true ∧ (p.run events).outcome? other = some (.error f) := by
  obtain ⟨before, after, rfl, -, other, f, hother, hbefore⟩ := hgiven
  have hfatal := hbefore.append after
  obtain ⟨a, hsettles, ha⟩ := hfatal.own
  exact ⟨other, a, f, hother, hsettles.attempt hobeys, ha, hfatal.fatal, hfatal.received⟩

theorem cutShort_of_finished (o : Options) (hobeys : ∀ e ∈ events, e.Obeys attempts)
    (hfinished : ((start o attempts.length).run events).finished = true) :
    CutShort attempts (start o attempts.length) events := by
  have hlength := length_slots_run o attempts.length events
  have hkept : ∀ unit < ((start o attempts.length).run events).slots.length,
      (((start o attempts.length).run events).outcome? unit).isSome :=
    fun unit hunit => outcome?_isSome_run o hobeys hfinished (hlength ▸ hunit)
  have hblame : ∀ unit, (start o attempts.length).GivenUp events unit → ∃ other a f,
      other ≠ unit ∧ attempts[other]? = some a ∧ unitOutcome other a = .error f ∧
        f.fatal = true ∧
        ((start o attempts.length).run events).toReport.Has other (.error f) := by
    intro unit hgiven
    obtain ⟨other, a, f, hother, hget, ha, hfatal, hreceived⟩ := hgiven.to_blame hobeys
    exact ⟨other, a, f, hother, hget, ha, hfatal, (has_toReport hkept).mpr hreceived⟩
  refine
    { complete := ?complete
      own_or_given_up := fun unit r hhas =>
        own_or_given_up hobeys ((has_toReport hkept).mp hhas)
      to_blame := hblame
      genuine := ?genuine
      harmless := ?harmless }
  case complete =>
    intro unit hunit
    obtain ⟨r, hr⟩ := Option.isSome_iff_exists.mp (hkept unit (hlength.symm ▸ hunit))
    exact ⟨r, (has_toReport hkept).mpr hr⟩
  case genuine =>
    intro unit hhas
    rcases own_or_given_up hobeys ((has_toReport hkept).mp hhas) with ⟨a, hget, ha⟩ | ⟨-, hgiven⟩
    · -- The unit came to this failure itself.
      exact ⟨unit, a, _, hget, ha.symm, rfl, hhas⟩
    · obtain ⟨other, a, f, -, hother⟩ := hblame unit hgiven
      exact ⟨other, a, f, hother⟩
  case harmless =>
    intro hharmless
    have hsequential :
        ((start o attempts.length).run events).toReport = Report.sequential attempts := by
      refine toReport_of_finished hobeys hfinished fun unit r hr => ?_
      -- No unit has a fatal failure, so that no unit was given up.
      refine (own_or_given_up hobeys hr).resolve_right fun ⟨_, hgiven⟩ => ?_
      obtain ⟨other, a, f, -, hget, ha, hfatal, -⟩ := hgiven.to_blame hobeys
      have hnot := hharmless other a hget
      rw [ha] at hnot
      exact absurd (hnot.symm.trans hfatal) nofun
    refine ⟨hsequential, fun scheduling events' hobeys' hfinished' => ?_⟩
    rw [hsequential]
    exact (toReport_of_finished hobeys' hfinished' fun unit r hr =>
      own_outcome rfl hobeys' hr).symm

/-- With fail-fast, for any results of the units and any number of runners:

* in every fair schedule the fan-out is finished at some moment;
* once the signal is up, no unit is begun that was not in progress;
* whenever the fan-out is finished, its report has for every unit the result or that it was given
  up, in the latter case also a fatal failure that is the result of another unit, and it is the
  report of a best-effort fan-out if no unit has a fatal failure. -/
theorem fail_fast_sound (scheduling : Scheduling) (attempts : List (Attempt α)) :
    let p : Pool α := start { scheduling, failFast := true } attempts.length
    (∀ schedule, Schedule.Fair step (Event.Obeys attempts) p schedule →
      ∃ k, (Schedule.after step p schedule k).finished = true) ∧
    (∀ before after unit, (p.run before).cancelled = true →
      unit ∈ (p.run (before ++ after)).inProgress → unit ∈ (p.run before).inProgress) ∧
    (∀ events, (∀ e ∈ events, e.Obeys attempts) → (p.run events).finished = true →
      CutShort attempts p events) := by
  intro p
  refine ⟨fun schedule hfair => finishes_of_fair hfair,
    fun before after unit hsignal hmem => ?_,
    fun events hobeys hfinished => cutShort_of_finished _ hobeys hfinished⟩
  have hfast : (p.run before).failFast = true := by
    rw [failFast_run]
    exact failFast_start _ _
  rw [run_append] at hmem
  exact inProgress_run hfast hsignal hmem

/-- The first of three units exceeds its time limit, in some fair schedule, and in one in which the
second unit is in progress at that moment and the third one waits. -/
theorem two_units_given_up :
    let attempts : List (Attempt Nat) :=
      [.failure (.timeout "no answer"), .success 5, .success 9]
    let p : Pool Nat := start { scheduling := .bounded 2, failFast := true } 3
    let events : List (Event Nat) :=
      [.take 0, .take 1, .begin 1, .begin 0, .settle 0 (.failure (.timeout "no answer")), .receive,
        .take 0, .begin 0, .giveUp 1, .take 1, .take 0, .receive, .receive]
    (∃ schedule k, Schedule.Fair step (Event.Obeys attempts) p schedule ∧
      (Schedule.after step p schedule k).finished = true) ∧
    CutShort attempts p events ∧
    (p.run events).toReport =
      { errors :=
          [(0, .timeout "no answer"), (1, .connection "cancelled after a sibling unit failed"),
            (2, .connection "cancelled after a sibling unit failed")] } := by
  intro attempts p events
  obtain ⟨hfinishes, -, hreport⟩ := fail_fast_sound (.bounded 2) attempts
  obtain ⟨schedule, hfair⟩ := exists_fair p attempts
  obtain ⟨k, hk⟩ := hfinishes schedule hfair
  exact ⟨⟨schedule, k, hfair, hk⟩, hreport events (by decide) (by decide), by decide⟩

end Pool
end FanOut
end SupplierGateway
