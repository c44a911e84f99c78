import SupplierGateway.Proofs.FanOut.Obedience

/-!
# Best-effort fan-outs

Without fail-fast no unit is cancelled.  The report of the fan-out is then the sequential one, for
any number of workers and any order in which the units end.

* `own_outcome` — every outcome that the coordinator keeps is the result of its unit;
* `toReport_of_finished` — the report at the end is the sequential one;
* `best_effort_in_sequence` — the fan-out finishes, and its report does not depend on the schedule.
-/

namespace SupplierGateway
namespace FanOut
namespace Pool

variable {α : Type} {attempts : List (Attempt α)}

/-- Without fail-fast every outcome that the coordinator keeps is the result of its unit. -/
theorem own_outcome {o : Options} {n : Nat} {events : List (Event α)} (hfast : o.failFast = false)
    (hobeys : ∀ e ∈ events, e.Obeys attempts) {unit : Nat} {r : Except Failure α}
    (hkept : ((start o n).run events).outcome? unit = some r) :
    ∃ a, attempts[unit]? = some a ∧ r = unitOutcome unit a := by
  cases source_of_outcome? hkept with
  | settled a hsettles => exact ⟨a, hsettles.attempt hobeys, rfl⟩
  | cancelled halarms =>
      -- There is no signal to see.
      obtain ⟨before, after, -, -, hraised, -⟩ := halarms
      rw [failFast_run, failFast_start, hfast] at hraised
      exact absurd hraised nofun

/-- The report of a finished fan-out is the sequential one, if every kept outcome is the result of
its unit. -/
theorem toReport_of_finished {o : Options} {events : List (Event α)}
    (hobeys : ∀ e ∈ events, e.Obeys attempts)
    (hfinished : ((start o attempts.length).run events).finished = true)
    (hown : ∀ unit r, ((start o attempts.length).run events).outcome? unit = some r →
      ∃ a, attempts[unit]? = some a ∧ r = unitOutcome unit a) :
    ((start o attempts.length).run events).toReport = Report.sequential attempts := by
  refine toReport_eq_sequential (length_slots_run o _ events) fun unit a hget => ?_
  have hunit : unit < attempts.length := (List.getElem?_eq_some_iff.mp hget).1
  obtain ⟨kept, hkept⟩ :=
    Option.isSome_iff_exists.mp (outcome?_isSome_run o hobeys hfinished hunit)
  obtain ⟨b, hb, rfl⟩ := hown unit kept hkept
  rw [hkept, Option.some.inj (hget.symm.trans hb)]

/-- Without fail-fast, for any results of the units and any number of runners:

* in every fair schedule the fan-out is finished at some moment;
* whenever it is finished, its report is the sequential one;
* in it the payload of a crash stands among the failures with the number of its unit;
* any two finished fan-outs over the same units have the same report. -/
theorem best_effort_in_sequence (scheduling : Scheduling) (attempts : List (Attempt α)) :
    let p : Pool α := start { scheduling } attempts.length
    (∀ schedule, Schedule.Fair step (Event.Obeys attempts) p schedule →
      ∃ k, (Schedule.after step p schedule k).finished = true ∧
        (Schedule.after step p schedule k).toReport = Report.sequential attempts) ∧
    (∀ events, (∀ e ∈ events, e.Obeys attempts) → (p.run events).finished = true →
      (p.run events).toReport = Report.sequential attempts) ∧
    (∀ unit x, attempts[unit]? = some (.ofThrown x) →
      (unit, .connection ("unit " ++ toString unit ++ " terminated abnormally: " ++ x.message)) ∈
        (Report.sequential attempts).errors) ∧
    (∀ scheduling' events events', (∀ e ∈ events ++ events', e.Obeys attempts) →
      (p.run events).finished = true →
      ((start { scheduling := scheduling' } attempts.length).run events').finished = true →
      (p.run events).toReport =
        ((start { scheduling := scheduling' } attempts.length).run events').toReport) := by
  intro p
  have hreport : ∀ (scheduling' : Scheduling) (events : List (Event α)),
      (∀ e ∈ events, e.Obeys attempts) →
      ((start { scheduling := scheduling' } attempts.length).run events).finished = true →
      ((start { scheduling := scheduling' } attempts.length).run events).toReport =
        Report.sequential attempts := by
    intro scheduling' events hobeys hfinished
    exact toReport_of_finished hobeys hfinished fun unit r hkept => own_outcome rfl hobeys hkept
  refine ⟨fun schedule hfair => ?_, hreport scheduling, fun unit x hget => ?_,
    fun scheduling' events events' hobeys hfinished hfinished' => ?_⟩
  · obtain ⟨k, hfinished⟩ := finishes_of_fair hfair
    exact ⟨k, hfinished, hreport scheduling _ (fun e he => hfair.admits_of_mem he) hfinished⟩
  · exact (Report.has_sequential (o := .error (crashFailure unit x.message))).mpr ⟨_, hget, rfl⟩
  · rw [hreport scheduling events (fun e he => hobeys e (List.mem_append_left _ he)) hfinished,
      hreport scheduling' events' (fun e he => hobeys e (List.mem_append_right _ he)) hfinished']

/-- Two runners and three units, in some fair schedule, and in one in which the units end from the
last to the first. -/
theorem three_units_in_sequence :
    let attempts : List (Attempt Nat) :=
      [.success 7, .failure (.supplier "sold out"), .ofThrown .other]
    let p : Pool Nat := start { scheduling := .bounded 2 } 3
    let events : List (Event Nat) :=
      [.take 0, .take 1, .begin 0, .begin 1, .settle 1 (.failure (.supplier "sold out")), .take 1,
        .begin 1, .settle 2 (.ofThrown .other), .receive, .settle 0 (.success 7), .take 0, .take 1,
        .receive, .receive]
    (∃ schedule k, Schedule.Fair step (Event.Obeys attempts) p schedule ∧
      (Schedule.after step p schedule k).toReport = Report.sequential attempts) ∧
    (p.run events).toReport =
      { successes := [(0, 7)]
        errors :=
          [(1, .supplier "sold out"),
            (2, .connection "unit 2 terminated abnormally: non-string panic payload")] } := by
  intro attempts p events
  obtain ⟨hfinishes, hreport, -⟩ := best_effort_in_sequence (.bounded 2) attempts
  obtain ⟨schedule, hfair⟩ := exists_fair p attempts
  obtain ⟨k, -, hk⟩ := hfinishes schedule hfair
  exact ⟨⟨schedule, k, hfair, hk⟩, (hreport events (by decide) (by decide)).trans (by decide)⟩

end Pool
end FanOut
end SupplierGateway
