import SupplierGateway.Schedule.Agenda

/-!
# States that are run by the same agenda

An agenda holds only events that were planned.  Two states that are related stay related in a run,
if the planned events keep them related and plan the same events.

* `Agenda.Only` — an agenda holds events of one kind only, and plans for such events keep it so;
* `run_rel` — two runs of one agenda, side by side.
-/

namespace SupplierGateway
namespace Schedule

universe u

variable {ε : Type} {P : ε → Prop}

/-- The event that is planned. -/
def Plan.event : Plan ε → ε
  | next e | soon e | later _ e => e

namespace Agenda

/-- All events of an agenda satisfy a predicate. -/
structure Only (P : ε → Prop) (a : Agenda ε) : Prop where
  ready : ∀ e ∈ a.ready, P e
  timers : ∀ timer ∈ a.timers, P timer.2

theorem mem_insertTimer {due : Nat} {e : ε} {timers : List (Nat × ε)} {timer : Nat × ε}
    (htimer : timer ∈ insertTimer due e timers) : timer = (due, e) ∨ timer ∈ timers := by
  induction timers with
  | nil => exact .inl (List.mem_singleton.mp htimer)
  | cons first rest ih =>
      unfold insertTimer at htimer
      split at htimer
      · exact List.mem_cons.mp htimer
      · rcases List.mem_cons.mp htimer with rfl | hrest
        · exact .inr List.mem_cons_self
        · exact (ih hrest).imp_right (List.mem_cons_of_mem first)

/-- Adding plans whose events satisfy the predicate keeps the property. -/
theorem Only.add {a : Agenda ε} (honly : a.Only P) {plans : List (Plan ε)}
    (hplans : ∀ plan ∈ plans, P plan.event) : (a.add plans).Only P where
  ready e he := by
    simp only [Agenda.add, urgent, patient, List.mem_append, List.mem_filterMap] at he
    rcases he with (⟨plan, hplan, he⟩ | he) | ⟨plan, hplan, he⟩
    · cases plan with
      | next f => exact Option.some.inj he ▸ hplans _ hplan
      | soon f => exact nomatch he
      | later ms f => exact nomatch he
    · exact honly.ready e he
    · cases plan with
      | next f => exact nomatch he
      | soon f => exact Option.some.inj he ▸ hplans _ hplan
      | later ms f => exact nomatch he
  timers := by
    simp only [Agenda.add]
    have htimers := honly.timers
    generalize a.timers = timers at htimers
    induction plans generalizing timers with
    | nil => exact htimers
    | cons plan plans ih =>
        refine ih (fun other hother => hplans other (List.mem_cons_of_mem plan hother)) _ ?_
        cases plan with
        | next f => exact htimers
        | soon f => exact htimers
        | later ms f =>
            intro timer htimer
            rcases mem_insertTimer htimer with rfl | hold
            · exact hplans _ List.mem_cons_self
            · exact htimers timer hold

/-- The event taken from an agenda satisfies the predicate, and so do those that are left. -/
theorem Only.pop? {a rest : Agenda ε} (honly : a.Only P) {e : ε}
    (hpop : a.pop? = some (e, rest)) : P e ∧ rest.Only P := by
  obtain ⟨clockMs, ready, timers⟩ := a
  cases ready with
  | cons first others =>
      obtain ⟨rfl, rfl⟩ := Prod.mk.inj (Option.some.inj hpop)
      exact ⟨honly.ready _ List.mem_cons_self,
        fun f hf => honly.ready f (List.mem_cons_of_mem _ hf), honly.timers⟩
  | nil =>
      cases timers with
      | nil => exact nomatch hpop
      | cons first others =>
          obtain ⟨rfl, rfl⟩ := Prod.mk.inj (Option.some.inj hpop)
          exact ⟨honly.timers _ List.mem_cons_self, honly.ready,
            fun timer htimer => honly.timers timer (List.mem_cons_of_mem _ htimer)⟩

end Agenda

/-- Two states stay related when the same agenda is run in both, if every event keeps them related
and plans the same events. -/
theorem run_rel {σ : Type u} {step : σ → ε → σ × List (Plan ε)} {R : σ → σ → Prop}
    (hstep : ∀ s s' e, P e → R s s' → R (step s e).1 (step s' e).1 ∧ (step s e).2 = (step s' e).2 ∧
      ∀ plan ∈ (step s e).2, P plan.event) (limit : Nat) {s s' : σ} (hrel : R s s')
    {agenda : Agenda ε} (honly : agenda.Only P) :
    R (run step limit s agenda) (run step limit s' agenda) := by
  induction limit generalizing s s' agenda with
  | zero => exact hrel
  | succ limit ih =>
      rw [run, run]
      cases hpop : agenda.pop? with
      | none => exact hrel
      | some popped =>
          obtain ⟨e, rest⟩ := popped
          obtain ⟨he, hrest⟩ := honly.pop? hpop
          obtain ⟨hnext, hsame, hplans⟩ := hstep s s' e he hrel
          simp only [← hsame]
          exact ih hnext (hrest.add hplans)

end Schedule
end SupplierGateway
