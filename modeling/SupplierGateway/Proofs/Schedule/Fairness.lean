import Mathlib.Logic.Function.Iterate
import Mathlib.Order.OrderIsoNat
import Mathlib.Tactic.ByContra
import Mathlib.Tactic.Choose

/-!
# Fair schedules

A state changes by events, and a schedule is an infinite sequence of them.  A schedule may consist
of events that change nothing.  In a fair schedule, a state that can be changed by an admitted event
is changed at some later moment.

* `after` — the state after the first events of a schedule;
* `exists_following` — there is a schedule whose events satisfy a predicate on their states;
* `Fair` — only admitted events occur, and whenever one of them can change the state, the state is
  changed at a later moment;
* `exists_fair` — there is a fair schedule;
* `exists_measure_still` — a measure that never grows is constant from some moment on;
* `Fair.exists_still` — if every change decreases a measure, a fair schedule reaches a state that no
  admitted event changes.
-/

namespace SupplierGateway
namespace Schedule

universe u v

variable {σ : Type u} {ε : Type v} {step : σ → ε → σ} {admits : ε → Prop} {s : σ}

/-- The state after the first events of a schedule. -/
def after (step : σ → ε → σ) (s : σ) (schedule : Nat → ε) (n : Nat) : σ :=
  ((List.range n).map schedule).foldl step s

theorem after_succ (step : σ → ε → σ) (s : σ) (schedule : Nat → ε) (n : Nat) :
    after step s schedule (n + 1) = step (after step s schedule n) (schedule n) := by
  simp [after, List.range_succ]

/-- If every state has an event that is good for it, there is a schedule of events that are good for
the states at their moments. -/
theorem exists_following (step : σ → ε → σ) (s : σ) {good : σ → ε → Prop}
    (hgood : ∀ s, ∃ e, good s e) :
    ∃ schedule, ∀ n, good (after step s schedule n) (schedule n) := by
  choose next hnext using hgood
  let go : σ → σ := fun s' => step s' (next s')
  let states : Nat → σ := fun n => go^[n] s
  have hstates : ∀ n, after step s (fun i => next (states i)) n = states n := by
    intro n
    induction n with
    | zero => rfl
    | succ n ih =>
        rw [after_succ, ih]
        exact (Function.iterate_succ_apply' go n s).symm
  exact ⟨fun i => next (states i), fun n => hstates n ▸ hnext (states n)⟩

/-- Only admitted events occur, and whenever one of them can change the state, the state is changed
at that moment or a later one. -/
structure Fair (step : σ → ε → σ) (admits : ε → Prop) (s : σ) (schedule : Nat → ε) : Prop where
  admitted : ∀ n, admits (schedule n)
  progress : ∀ n, (∃ e, admits e ∧ step (after step s schedule n) e ≠ after step s schedule n) →
    ∃ k ≥ n, after step s schedule (k + 1) ≠ after step s schedule k

theorem Fair.admits_of_mem {schedule : Nat → ε} (hfair : Fair step admits s schedule) {n : Nat}
    {e : ε} (he : e ∈ (List.range n).map schedule) : admits e := by
  obtain ⟨i, -, rfl⟩ := List.mem_map.mp he
  exact hfair.admitted i

/-- There is a fair schedule, if any event is admitted. -/
theorem exists_fair (step : σ → ε → σ) (s : σ) {idle : ε} (hidle : admits idle) :
    ∃ schedule, Fair step admits s schedule := by
  have hnext : ∀ s' : σ, ∃ e, admits e ∧
      ((∃ e', admits e' ∧ step s' e' ≠ s') → step s' e ≠ s') := by
    intro s'
    by_cases hcan : ∃ e', admits e' ∧ step s' e' ≠ s'
    · obtain ⟨e, hadmits, hchanges⟩ := hcan
      exact ⟨e, hadmits, fun _ => hchanges⟩
    · exact ⟨idle, hidle, fun h => absurd h hcan⟩
  obtain ⟨schedule, hschedule⟩ := exists_following step s hnext
  refine ⟨schedule, fun n => (hschedule n).1, fun n hcan => ⟨n, Nat.le_refl n, ?_⟩⟩
  rw [after_succ]
  exact (hschedule n).2 hcan

section Measure

variable {measure : σ → Nat} {schedule : Nat → ε}

/-- A measure that never grows is constant from some moment on. -/
theorem exists_measure_still (hle : ∀ s e, measure (step s e) ≤ measure s) (s : σ)
    (schedule : Nat → ε) :
    ∃ n, ∀ k ≥ n,
      measure (after step s schedule (k + 1)) = measure (after step s schedule k) := by
  have hanti : Antitone fun n => measure (after step s schedule n) := by
    refine antitone_nat_of_succ_le fun n => ?_
    rw [after_succ]
    exact hle _ _
  obtain ⟨n, hsame⟩ := WellFoundedLT.antitone_chain_condition hanti
  exact ⟨n, fun k hk => (hsame (k + 1) (Nat.le_succ_of_le hk)).symm.trans (hsame k hk)⟩

/-- A fair schedule reaches a state that no admitted event changes. -/
theorem Fair.exists_still (hfair : Fair step admits s schedule)
    (hless : ∀ s e, step s e = s ∨ measure (step s e) < measure s) :
    ∃ n, ∀ e, admits e → step (after step s schedule n) e = after step s schedule n := by
  have hle : ∀ s e, measure (step s e) ≤ measure s := by
    intro s e
    rcases hless s e with hsame | hlt
    · rw [hsame]
    · exact Nat.le_of_lt hlt
  obtain ⟨n, hstill⟩ := exists_measure_still hle s schedule
  refine ⟨n, fun e he => ?_⟩
  by_contra hcan
  obtain ⟨k, hk, hchanges⟩ := hfair.progress n ⟨e, he, hcan⟩
  have hsame := hstill k hk
  rw [after_succ] at hchanges hsame
  have hlt := (hless (after step s schedule k) (schedule k)).resolve_left hchanges
  exact Nat.ne_of_lt hlt hsame

end Measure

end Schedule
end SupplierGateway
