import SupplierGateway.Phase

/-!
# Timeouts

A phase takes its own timeout when it has one, and the default otherwise.  All timeouts are whole
milliseconds.
-/

namespace SupplierGateway

/-- The default timeout and the timeouts of single phases, in milliseconds. -/
structure Timeouts where
  default : UInt64 := 30000
  override : Phase → Option UInt64 := fun _ => none

namespace Timeouts

/-- Gives one phase a timeout of its own. -/
def withPhase (t : Timeouts) (phase : Phase) (ms : UInt64) : Timeouts :=
  { t with override := fun p => if p = phase then some ms else t.override p }

/-- The timeout of a phase. -/
def resolve (t : Timeouts) (phase : Phase) : UInt64 :=
  (t.override phase).getD t.default

/-- No timeout may be zero.  The default is checked first, then the phases in order. -/
def validate (t : Timeouts) : Except InputError Unit :=
  if t.default = 0 then .error .zeroTimeout
  else
    match Phase.all.find? fun phase => t.override phase = some 0 with
    | some phase => .error (.zeroPhaseTimeout phase.name)
    | none => .ok ()

/-- Two settings agree exactly when they agree on the default and on every phase. -/
theorem ext_iff_all {s t : Timeouts} :
    s = t ↔ s.default = t.default ∧ ∀ phase ∈ Phase.all, s.override phase = t.override phase := by
  constructor
  · rintro rfl
    simp
  · rintro ⟨hdefault, hphases⟩
    cases s
    cases t
    simp only [mk.injEq]
    exact ⟨hdefault, funext fun phase => hphases phase (Phase.mem_all phase)⟩

instance : DecidableEq Timeouts := fun _ _ => decidable_of_iff _ ext_iff_all.symm

@[simp] theorem resolve_withPhase_self (t : Timeouts) (phase : Phase) (ms : UInt64) :
    (t.withPhase phase ms).resolve phase = ms := by
  simp [resolve, withPhase]

/-- A timeout of one phase does not change the others. -/
theorem resolve_withPhase_of_ne (t : Timeouts) {p phase : Phase} (ms : UInt64)
    (hne : p ≠ phase) : (t.withPhase phase ms).resolve p = t.resolve p := by
  simp [resolve, withPhase, hne]

end Timeouts
end SupplierGateway
