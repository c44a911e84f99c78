import SupplierGateway.Proofs.Cache.ExpiringMap
import SupplierGateway.Proofs.Cache.Pairing

/-!
# Lookups that miss

A lookup that misses goes on to load a value.  Until it stores one, it changes the store only by
removing an expired entry, and if no other caller stores a value, it misses when it reads again.

* `Usage.read_eq_some_iff` — the result of a fetch from a store that may refuse;
* `Tidied` — a store from which only expired entries were removed;
* `Tidied.read_of_read` — a value that is read afterwards would have been read before;
* `Matches.of_tidied` — a cache with a tidied store matches the same map;
* `advance_of_read` and `advance_of_unread` — a turn of a lookup that reads, and one that does not.
-/

namespace SupplierGateway
namespace Cache

variable {α : Type}

/-! ## Reading -/

/-- The value that the first turn of a read finds, if any. -/
def Glance.value? : Glance α → Option α
  | hit a => some a
  | miss | stale => none

theorem read_of_glance {codec : Codec α} {s : Usage} {key : String} {found : Glance α}
    {lines : List LogEntry} (hglance : s.cache.glance codec s.clockMs key = (found, lines)) :
    s.read codec key = found.value? := by
  rw [Usage.read, hglance]
  cases found <;> rfl

/-- A fetch gives the value that is read from the entry of the key, unless the entry has expired or
the store refuses to fetch. -/
theorem Usage.read_eq_some_iff {s : Usage} {codec : Codec α} {key : String} {a : α} :
    s.read codec key = some a ↔ s.cache.backend.refusesFetch = false ∧
      ∃ entry, s.held? key = some entry ∧ clockNanos s.clockMs < entry.expiresAt ∧
        (readBytes codec key entry.bytes).1 = some a := by
  rw [Usage.read, Usage.held?, glance, Backend.look]
  cases s.cache.backend.refusesFetch with
  | true => simp
  | false =>
      cases s.cache.backend.get? key with
      | none => simp
      | some entry =>
          by_cases halive : clockNanos s.clockMs < entry.expiresAt
          · rcases hread : readBytes codec key entry.bytes with ⟨_ | found, line⟩ <;>
              simp [halive, hread]
          · simp [halive]

/-! ## Tidied stores -/

/-- Expired entries may have been removed from a store, and nothing else was changed. -/
structure Tidied (clockMs : Nat) (b b' : Backend) : Prop where
  refusesStore : b'.refusesStore = b.refusesStore
  refusesFetch : b'.refusesFetch = b.refusesFetch
  single : b.Single → b'.Single
  held : ∀ key, b'.get? key = b.get? key ∨
    b'.get? key = none ∧ ∃ entry, b.get? key = some entry ∧ entry.expiresAt ≤ clockNanos clockMs

namespace Tidied

variable {clockMs : Nat} {b b' : Backend}

theorem refl (clockMs : Nat) (b : Backend) : Tidied clockMs b b :=
  ⟨rfl, rfl, id, fun _ => .inl rfl⟩

/-- The relation is kept as time passes. -/
theorem later (htidied : Tidied clockMs b b') {clockMs' : Nat} (hlater : clockMs ≤ clockMs') :
    Tidied clockMs' b b' where
  refusesStore := htidied.refusesStore
  refusesFetch := htidied.refusesFetch
  single := htidied.single
  held key := (htidied.held key).imp_right fun ⟨hnone, entry, hentry, hexpired⟩ =>
    ⟨hnone, entry, hentry, Nat.le_trans hexpired (Nat.mul_le_mul_right 1000000 hlater)⟩

theorem sweep (b : Backend) (clockMs : Nat) (key : String) :
    Tidied clockMs b (b.sweep clockMs key) where
  refusesStore := (b.refuses_sweep clockMs key).1
  refusesFetch := (b.refuses_sweep clockMs key).2
  single hsingle := hsingle.sweep clockMs key
  held := b.get?_sweep clockMs key

theorem trans {b'' : Backend} (hfirst : Tidied clockMs b b') (hsecond : Tidied clockMs b' b'') :
    Tidied clockMs b b'' where
  refusesStore := hsecond.refusesStore.trans hfirst.refusesStore
  refusesFetch := hsecond.refusesFetch.trans hfirst.refusesFetch
  single hsingle := hsecond.single (hfirst.single hsingle)
  held key := by
    rcases hsecond.held key with hsame | ⟨hnone, entry, hentry, hexpired⟩
    · rw [hsame]
      exact hfirst.held key
    · rcases hfirst.held key with hsame | ⟨hgone, -⟩
      · exact .inr ⟨hnone, entry, hsame.symm.trans hentry, hexpired⟩
      · exact nomatch hgone.symm.trans hentry

/-- A value that is read from a tidied store would have been read before. -/
theorem read_of_read {c c' : Cache} (htidied : Tidied clockMs c.backend c'.backend)
    {before : Nat} (hbefore : before ≤ clockMs) {codec : Codec α} {key : String} {a : α}
    (hread : Usage.read { cache := c', clockMs } codec key = some a) :
    Usage.read { cache := c, clockMs := before } codec key = some a := by
  obtain ⟨hanswers, entry, hentry, halive, hbytes⟩ := Usage.read_eq_some_iff.mp hread
  have hsame : c.backend.get? key = some entry := by
    rcases htidied.held key with hsame | ⟨hnone, -⟩
    · exact hsame.symm.trans hentry
    · exact nomatch hnone.symm.trans hentry
  refine Usage.read_eq_some_iff.mpr ⟨htidied.refusesFetch.symm.trans hanswers, entry, hsame, ?_,
    hbytes⟩
  exact Nat.lt_of_le_of_lt (Nat.mul_le_mul_right 1000000 hbefore) halive

end Tidied

/-- A cache with a tidied store matches the same map. -/
theorem Matches.of_tidied {s : Usage} {m : ExpiringMap} (hmatches : Matches s m) (s' : Usage)
    (hclock : s.clockMs ≤ s'.clockMs) (htidied : Tidied s'.clockMs s.cache.backend s'.cache.backend) :
    Matches s' { m with clockMs := s'.clockMs } where
  clockMs := rfl
  accepts := htidied.refusesStore.trans hmatches.accepts
  answers := htidied.refusesFetch.trans hmatches.answers
  single := htidied.single hmatches.single
  matched key := ((hmatches.matched key).later hclock).of_removed (htidied.held key)

/-! ## Turns of a lookup -/

variable {codec : Codec α} {clockMs : Nat} {key : String} {c : Cache}

theorem isBare_afterMiss (c : Cache) : (c.afterMiss : Phase α).isBare = true := by
  unfold afterMiss
  split <;> rfl

/-- A lookup that reads a value at its first turn leaves with it. -/
theorem advance_of_read {a : α} (hread : Usage.read { cache := c, clockMs } codec key = some a)
    (who : Nat) :
    (c.advance codec clockMs who key .reading).cache = c ∧
      (c.advance codec clockMs who key .reading).phase = .leaving none (.success a) := by
  simp only [advance]
  split
  · next found lines hglance =>
    obtain rfl : found = a :=
      Option.some.inj ((read_of_glance (s := { cache := c, clockMs }) hglance).symm.trans hread)
    exact ⟨rfl, rfl⟩
  · next lines hglance =>
    cases (read_of_glance (s := { cache := c, clockMs }) hglance).symm.trans hread
  · next lines hglance =>
    cases (read_of_glance (s := { cache := c, clockMs }) hglance).symm.trans hread

/-- As long as the entry of the key cannot be read, a lookup without a value goes on without one,
and removes at most an expired entry from the store. -/
theorem advance_of_unread (hread : Usage.read { cache := c, clockMs } codec key = none) (who : Nat)
    {phase : Phase α} (hbare : phase.isBare = true) :
    (c.advance codec clockMs who key phase).phase.isBare = true ∧
      Tidied clockMs c.backend (c.advance codec clockMs who key phase).cache.backend := by
  have hsame := Tidied.refl clockMs c.backend
  have hhit : ∀ {a lines}, c.glance codec clockMs key ≠ (.hit a, lines) := by
    intro a lines hglance
    cases (read_of_glance (s := { cache := c, clockMs }) hglance).symm.trans hread
  cases phase with
  | reading =>
      simp only [advance]
      split
      · next hglance => exact absurd hglance hhit
      · exact ⟨isBare_afterMiss c, hsame⟩
      · exact ⟨rfl, hsame⟩
  | sweeping => exact ⟨isBare_afterMiss c, .sweep c.backend clockMs key⟩
  | asking | queueing => exact ⟨rfl, hsame⟩
  | waiting lock =>
      simp only [advance]
      split <;> exact ⟨rfl, hsame⟩
  | rereading lock =>
      simp only [advance]
      split
      · next hglance => exact absurd hglance hhit
      · exact ⟨rfl, hsame⟩
      · exact ⟨rfl, hsame⟩
  | resweeping lock => exact ⟨rfl, .sweep c.backend clockMs key⟩
  | loading lock? => exact ⟨rfl, hsame⟩
  | storing | leaving | done => cases hbare

end Cache
end SupplierGateway
