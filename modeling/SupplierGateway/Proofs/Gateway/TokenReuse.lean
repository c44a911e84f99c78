import SupplierGateway.Proofs.Gateway.Observations
import SupplierGateway.Proofs.Operation.Correspondence

/-!
# Tokens are reused

Operations are carried out one after another and share a cache, and the supplier issues any tokens,
or none.  The content of the cache that an operation finds is a function of the observations of the
operations before.

* `Observation.Holds` — a token was stored whose lifetime has not elapsed;
* `Reuses` — an operation asks for a token iff none is stored for its key whose lifetime has not
  elapsed, and bears the token that was issued last;
* `lastKept` — the entry that was put into the cache last under a key;
* `Remembers` — the invariant: the cache holds for each key the entry that was put there last, and a
  token that has not expired is the last that was issued for its key;
* `Remembers.concat` and `Obtains.reuses` — one more operation;
* `Accounted.run` and `tokens_are_reused` — operations in a row.
-/

namespace SupplierGateway
namespace Service

open Cache (Backend BeyondClock CachedCredential ExpiringMap Kept Lifetime Matches Tidied Usage
  clockNanos)
open Call (Exchange)
open Operation (Event Missed Resources World credentialCodec kept storedIn)
open Supplier (IssuedToken)

/-! ## Which tokens are reused -/

/-- The operation stored a token under a key whose lifetime has not elapsed since. -/
def Observation.Holds (o : Observation) (key : String) (clockMs : Nat) : Prop :=
  o.key = key ∧ ∃ t storedMs, o.issued? = some t ∧ o.storedAt? = some storedMs ∧
    clockNanos clockMs < clockNanos storedMs + (Lifetime.ofSecs t.lifetimeSecs).toNanos

/-- The token was issued for a key, and after that, in the given operations, no other was. -/
def LastIssued (past : List Observation) (key : String) (t : IssuedToken)
    (since : List Observation) : Prop :=
  ∃ before p, past = before ++ p :: since ∧ p.key = key ∧ p.issued? = some t ∧
    ∀ q ∈ since, q.key = key → q.issued? = none

/-- An operation reuses the tokens of the operations before it. -/
structure Reuses (earlier : List Observation) (o : Observation) : Prop where
  /-- Credentials that need no token lead to no token call. -/
  needless : o.gateway.credential.requiresToken = false → o.tokenCalls = []
  once : o.tokenCalls.length ≤ 1
  /-- A token is asked for iff no token was stored for the key whose lifetime has not elapsed when
  the operation reads. -/
  asks : o.gateway.credential.requiresToken = true → ∃ lookedMs, o.lookedAt? = some lookedMs ∧
    (o.tokenCalls ≠ [] ↔ ∀ p ∈ earlier, ¬ p.Holds o.key lookedMs)
  /-- Every main request bears the token that was issued last for the key.  If it has no lifetime,
  it was issued to this very operation. -/
  bears : o.gateway.credential.requiresToken = true → ∀ x ∈ o.mainCalls, ∃ t since,
    LastIssued (earlier ++ [o]) o.key t since ∧ Bears t.token x ∧ (t.lifetimeSecs = 0 → since = [])
  /-- An operation that finds a token or is issued one, of any lifetime, goes on. -/
  proceeds : o.gateway.credential.requiresToken = true →
    o.tokenCalls = [] ∨ o.issued?.isSome = true → o.Proceeds
  /-- A token is stored if it has a lifetime. -/
  stores : o.storedAt?.isSome = true ↔ ∃ t, o.issued? = some t ∧ t.lifetimeSecs ≠ 0

/-! ## Stored tokens -/

/-- A token is read back as it was stored. -/
theorem decode_kept (key : String) (t : IssuedToken) :
    credentialCodec.decode (kept key t).1.json.compact = some (kept key t).1 := by
  have hnormal : Lifetime.normalise (kept key t).1.ttl.secs (kept key t).1.ttl.nanos =
      .ok (kept key t).1.ttl := by
    have hlt : t.lifetimeSecs.toNat < UInt64.size := t.lifetimeSecs.toNat_lt
    simp [kept, Lifetime.ofSecs, Lifetime.normalise, hlt]
  rw [Operation.decode_credentialCodec, hnormal]
  rfl

namespace Observation

/-- The entry that the operation put into the cache under a key, if any. -/
def kept? (o : Observation) (key : String) : Option Kept :=
  if o.key = key then
    o.issued?.bind fun t => o.storedAt?.map fun storedMs =>
      { text := (kept key t).1.json.compact
        expiresAt := clockNanos storedMs + (Lifetime.ofSecs t.lifetimeSecs).toNanos }
  else none

variable {o : Observation} {key : String} {clockMs : Nat} {found : Kept}

theorem kept?_eq_some_iff : o.kept? key = some found ↔ o.key = key ∧ ∃ t storedMs,
    o.issued? = some t ∧ o.storedAt? = some storedMs ∧
      found = { text := (kept key t).1.json.compact
                expiresAt := clockNanos storedMs + (Lifetime.ofSecs t.lifetimeSecs).toNanos } := by
  unfold kept?
  split
  · next hkey =>
    simp only [hkey, true_and, Option.bind_eq_some_iff, Option.map_eq_some_iff]
    constructor
    · rintro ⟨t, hissued, storedMs, hstored, rfl⟩
      exact ⟨t, storedMs, hissued, hstored, rfl⟩
    · rintro ⟨t, storedMs, hissued, hstored, rfl⟩
      exact ⟨t, hissued, storedMs, hstored, rfl⟩
  · next hkey => simp [hkey]

/-- The entry that the operation put into the cache is read back as the token that was issued to
it. -/
theorem decode_of_kept? (hkept : o.kept? key = some found) : ∃ t storedMs,
    o.issued? = some t ∧ o.storedAt? = some storedMs ∧
      credentialCodec.decode found.text = some (kept key t).1 := by
  obtain ⟨-, t, storedMs, hissued, hstored, hfound⟩ := kept?_eq_some_iff.mp hkept
  have htext : found.text = (kept key t).1.json.compact := by rw [hfound]
  refine ⟨t, storedMs, hissued, hstored, ?_⟩
  rw [htext, decode_kept]

/-- The entry that the operation put into the cache has not expired iff the lifetime of its token
has not elapsed. -/
theorem holds_iff : o.Holds key clockMs ↔
    ∃ found, o.kept? key = some found ∧ clockNanos clockMs < found.expiresAt := by
  simp only [kept?_eq_some_iff, Holds]
  constructor
  · rintro ⟨hkey, t, storedMs, hissued, hstored, halive⟩
    exact ⟨_, ⟨hkey, t, storedMs, hissued, hstored, rfl⟩, halive⟩
  · rintro ⟨_, ⟨hkey, t, storedMs, hissued, hstored, rfl⟩, halive⟩
    exact ⟨hkey, t, storedMs, hissued, hstored, halive⟩

theorem kept?_of_not_issued (hissued : o.issued? = none) : o.kept? key = none := by
  unfold kept?
  split
  · rw [hissued, Option.bind_none]
  · rfl

theorem kept?_of_not_stored (hstored : o.storedAt? = none) : o.kept? key = none := by
  unfold kept?
  split
  · simp [hstored]
  · rfl

/-- A token whose lifetime has not elapsed had a lifetime left before. -/
theorem Holds.earlier (hholds : o.Holds key clockMs) {before : Nat} (hbefore : before ≤ clockMs) :
    o.Holds key before := by
  obtain ⟨hkey, t, storedMs, hissued, hstored, halive⟩ := hholds
  exact ⟨hkey, t, storedMs, hissued, hstored,
    Nat.lt_of_le_of_lt (Nat.mul_le_mul_right 1000000 hbefore) halive⟩

end Observation

/-- The entry that was put into the cache last under a key. -/
def lastKept (past : List Observation) (key : String) : Option Kept :=
  past.reverse.findSome? (·.kept? key)

theorem lastKept_concat (past : List Observation) (o : Observation) (key : String) :
    lastKept (past ++ [o]) key = (o.kept? key).or (lastKept past key) := by
  rw [lastKept, List.reverse_append, List.reverse_singleton, List.singleton_append,
    List.findSome?_cons, lastKept]
  cases o.kept? key <;> rfl

/-- The last entry under its key is the one that an operation put there, and under other keys
nothing changes. -/
theorem lastKept_of_stored {o : Observation} {held : Kept} (hheld : o.kept? o.key = some held)
    (past : List Observation) :
    lastKept (past ++ [o]) = fun key => if key = o.key then some held else lastKept past key := by
  funext key
  rw [lastKept_concat]
  split
  · next hkey => rw [hkey, hheld, Option.some_or]
  · next hkey => rw [Observation.kept?, if_neg fun hsame => hkey hsame.symm, Option.none_or]

/-- The last entry under a key was put there by one of the operations, and by none after it. -/
theorem lastKept_eq_some_iff {past : List Observation} {key : String} {found : Kept} :
    lastKept past key = some found ↔ ∃ before p after, past = before ++ p :: after ∧
      p.kept? key = some found ∧ ∀ q ∈ after, q.kept? key = none := by
  rw [lastKept, List.findSome?_eq_some_iff]
  constructor
  · rintro ⟨after, p, before, hsplit, hkept, hnone⟩
    refine ⟨before.reverse, p, after.reverse, ?_, hkept,
      fun q hq => hnone q (List.mem_reverse.mp hq)⟩
    rw [← List.reverse_reverse past, hsplit]
    simp
  · rintro ⟨before, p, after, rfl, hkept, hnone⟩
    refine ⟨after.reverse, p, before.reverse, by simp, hkept,
      fun q hq => hnone q (List.mem_reverse.mp hq)⟩

/-! ## The store after an operation -/

/-- An operation stored a token that was issued to it, or it removed expired entries at most.  It
began when the clock showed `beganMs`. -/
inductive Leaves (c₀ : Cache) (b : Backend) (beganMs clockMs : Nat) (o : Observation) : Prop
  | unstored (hstored : o.storedAt? = none) (htidied : Tidied clockMs c₀.backend b)
  | stored (storedMs : Nat) (b' : Backend) (hbegan : beganMs ≤ storedMs)
      (hclock : storedMs ≤ clockMs) (htidied : Tidied storedMs c₀.backend b') (t : IssuedToken)
      (hissued : o.issued? = some t) (hlasts : t.lifetimeSecs ≠ 0)
      (hstored : o.storedAt? = some storedMs)
      (hintime : ¬ BeyondClock storedMs (.ofSecs t.lifetimeSecs))
      (hkept : b = storedIn b' storedMs o.key t)

/-! ## The invariant -/

/-- The content of a cache is determined by the observations of the operations before. -/
structure Remembers (earlier : List Observation) (c : Cache) (clockMs : Nat) : Prop where
  matched : Matches { cache := c, clockMs } { clockMs, get? := lastKept earlier }
  /-- A token that has not expired is the last that was issued for its key. -/
  recent : ∀ before p after key, earlier = before ++ p :: after → p.Holds key clockMs →
    ∀ q ∈ after, q.key = key → q.issued? = none
  /-- Only tokens with a lifetime are stored. -/
  lasts : ∀ p ∈ earlier, ∀ t storedMs, p.issued? = some t → p.storedAt? = some storedMs →
    t.lifetimeSecs ≠ 0

namespace Remembers

variable {earlier : List Observation} {c : Cache} {clockMs : Nat} {key : String}

/-- The invariant is kept while time passes. -/
theorem later (hremembers : Remembers earlier c clockMs) {clockMs' : Nat}
    (hlater : clockMs ≤ clockMs') : Remembers earlier c clockMs' where
  matched := hremembers.matched.of_tidied { cache := c, clockMs := clockMs' } hlater
    (.refl clockMs' c.backend)
  recent before p after key hsplit hholds :=
    hremembers.recent before p after key hsplit (hholds.earlier hlater)
  lasts := hremembers.lasts

/-- A read finds the credential that was stored last, unless it has expired. -/
theorem read_eq (hremembers : Remembers earlier c clockMs) (key : String) :
    Usage.read { cache := c, clockMs } credentialCodec key = (lastKept earlier key).bind fun held =>
      if clockNanos clockMs < held.expiresAt then credentialCodec.decode held.text else none :=
  hremembers.matched.read_eq credentialCodec key

/-- A credential that is read was stored by the operation to which a token was issued last. -/
theorem found (hremembers : Remembers earlier c clockMs) {found : CachedCredential}
    (hread : Usage.read { cache := c, clockMs } credentialCodec key = some found) :
    ∃ before p after t, earlier = before ++ p :: after ∧ p.Holds key clockMs ∧
      p.issued? = some t ∧ t.lifetimeSecs ≠ 0 ∧ found.token = t.token ∧
      ∀ q ∈ after, q.key = key → q.issued? = none := by
  rw [hremembers.read_eq, Option.bind_eq_some_iff] at hread
  obtain ⟨held, hheld, hread⟩ := hread
  obtain ⟨before, p, after, hsplit, hkept, -⟩ := lastKept_eq_some_iff.mp hheld
  obtain ⟨t, storedMs, hissued, hstored, hdecode⟩ := Observation.decode_of_kept? hkept
  have hlasts := hremembers.lasts p (hsplit ▸ List.mem_append_cons_self) t storedMs hissued hstored
  split at hread
  · next halive =>
    have hholds : p.Holds key clockMs := Observation.holds_iff.mpr ⟨held, hkept, halive⟩
    have htoken : (kept key t).1 = found := Option.some.inj (hdecode.symm.trans hread)
    exact ⟨before, p, after, t, hsplit, hholds, hissued, hlasts, htoken ▸ rfl,
      hremembers.recent before p after key hsplit hholds⟩
  · exact nomatch hread

/-- If nothing is read, the lifetimes of all stored tokens have elapsed. -/
theorem not_holds (hremembers : Remembers earlier c clockMs)
    (hread : Usage.read { cache := c, clockMs } credentialCodec key = none) :
    ∀ p ∈ earlier, ¬ p.Holds key clockMs := by
  intro p hp hholds
  obtain ⟨before, after, hsplit⟩ := List.append_of_mem hp
  have hrecent := hremembers.recent before p after key hsplit hholds
  obtain ⟨held, hkept, halive⟩ := Observation.holds_iff.mp hholds
  have hnone : ∀ q ∈ after, q.kept? key = none := by
    intro q hq
    by_cases hkey : q.key = key
    · exact Observation.kept?_of_not_issued (hrecent q hq hkey)
    · exact if_neg hkey
  have hlast : lastKept earlier key = some held :=
    lastKept_eq_some_iff.mpr ⟨before, p, after, hsplit, hkept, hnone⟩
  obtain ⟨t, -, -, -, hdecode⟩ := Observation.decode_of_kept? hkept
  rw [hremembers.read_eq, hlast, Option.bind_some, if_pos halive, hdecode] at hread
  cases hread

/-- The cache after an operation holds the entry that was stored last. -/
theorem matched_concat {c₀ : Cache} {beganMs : Nat} {o : Observation}
    (hremembers : Remembers earlier c₀ beganMs) (hbegan : beganMs ≤ clockMs)
    (hleaves : Leaves c₀ c.backend beganMs clockMs o) :
    Matches { cache := c, clockMs } { clockMs, get? := lastKept (earlier ++ [o]) } := by
  cases hleaves with
  | unstored hstored htidied =>
      have hsame : lastKept (earlier ++ [o]) = lastKept earlier := by
        funext key
        rw [lastKept_concat, Observation.kept?_of_not_stored hstored, Option.none_or]
      rw [hsame]
      exact hremembers.matched.of_tidied { cache := c, clockMs } hbegan htidied
  | stored storedMs b' hbefore hafter htidied t hissued hlasts hstored hintime hkept =>
      -- Before the token is stored, and again after that, expired entries are removed at most.
      have hmatches := hremembers.matched.of_tidied
        { cache := { backend := b' }, clockMs := storedMs } hbefore htidied
      have hnonzero : (Lifetime.ofSecs t.lifetimeSecs).isZero = false := by
        rw [← Bool.not_eq_true, isZero_ofSecs]
        exact hlasts
      have hheld := Observation.kept?_eq_some_iff.mpr ⟨rfl, t, storedMs, hissued, hstored, rfl⟩
      have hkeeps : Cache.kept? storedMs (credentialCodec.encode (kept o.key t).1)
          (kept o.key t).2 = some _ := Cache.kept?_of_lasts hnonzero hintime _
      have hmap : ExpiringMap.step { clockMs := storedMs, get? := lastKept earlier }
            (.store o.key (credentialCodec.encode (kept o.key t).1) (kept o.key t).2) =
          { clockMs := storedMs, get? := lastKept (earlier ++ [o]) } := by
        rw [lastKept_of_stored hheld, ExpiringMap.step, hkeeps]
      have hnext := hmatches.store o.key (credentialCodec.encode (kept o.key t).1) (kept o.key t).2
      rw [hmap] at hnext
      exact hnext.of_tidied { cache := c, clockMs } hafter (hkept ▸ .refl clockMs _)

/-- The invariant holds after one more operation, to which no token was issued while the lifetime of
a stored one had not elapsed. -/
theorem concat {c₀ : Cache} {beganMs : Nat} {o : Observation}
    (hremembers : Remembers earlier c₀ beganMs) (hbegan : beganMs ≤ clockMs)
    (hleaves : Leaves c₀ c.backend beganMs clockMs o)
    (hfresh : ∀ t, o.issued? = some t → ∀ p ∈ earlier, ¬ p.Holds o.key clockMs) :
    Remembers (earlier ++ [o]) c clockMs where
  matched := hremembers.matched_concat hbegan hleaves
  recent before p after key hsplit hholds := by
    -- A token of an earlier operation could be followed by a later one only through the last
    -- operation, which was issued none while this token had a lifetime left.
    rcases List.eq_nil_or_concat after with rfl | ⟨since, q, rfl⟩
    · exact List.forall_mem_nil _
    · rw [List.concat_eq_append] at hsplit ⊢
      rw [← List.cons_append, ← List.append_assoc] at hsplit
      obtain ⟨rfl, hlast⟩ := List.append_inj' hsplit rfl
      obtain rfl := List.singleton_inj.mp hlast
      have hsince := hremembers.recent before p since key rfl (hholds.earlier hbegan)
      refine List.forall_mem_append.mpr ⟨hsince, List.forall_mem_singleton.mpr fun hkey => ?_⟩
      refine Option.eq_none_iff_forall_ne_some.mpr fun t hissued => ?_
      exact hfresh t hissued p List.mem_append_cons_self (hkey ▸ hholds)
  lasts p hp t storedMs hissued hstored := by
    rcases List.mem_append.mp hp with hp | hp
    · exact hremembers.lasts p hp t storedMs hissued hstored
    · obtain rfl := List.mem_singleton.mp hp
      cases hleaves with
      | unstored hnone => exact nomatch hnone.symm.trans hstored
      | stored _ _ _ _ _ t' hissued' hlasts =>
          exact Option.some.inj (hissued'.symm.trans hissued) ▸ hlasts

end Remembers

/-! ## One operation -/

section Step

variable {earlier : List Observation} {c₀ c : Cache} {b : Backend} {beganMs clockMs : Nat}
  {o : Observation}

/-- The operation read its cache after it had begun, and stored only tokens that expire before the
end of the clock. -/
structure Observation.InTime (o : Observation) (beganMs : Nat) : Prop where
  looked : ∀ lookedMs, o.lookedAt? = some lookedMs → beganMs ≤ lookedMs
  stored : ∀ t storedMs, o.issued? = some t → o.storedAt? = some storedMs →
    ¬ BeyondClock storedMs (.ofSecs t.lifetimeSecs)

theorem Obtains.leaves (hobtains : Obtains c₀ b clockMs o) (hintime : o.InTime beganMs) :
    Leaves c₀ b beganMs clockMs o := by
  cases hobtains with
  | found lookedMs hlooked c hread hnone hstored hsame huses =>
      exact .unstored hstored (hsame ▸ .refl clockMs c₀.backend)
  | unkept lookedMs hlooked hmissed t hissued hzero hstored huses =>
      exact .unstored hstored hmissed.tidied
  | stored lookedMs storedMs b' hlooked hmissed hclock t hissued hlasts hstored hkept huses =>
      have hissued' := Observation.issued?_of_asked hissued
      exact .stored storedMs b' (Nat.le_trans (hintime.looked lookedMs hlooked) hmissed.looked_le)
        hclock hmissed.tidied t hissued' hlasts hstored (hintime.stored t storedMs hissued' hstored)
        hkept
  | refused lookedMs hlooked hmissed hissued hstored hmain =>
      exact .unstored hstored hmissed.tidied

/-- An operation to which a token is issued has found none, so that none had a lifetime left. -/
theorem Obtains.fresh (hobtains : Obtains c₀ b clockMs o)
    (hremembers : Remembers earlier c₀ beganMs) (hintime : o.InTime beganMs) :
    ∀ t, o.issued? = some t → ∀ p ∈ earlier, ¬ p.Holds o.key clockMs := by
  intro t hissued p hp hholds
  -- A token with a lifetime left had one also when the operation looked, and would have been found.
  have hnot : ∀ {lookedMs until' : Nat} {b' : Backend}, o.lookedAt? = some lookedMs →
      Missed c₀ o.key lookedMs until' b' → until' ≤ clockMs → False :=
    fun hlooked hmissed huntil =>
      (hremembers.later (hintime.looked _ hlooked)).not_holds hmissed.unread p hp
        (hholds.earlier (Nat.le_trans hmissed.looked_le huntil))
  cases hobtains with
  | found lookedMs hlooked c hread hnone =>
      exact nomatch (Observation.issued?_of_not_asked hnone).symm.trans hissued
  | unkept lookedMs hlooked hmissed => exact hnot hlooked hmissed (Nat.le_refl _)
  | stored lookedMs storedMs b' hlooked hmissed hclock => exact hnot hlooked hmissed hclock
  | refused lookedMs hlooked hmissed hissued' =>
      exact nomatch (Observation.issued?_of_asked hissued').symm.trans hissued

/-- The last token that was issued to an operation was issued to it by itself, if one was. -/
theorem lastIssued_self {t : IssuedToken} (hissued : o.issued? = some t) :
    LastIssued (earlier ++ [o]) o.key t [] :=
  ⟨earlier, o, rfl, rfl, hissued, List.forall_mem_nil _⟩

/-- An operation that was issued a token, and did not find one, reuses the tokens of those before
it. -/
theorem reuses_of_issued {lookedMs : Nat} (hlooked : o.lookedAt? = some lookedMs)
    (hunheld : ∀ p ∈ earlier, ¬ p.Holds o.key lookedMs) {t : IssuedToken}
    (hrequired : o.gateway.credential.requiresToken = true)
    (hissued : o.tokenCalls.map issuedBy? = [some t]) (huses : o.Uses t.token)
    (hstores : o.storedAt?.isSome = true ↔ t.lifetimeSecs ≠ 0) : Reuses earlier o where
  needless hnot := absurd (hnot.symm.trans hrequired) Bool.false_ne_true
  once := by
    rw [← List.length_map (f := issuedBy?), hissued]
    exact Nat.le_refl _
  asks _ := ⟨lookedMs, hlooked, iff_of_true (fun hnone => by simp [hnone] at hissued) hunheld⟩
  bears _ x hx := ⟨t, [], lastIssued_self (Observation.issued?_of_asked hissued), huses.bears x hx,
    fun _ => rfl⟩
  proceeds _ _ := huses.proceeds
  stores := by
    rw [hstores, Observation.issued?_of_asked hissued]
    simp

/-- An operation that has obtained a token, or was refused one, reuses those of the operations
before it. -/
theorem Obtains.reuses (hobtains : Obtains c₀ b clockMs o)
    (hremembers : Remembers earlier c₀ beganMs) (hintime : o.InTime beganMs)
    (hrequired : o.gateway.credential.requiresToken = true) :
    Reuses earlier o := by
  have hunheld : ∀ {lookedMs until' : Nat} {b' : Backend}, o.lookedAt? = some lookedMs →
      Missed c₀ o.key lookedMs until' b' → ∀ p ∈ earlier, ¬ p.Holds o.key lookedMs :=
    fun hlooked hmissed => (hremembers.later (hintime.looked _ hlooked)).not_holds hmissed.unread
  cases hobtains with
  | found lookedMs hlooked c hread hnone hstored hsame huses =>
      -- What was found is the token of an earlier operation, and it is the last that was issued.
      obtain ⟨before, p, after, t, rfl, hholds, hissued, hlasts, htoken, hrecent⟩ :=
        (hremembers.later (hintime.looked lookedMs hlooked)).found hread
      have hnotissued := Observation.issued?_of_not_asked hnone
      exact
        { needless := fun _ => hnone
          once := by simp [hnone]
          asks := fun _ => ⟨lookedMs, hlooked, iff_of_false (fun hasked => hasked hnone)
            fun hunheld => hunheld p List.mem_append_cons_self hholds⟩
          bears := fun _ x hx => by
            refine ⟨t, after ++ [o], ⟨before, p, by simp, hholds.1, hissued, ?_⟩,
              htoken ▸ huses.bears x hx, fun hzero => absurd hzero hlasts⟩
            exact List.forall_mem_append.mpr
              ⟨hrecent, List.forall_mem_singleton.mpr fun _ => hnotissued⟩
          proceeds := fun _ _ => huses.proceeds
          stores := by simp [hstored, hnotissued] }
  | unkept lookedMs hlooked hmissed t hissued hzero hstored huses =>
      exact reuses_of_issued hlooked (hunheld hlooked hmissed) hrequired hissued huses
        (by simp [hstored, hzero])
  | stored lookedMs storedMs b' hlooked hmissed hclock t hissued hlasts hstored hkept huses =>
      exact reuses_of_issued hlooked (hunheld hlooked hmissed) hrequired hissued huses
        (by simp [hstored, hlasts])
  | refused lookedMs hlooked hmissed hissued hstored hmain =>
      have hnotissued := Observation.issued?_of_asked hissued
      have hasked : o.tokenCalls ≠ [] := fun hnone => by simp [hnone] at hissued
      exact
        { needless := fun hnot => absurd (hnot.symm.trans hrequired) Bool.false_ne_true
          once := by
            rw [← List.length_map (f := issuedBy?), hissued]
            exact Nat.le_refl _
          asks := fun _ => ⟨lookedMs, hlooked, iff_of_true hasked (hunheld hlooked hmissed)⟩
          bears := fun _ => hmain ▸ List.forall_mem_nil _
          proceeds := fun _ hor => by simp [hasked, hnotissued] at hor
          stores := by simp [hstored, hnotissued] }

/-- An operation that needs no token neither asks for one nor stores one. -/
theorem reuses_of_not_required (hcredential : o.gateway.credential.requiresToken = false)
    (hnone : o.tokenCalls = []) (hstored : o.storedAt? = none) : Reuses earlier o where
  needless _ := hnone
  once := by simp [hnone]
  asks hrequired := absurd (hcredential.symm.trans hrequired) Bool.false_ne_true
  bears hrequired := absurd (hcredential.symm.trans hrequired) Bool.false_ne_true
  proceeds hrequired := absurd (hcredential.symm.trans hrequired) Bool.false_ne_true
  stores := by simp [hstored, Observation.issued?_of_not_asked hnone]

end Step

/-! ## Operations one after another -/

section Run

variable {number : Nat} {r : Resources} {e : Episode} {earlier : List Observation}

/-- The conditions on an operation in a row: no other user accesses the store, the operation has a
result, and the token that it stores expires before the end of the clock. -/
structure Episode.Admits (number : Nat) (r : Resources) (e : Episode) : Prop where
  quiet : ∀ n backend, Event.replace n backend ∉ e.events
  ends : (e.observation number r).result?.isSome = true
  lifetimes : ∀ t storedMs, (e.observation number r).issued? = some t →
    (e.observation number r).storedAt? = some storedMs →
      ¬ BeyondClock storedMs (.ofSecs t.lifetimeSecs)

namespace Episode

theorem inTime_of_admits (hadmits : e.Admits number r) :
    (e.observation number r).InTime r.clockMs where
  looked _ hlooked :=
    Nat.le_trans (Nat.le_add_right r.clockMs e.pauseMs) (World.clockMs_of_turnAt? hlooked).1
  stored := hadmits.lifetimes

theorem clockMs_le_after (number : Nat) (r : Resources) (e : Episode) :
    r.clockMs ≤ (e.after number r).clockMs :=
  Nat.le_trans (Nat.le_add_right r.clockMs e.pauseMs) ((e.world number r).clockMs_run_le e.events)

/-- An operation that needs a token obtains one, or is refused one. -/
theorem obtains (hadmits : e.Admits number r) (haddress : r.transport.address = id)
    (hrequired : e.gateway.credential.requiresToken = true) :
    Obtains (r.cache number) ((e.after number r).cache number).backend (e.after number r).clockMs
      (e.observation number r) := by
  obtain ⟨result, hresult⟩ := Option.isSome_iff_exists.mp hadmits.ends
  obtain ⟨lookedMs, clockMs, tokens, calls, run, a, hlooked, hlater, hsplit, hend, hgoes⟩ :=
    lone_end (r := { r with clockMs := r.clockMs + e.pauseMs }) haddress hrequired hadmits.quiet
      hresult
  exact Observation.obtains_of_lookupEnd hrequired hlooked hsplit hresult hend hgoes hlater
    (fun storedMs hstored => (World.clockMs_of_turnAt? hstored).2) hadmits.lifetimes

/-- An operation that needs no token asks for none and does not use its cache. -/
theorem leaves_alone (hadmits : e.Admits number r) (haddress : r.transport.address = id)
    (hcredential : e.gateway.credential.requiresToken = false) :
    (e.observation number r).tokenCalls = [] ∧ (e.observation number r).storedAt? = none ∧
      ((e.after number r).cache number).backend = (r.cache number).backend := by
  obtain ⟨result, hresult⟩ := Option.isSome_iff_exists.mp hadmits.ends
  obtain ⟨tokens, calls, hsplit, hgated⟩ :=
    authentication_gate { r with clockMs := r.clockMs + e.pauseMs } haddress
      [(e.gateway, number, e.service)] e.events 0 e.gateway number e.service rfl result hresult
  obtain rfl := hgated.not_required hcredential
  obtain ⟨hnone, -⟩ :=
    Observation.calls_of_split (o := e.observation number r) hsplit (List.forall_mem_nil _)
      hgated.elsewhere
  obtain ⟨-, hstored, hstores⟩ := @lone_without_token { r with clockMs := r.clockMs + e.pauseMs }
    e.gateway number e.service e.events hcredential hadmits.quiet
  exact ⟨hnone, hstored, hstores number⟩

end Episode

/-- The content of the cache is determined by the observations of the operations before. -/
structure Accounted (number : Nat) (earlier : List Observation) (r : Resources) : Prop where
  address : r.transport.address = id
  remembers : Remembers earlier (r.cache number) r.clockMs

/-- One more operation reuses the tokens of those before it, and the invariant holds after it. -/
theorem Accounted.step (haccounted : Accounted number earlier r) (hadmits : e.Admits number r) :
    Reuses earlier (e.observation number r) ∧
      Accounted number (earlier ++ [e.observation number r]) (e.after number r) := by
  obtain ⟨haddress, hremembers⟩ := haccounted
  have hafter : (e.after number r).transport.address = id := World.address_run haddress e.events
  have hbegan := e.clockMs_le_after number r
  cases hcredential : e.gateway.credential.requiresToken with
  | true =>
      have hobtains := Episode.obtains hadmits haddress hcredential
      have hintime := Episode.inTime_of_admits hadmits
      refine ⟨hobtains.reuses hremembers hintime hcredential, hafter, ?_⟩
      exact hremembers.concat hbegan (hobtains.leaves hintime) (hobtains.fresh hremembers hintime)
  | false =>
      obtain ⟨hnone, hstored, hstores⟩ := Episode.leaves_alone hadmits haddress hcredential
      refine ⟨reuses_of_not_required hcredential hnone hstored, hafter, ?_⟩
      refine hremembers.concat hbegan (.unstored hstored (hstores ▸ .refl _ _)) fun t hissued => ?_
      exact nomatch (Observation.issued?_of_not_asked hnone).symm.trans hissued

/-- All operations of a row reuse the tokens of those before them. -/
theorem Accounted.run {es : List Episode} (haccounted : Accounted number earlier r)
    (hquiet : ∀ e ∈ es, ∀ n backend, Event.replace n backend ∉ e.events)
    (hends : ∀ o ∈ observations number r es, o.result?.isSome = true)
    (hlifetimes : ∀ o ∈ observations number r es, ∀ t storedMs, o.issued? = some t →
      o.storedAt? = some storedMs → ¬ BeyondClock storedMs (.ofSecs t.lifetimeSecs))
    (before : List Observation) (o : Observation) (later : List Observation)
    (hsplit : observations number r es = before ++ o :: later) : Reuses (earlier ++ before) o := by
  -- Operations pass from the row to those that are accounted for, one by one.
  induction es generalizing earlier r before with
  | nil => exact absurd hsplit (by simp [observations])
  | cons e es ih =>
      obtain ⟨hquiet, hquiets⟩ := List.forall_mem_cons.mp hquiet
      obtain ⟨hend, hends⟩ := List.forall_mem_cons.mp hends
      obtain ⟨hlifetime, hlifetimes⟩ := List.forall_mem_cons.mp hlifetimes
      obtain ⟨hreuses, hnext⟩ := haccounted.step ⟨hquiet, hend, hlifetime⟩
      cases before with
      | nil =>
          obtain ⟨rfl, -⟩ := List.cons.inj hsplit
          rw [List.append_nil]
          exact hreuses
      | cons first before =>
          obtain ⟨rfl, hrest⟩ := List.cons.inj hsplit
          rw [List.append_cons]
          exact ih hnext hquiets hends hlifetimes before hrest

/-- The invariant holds for a cache without entries and no operations. -/
theorem accounted_nil (haddress : r.transport.address = id)
    (hentries : (r.cache number).backend.entries = [])
    (haccepts : (r.cache number).backend.refusesStore = false)
    (hanswers : (r.cache number).backend.refusesFetch = false) : Accounted number [] r where
  address := haddress
  remembers :=
    { matched :=
        { clockMs := rfl
          accepts := haccepts
          answers := hanswers
          single := by rw [Cache.Backend.Single, hentries]; exact List.nodup_nil
          matched := fun key => .inl (by
            show (r.cache number).backend.get? key = none
            rw [Cache.Backend.get?, hentries, List.lookup_nil]) }
      recent := fun before p after key hsplit => by simp at hsplit
      lasts := List.forall_mem_nil _ }

end Run

/-- Operations of any gateways are carried out one after another, over any supplier and at any
times, and share a cache that is empty at first and refuses nothing.  Then each of them asks for a
token iff no token was stored for its key whose lifetime has not elapsed, and bears the token that
was issued last. -/
theorem tokens_are_reused (number : Nat) (r : Resources) (haddress : r.transport.address = id)
    (hentries : (r.cache number).backend.entries = [])
    (haccepts : (r.cache number).backend.refusesStore = false)
    (hanswers : (r.cache number).backend.refusesFetch = false) (es : List Episode)
    (hquiet : ∀ e ∈ es, ∀ n backend, Event.replace n backend ∉ e.events)
    (hends : ∀ o ∈ observations number r es, o.result?.isSome = true)
    (hlifetimes : ∀ o ∈ observations number r es, ∀ t storedMs, o.issued? = some t →
      o.storedAt? = some storedMs → ¬ BeyondClock storedMs (.ofSecs t.lifetimeSecs))
    (earlier : List Observation) (o : Observation) (later : List Observation)
    (hsplit : observations number r es = earlier ++ o :: later) : Reuses earlier o :=
  (accounted_nil haddress hentries haccepts hanswers).run hquiet hends hlifetimes earlier o later
    hsplit

/-! ## A token that expires -/

/-- The state of a booking is asked for after a pause.  One turn removes an expired entry. -/
def statusAfter (pauseMs : Nat) : Episode where
  gateway := clientGateway
  service := status "B1"
  pauseMs := pauseMs
  events :=
    [.proceed, .proceed, .proceed, .arrive, .proceed, .proceed, .proceed, .arrive, .proceed,
      .proceed].map (.task 0)

/-- The state of a booking is asked for, and again when the lifetime of the token has just
elapsed. -/
def fiveMinutesApart : List Observation :=
  observations 0 (issuing "300") [statusAfter 0, statusAfter 300000]

/-- Both times a token is asked for and stored, and the operations reuse tokens. -/
theorem asked_again_when_elapsed :
    fiveMinutesApart.map (fun o => (o.tokenCalls.length, o.lookedAt?, o.storedAt?)) =
        [(1, some 0, some 0), (1, some 300000, some 300000)] ∧
      ∀ earlier o later, fiveMinutesApart = earlier ++ o :: later → Reuses earlier o := by
  have hquiet : ∀ e ∈ [statusAfter 0, statusAfter 300000], ∀ n backend,
      Event.replace n backend ∉ e.events := by
    simp [statusAfter]
  have hends : ∀ o ∈ fiveMinutesApart, o.result?.isSome = true := by decide +kernel
  have hissued : ∀ o ∈ fiveMinutesApart, o.issued?.map (·.lifetimeSecs) = some 300 := by
    decide +kernel
  have hstored : ∀ o ∈ fiveMinutesApart, o.storedAt?.any (· ≤ 300000) = true := by decide +kernel
  refine ⟨by decide +kernel, tokens_are_reused 0 (issuing "300") rfl rfl rfl rfl
    [statusAfter 0, statusAfter 300000] hquiet hends fun o hd t storedMs ht hms hbeyond => ?_⟩
  have hlifetime : t.lifetimeSecs = 300 := by simpa [ht] using hissued o hd
  have hbefore := hstored o hd
  rw [hms] at hbefore
  rw [hlifetime] at hbeyond
  exact absurd (hbeyond.mono (of_decide_eq_true hbefore)) (by unfold BeyondClock; decide)

end Service
end SupplierGateway
