import SupplierGateway.Proofs.Cache.Stored
import SupplierGateway.Proofs.Lists

/-!
# A cache is an expiring map

Several users store, fetch, purge and clear in any order while the clock advances.  A fetch that
finds an expired entry takes two turns, and turns of other users may come between the two.  The
results of all uses are those of a map from keys to values with expiries, from which expired entries
are never removed.

* `Use` and `Usage` — the turns of users, and a cache in use;
* `ExpiringMap` — the abstract map;
* `storeText_of_kept` and `storeText_of_not_kept` — the effect of storing on a store;
* `Matches` — the invariant: every entry of the map that has not expired is in the store;
* `behaves_as_expiring_map` — the cache and the map give equal results.

Values of any types may be stored and read, also of different types under one key.  The store
refuses neither storing nor fetching.  Lifetimes are of any number of nanoseconds; the clock
advances in whole milliseconds (`Use.wait`), and cache and map are compared at these instants.
-/

namespace SupplierGateway
namespace Cache

variable {α : Type}

/-! ## Uses of a cache -/

/-- A turn of a user of a cache. -/
inductive Use where
  /-- Stores the text that a value was written as, if it could be written. -/
  | store (key : String) (text : Except String String) (ttl : Lifetime)
  /-- The first turn of a fetch. -/
  | look (reader : Nat) (key : String)
  /-- The second turn of a fetch that found an expired entry. -/
  | sweep (reader : Nat)
  | purge
  | clear
  | wait (ms : Nat)

/-- A cache in use. -/
structure Usage where
  cache : Cache := {}
  clockMs : Nat := 0
  /-- The keys under which readers found expired entries that they are about to remove. -/
  stale : Nat → Option String := fun _ => none

namespace Usage

/-- The first turn of a fetch decides whether there is a second one. -/
def look (s : Usage) (reader : Nat) (key : String) : Usage :=
  let found := if s.cache.backend.look s.clockMs key = .expired then some key else none
  { s with stale := fun other => if other = reader then found else s.stale other }

/-- The second turn of a fetch. -/
def sweep (s : Usage) (reader : Nat) : Usage :=
  match s.stale reader with
  | some key =>
      { s with
        cache := s.cache.sweep s.clockMs key
        stale := fun other => if other = reader then none else s.stale other }
  | none => s

/-- The cache after a turn. -/
def step (s : Usage) : Use → Usage
  | .store key text ttl => { s with cache := (s.cache.storeText s.clockMs key text ttl).1 }
  | .look reader key => s.look reader key
  | .sweep reader => s.sweep reader
  | .purge => { s with cache := { s.cache with backend := s.cache.backend.purge s.clockMs } }
  | .clear => { s with cache := { s.cache with backend := s.cache.backend.clear } }
  | .wait ms => { s with clockMs := s.clockMs + ms }

/-- The cache after turns. -/
def run (s : Usage) (uses : List Use) : Usage := uses.foldl step s

/-- The result of a fetch whose first turn is now. -/
def read (s : Usage) (codec : Codec α) (key : String) : Option α :=
  match (s.cache.glance codec s.clockMs key).1 with
  | .hit a => some a
  | .miss | .stale => none

/-- The entry of a key in the store. -/
def held? (s : Usage) (key : String) : Option Entry := s.cache.backend.get? key

/-- A cache without entries. -/
def start (singleFlight : Bool) (clockMs : Nat) : Usage := { cache := { singleFlight }, clockMs }

end Usage

/-! ## The abstract map -/

/-- A text with its expiry. -/
structure Kept where
  text : String
  expiresAt : Nat
deriving DecidableEq, Repr

/-- The text with its expiry when it is stored for a length of time, unless storing fails. -/
def kept? (clockMs : Nat) (text : Except String String) (ttl : Lifetime) : Option Kept :=
  match text with
  | .error _ => none
  | .ok text =>
      let expiresAt := clockNanos clockMs + ttl.toNanos
      if ttl.isZero || lastSecond < expiresAt / 1000000000 then none else some { text, expiresAt }

/-- A map from keys to texts with expiries, and a clock. -/
structure ExpiringMap where
  clockMs : Nat := 0
  get? : String → Option Kept := fun _ => none

namespace ExpiringMap

/-- The map after a turn.  Only storing and clearing change it. -/
def step (m : ExpiringMap) : Use → ExpiringMap
  | .store key text ttl =>
      match kept? m.clockMs text ttl with
      | some kept => { m with get? := fun other => if other = key then some kept else m.get? other }
      | none => m
  | .clear => { m with get? := fun _ => none }
  | .wait ms => { m with clockMs := m.clockMs + ms }
  | .look .. | .sweep _ | .purge => m

/-- The map after turns. -/
def run (m : ExpiringMap) (uses : List Use) : ExpiringMap := uses.foldl step m

/-- The value of a key is the one stored last, unless it has expired. -/
def read (m : ExpiringMap) (codec : Codec α) (key : String) : Option α :=
  (m.get? key).bind fun kept =>
    if clockNanos m.clockMs < kept.expiresAt then codec.decode kept.text else none

end ExpiringMap

/-- The entry of a stored text. -/
def Kept.entry (kept : Kept) : Entry :=
  { bytes := Compression.compress kept.text.toUTF8.data.toList, expiresAt := kept.expiresAt }

-- Left to itself, the kernel would compare the bytes here.
theorem Kept.entry_expiresAt (kept : Kept) : kept.entry.expiresAt = kept.expiresAt := by
  rw [Kept.entry]

/-! ## The store -/

namespace Backend

variable {b : Backend} {key : String}

theorem get?_put (b : Backend) (key : String) (entry : Entry) (other : String) :
    (b.put key entry).get? other = if other = key then some entry else b.get? other := by
  show ((key, entry) :: b.entries.filter fun e => e.1 != key).lookup other = _
  split
  · next hother =>
    subst hother
    simp
  · next hother =>
    have hbeq : (other == key) = false := by simpa using hother
    rw [List.lookup_cons, hbeq]
    exact lookup_filter_of_ne b.entries hother

/-- The store has at most one entry for each key. -/
def Single (b : Backend) : Prop := (b.entries.map Prod.fst).Nodup

theorem Single.filter (hsingle : b.Single) (p : String × Entry → Bool) :
    Single { b with entries := b.entries.filter p } :=
  hsingle.sublist (List.filter_sublist.map Prod.fst)

theorem Single.put (hsingle : b.Single) (key : String) (entry : Entry) :
    (b.put key entry).Single := by
  refine List.nodup_cons.mpr ⟨fun hmem => ?_, hsingle.filter _⟩
  obtain ⟨e, he, hkey⟩ := List.mem_map.mp hmem
  exact bne_iff_ne.mp (List.mem_filter.mp he).2 hkey

theorem Single.sweep (hsingle : b.Single) (clockMs : Nat) (key : String) :
    (b.sweep clockMs key).Single := by
  unfold Backend.sweep
  split
  · split
    · exact hsingle.filter _
    · exact hsingle
  · exact hsingle

/-- Sweeping removes the entry of the key iff it has expired, and no other entry. -/
theorem get?_sweep (b : Backend) (clockMs : Nat) (key other : String) :
    (b.sweep clockMs key).get? other = b.get? other ∨
      (b.sweep clockMs key).get? other = none ∧
        ∃ entry, b.get? other = some entry ∧ entry.expiresAt ≤ clockNanos clockMs := by
  unfold sweep
  split
  · next entry hentry =>
    split
    · next hexpired =>
      by_cases hother : other = key
      · subst hother
        exact .inr ⟨lookup_filter_self b.entries other, entry, hentry, hexpired⟩
      · exact .inl (lookup_filter_of_ne b.entries hother)
    · exact .inl rfl
  · exact .inl rfl

/-- Sweeping does not change whether a store refuses to store or to fetch. -/
theorem refuses_sweep (b : Backend) (clockMs : Nat) (key : String) :
    (b.sweep clockMs key).refusesStore = b.refusesStore ∧
      (b.sweep clockMs key).refusesFetch = b.refusesFetch := by
  unfold sweep
  split
  · split <;> exact ⟨rfl, rfl⟩
  · exact ⟨rfl, rfl⟩

/-- If keys do not repeat, a lookup in a filtered list gives the entry iff it satisfies the
filter. -/
theorem lookup_filter_of_nodup {entries : List (String × Entry)}
    (hnodup : (entries.map Prod.fst).Nodup) (p : String × Entry → Bool) (key : String) :
    (entries.filter p).lookup key = (entries.lookup key).filter fun entry => p (key, entry) := by
  induction entries with
  | nil => rfl
  | cons head rest ih =>
      obtain ⟨k, v⟩ := head
      obtain ⟨hfresh, hrest⟩ := List.nodup_cons.mp hnodup
      by_cases hkey : key = k
      · subst hkey
        -- The key does not occur again, so that nothing is found if its entry is not selected.
        have hnone : (rest.filter p).lookup key = none := by
          rw [List.lookup_eq_none_iff]
          intro e he
          refine bne_iff_ne.mpr fun hsame => hfresh ?_
          exact List.mem_map.mpr ⟨e, (List.mem_filter.mp he).1, hsame.symm⟩
        cases hp : p (key, v) with
        | true => simp [hp, Option.filter]
        | false => simp [hp, hnone, Option.filter]
      · have hbeq : (key == k) = false := by simpa using hkey
        have hskip : ∀ v', (((k, v') :: rest).lookup key) = rest.lookup key := fun v' => by
          rw [List.lookup_cons, hbeq]
        rw [hskip, ← ih hrest]
        cases hp : p (k, v) with
        | true => rw [List.filter_cons_of_pos hp, List.lookup_cons, hbeq]
        | false => rw [List.filter_cons_of_neg (by simp [hp])]

/-- Purging removes exactly the entries that have expired. -/
theorem get?_purge (hsingle : b.Single) (clockMs : Nat) (key : String) :
    (b.purge clockMs).get? key = b.get? key ∨
      (b.purge clockMs).get? key = none ∧
        ∃ entry, b.get? key = some entry ∧ entry.expiresAt ≤ clockNanos clockMs := by
  have hpurge : (b.purge clockMs).get? key =
      (b.get? key).filter fun entry => clockNanos clockMs < entry.expiresAt :=
    lookup_filter_of_nodup hsingle _ key
  rw [hpurge]
  cases hentry : b.get? key with
  | none => exact .inl rfl
  | some entry =>
      by_cases halive : clockNanos clockMs < entry.expiresAt
      · exact .inl (by simp [halive])
      · exact .inr ⟨by simpa using halive, entry, rfl, Nat.le_of_not_lt halive⟩

end Backend

/-! ## Storing -/

variable {c : Cache}

/-- Storing that does not fail puts the entry into the store. -/
theorem storeText_of_kept (haccepts : c.backend.refusesStore = false) {clockMs : Nat}
    {key : String} {text : Except String String} {ttl : Lifetime} {kept : Kept}
    (hkept : kept? clockMs text ttl = some kept) :
    c.storeText clockMs key text ttl =
      ({ c with
        backend := ({ c.backend with stores := c.backend.stores + 1 } : Backend).put key kept.entry },
        .ok ()) := by
  cases text with
  | error reason => exact nomatch hkept
  | ok text =>
      simp only [kept?] at hkept
      split at hkept
      · exact nomatch hkept
      · next hcan =>
        obtain rfl := Option.some.inj hkept
        obtain ⟨hlasts, hclock⟩ : ttl.isZero = false ∧
            (clockNanos clockMs + ttl.toNanos) / 1000000000 ≤ lastSecond := by
          simpa using hcan
        simp [storeText, Backend.store, haccepts, Backend.insert, hlasts, hclock, Kept.entry,
          Except.mapError]

/-- Storing that fails leaves the entries unchanged. -/
theorem storeText_of_not_kept (haccepts : c.backend.refusesStore = false) {clockMs : Nat}
    (key : String) {text : Except String String} {ttl : Lifetime}
    (hkept : kept? clockMs text ttl = none) :
    (∃ e, (c.storeText clockMs key text ttl).2 = .error e) ∧
      ∃ stores, (c.storeText clockMs key text ttl).1 =
        { c with backend := { c.backend with stores } } := by
  cases text with
  | error reason => exact ⟨⟨_, rfl⟩, c.backend.stores, rfl⟩
  | ok text =>
      simp only [kept?] at hkept
      split at hkept
      · next hcannot =>
        unfold storeText Backend.store
        simp only [haccepts, Bool.false_eq_true, if_false]
        unfold Backend.insert
        by_cases hzero : ttl.isZero = true
        · simp only [hzero, if_true]
          exact ⟨⟨_, rfl⟩, _, rfl⟩
        · have hbeyond : ¬ (clockNanos clockMs + ttl.toNanos) / 1000000000 ≤ lastSecond := by
            simpa [hzero] using hcannot
          simp only [hzero, Bool.false_eq_true, if_false, if_neg hbeyond]
          exact ⟨⟨_, rfl⟩, _, rfl⟩
      · exact nomatch hkept

/-! ## The invariant -/

/-- An entry of the map is in the store, unless it has expired and was removed. -/
def Matched (clockMs : Nat) (held? : Option Entry) (kept? : Option Kept) : Prop :=
  held? = kept?.map Kept.entry ∨
    held? = none ∧ ∃ kept, kept? = some kept ∧ kept.expiresAt ≤ clockNanos clockMs

/-- The invariant that relates a cache in use and the map. -/
structure Matches (s : Usage) (m : ExpiringMap) : Prop where
  clockMs : m.clockMs = s.clockMs
  accepts : s.cache.backend.refusesStore = false
  answers : s.cache.backend.refusesFetch = false
  single : s.cache.backend.Single
  matched : ∀ key, Matched s.clockMs (s.held? key) (m.get? key)

/-- The removal of an expired entry keeps the two matched. -/
theorem Matched.of_removed {clockMs : Nat} {held? held?' : Option Entry} {kept? : Option Kept}
    (hmatched : Matched clockMs held? kept?)
    (hremoved : held?' = held? ∨ held?' = none ∧
      ∃ entry, held? = some entry ∧ entry.expiresAt ≤ clockNanos clockMs) :
    Matched clockMs held?' kept? := by
  rcases hremoved with rfl | ⟨rfl, entry, rfl, hexpired⟩
  · exact hmatched
  · rcases hmatched with hsame | ⟨hnone, -⟩
    · obtain ⟨kept, rfl, rfl⟩ := Option.map_eq_some_iff.mp hsame.symm
      exact .inr ⟨rfl, kept, rfl, hexpired⟩
    · exact nomatch hnone

/-- Matched entries stay matched at a later time. -/
theorem Matched.later {clockMs later : Nat} {held? : Option Entry} {kept? : Option Kept}
    (hmatched : Matched clockMs held? kept?) (hlater : clockMs ≤ later) :
    Matched later held? kept? := by
  have hnanos : clockNanos clockMs ≤ clockNanos later := Nat.mul_le_mul_right 1000000 hlater
  exact hmatched.imp_right fun ⟨hnone, kept, hkept, hexpired⟩ =>
    ⟨hnone, kept, hkept, Nat.le_trans hexpired hnanos⟩

namespace Matches

variable {s : Usage} {m : ExpiringMap}

theorem store (hmatches : Matches s m) (key : String) (text : Except String String)
    (ttl : Lifetime) : Matches (s.step (.store key text ttl)) (m.step (.store key text ttl)) := by
  simp only [Usage.step, ExpiringMap.step, hmatches.clockMs]
  cases hkept : kept? s.clockMs text ttl with
  | some kept =>
      rw [storeText_of_kept hmatches.accepts hkept]
      have hsingle :
          Backend.Single { s.cache.backend with stores := s.cache.backend.stores + 1 } :=
        hmatches.single
      refine ⟨rfl, hmatches.accepts, hmatches.answers, hsingle.put key kept.entry,
        fun other => ?_⟩
      simp only [Usage.held?, Backend.get?_put]
      split
      · exact .inl rfl
      · exact hmatches.matched other
  | none =>
      obtain ⟨-, stores, hcache⟩ := storeText_of_not_kept hmatches.accepts key hkept
      rw [hcache]
      exact ⟨hmatches.clockMs, hmatches.accepts, hmatches.answers, hmatches.single, hmatches.matched⟩

theorem sweep (hmatches : Matches s m) (reader : Nat) : Matches (s.sweep reader) m := by
  unfold Usage.sweep
  split
  · next key _ =>
    obtain ⟨haccepts, hanswers⟩ := s.cache.backend.refuses_sweep s.clockMs key
    exact
      { clockMs := hmatches.clockMs
        accepts := haccepts.trans hmatches.accepts
        answers := hanswers.trans hmatches.answers
        single := hmatches.single.sweep s.clockMs key
        matched := fun other => (hmatches.matched other).of_removed
          (s.cache.backend.get?_sweep s.clockMs key other) }
  · exact hmatches

/-- Every turn preserves the invariant. -/
theorem step (hmatches : Matches s m) (use : Use) : Matches (s.step use) (m.step use) := by
  cases use with
  | store key text ttl => exact hmatches.store key text ttl
  | look reader key =>
      exact ⟨hmatches.clockMs, hmatches.accepts, hmatches.answers, hmatches.single, hmatches.matched⟩
  | sweep reader => exact hmatches.sweep reader
  | purge =>
      exact ⟨hmatches.clockMs, hmatches.accepts, hmatches.answers, hmatches.single.filter _,
        fun key =>
          (hmatches.matched key).of_removed (Backend.get?_purge hmatches.single s.clockMs key)⟩
  | clear =>
      exact ⟨hmatches.clockMs, hmatches.accepts, hmatches.answers, List.nodup_nil,
        fun _ => .inl rfl⟩
  | wait ms =>
      exact ⟨congrArg (· + ms) hmatches.clockMs, hmatches.accepts, hmatches.answers,
        hmatches.single, fun key => (hmatches.matched key).later (Nat.le_add_right _ ms)⟩

theorem run (hmatches : Matches s m) (uses : List Use) : Matches (s.run uses) (m.run uses) := by
  induction uses generalizing s m with
  | nil => exact hmatches
  | cons use uses ih => exact ih (hmatches.step use)

theorem start (singleFlight : Bool) (clockMs : Nat) :
    Matches (Usage.start singleFlight clockMs) { clockMs } where
  clockMs := rfl
  accepts := rfl
  answers := rfl
  single := List.nodup_nil
  matched _ := .inl rfl

/-! ## Reading -/

/-- The bytes of a stored text are read back as the text. -/
theorem readBytes_entry (codec : Codec α) (key : String) (kept : Kept) :
    (readBytes codec key kept.entry.bytes).1 = codec.decode kept.text :=
  readBytes_compress codec key kept.text

/-- A fetch reads the bytes of an entry that has not expired. -/
theorem read_of_held (hmatches : Matches s m) (codec : Codec α) {key : String} {e : Entry}
    (hheld : s.held? key = some e) :
    s.read codec key =
      if clockNanos s.clockMs < e.expiresAt then (readBytes codec key e.bytes).1 else none := by
  have hget : s.cache.backend.get? key = some e := hheld
  by_cases halive : clockNanos s.clockMs < e.expiresAt
  · have hlook : s.cache.backend.look s.clockMs key = .alive e.bytes := by
      simp [Backend.look, hmatches.answers, hget, halive]
    rw [if_pos halive]
    simp only [Usage.read, glance, hlook]
    rcases readBytes codec key e.bytes with ⟨_ | a, line⟩ <;> rfl
  · have hlook : s.cache.backend.look s.clockMs key = .expired := by
      simp [Backend.look, hmatches.answers, hget, halive]
    rw [if_neg halive]
    simp only [Usage.read, glance, hlook]

/-- A fetch gives nothing if there is no entry. -/
theorem read_of_not_held (hmatches : Matches s m) (codec : Codec α) {key : String}
    (hheld : s.held? key = none) : s.read codec key = none := by
  have hget : s.cache.backend.get? key = none := hheld
  have hlook : s.cache.backend.look s.clockMs key = .absent := by
    simp [Backend.look, hmatches.answers, hget]
  simp only [Usage.read, glance, hlook]

/-- A fetch from the cache gives the value of the map. -/
theorem read_eq (hmatches : Matches s m) (codec : Codec α) (key : String) :
    s.read codec key = m.read codec key := by
  rw [ExpiringMap.read, hmatches.clockMs]
  rcases hmatches.matched key with hsame | ⟨hnone, kept, hkept, hexpired⟩
  · cases hkept : m.get? key with
    | none =>
        rw [hkept] at hsame
        exact hmatches.read_of_not_held codec hsame
    | some kept =>
        rw [hkept] at hsame
        have hheld : s.held? key = some kept.entry := hsame
        rw [hmatches.read_of_held codec hheld, readBytes_entry, Kept.entry_expiresAt,
          Option.bind_some]
  · rw [hmatches.read_of_not_held codec hnone, hkept, Option.bind_some,
      if_neg (Nat.not_lt.mpr hexpired)]

/-- An entry that has not expired is changed only by clearing and by storing under its key. -/
theorem held?_step (hmatches : Matches s m) {use : Use} {key : String} {entry : Entry}
    (hentry : s.held? key = some entry) (halive : clockNanos s.clockMs < entry.expiresAt)
    (hstore : ∀ text ttl, use ≠ .store key text ttl) (hclear : use ≠ .clear) :
    (s.step use).held? key = some entry := by
  have hkeeps : ∀ {held?' : Option Entry}, (held?' = s.held? key ∨ held?' = none ∧
      ∃ e, s.held? key = some e ∧ e.expiresAt ≤ clockNanos s.clockMs) →
      held?' = some entry := by
    rintro _ (rfl | ⟨rfl, e, he, hexpired⟩)
    · exact hentry
    · obtain rfl := Option.some.inj (hentry.symm.trans he)
      omega
  cases use with
  | store other text ttl =>
      have hother : key ≠ other := fun hsame => hstore text ttl (hsame ▸ rfl)
      simp only [Usage.step, Usage.held?]
      cases hkept : kept? s.clockMs text ttl with
      | some kept =>
          rw [storeText_of_kept hmatches.accepts hkept]
          exact (Backend.get?_put _ other _ key).trans ((if_neg hother).trans hentry)
      | none =>
          obtain ⟨-, stores, hcache⟩ := storeText_of_not_kept hmatches.accepts other hkept
          rw [hcache]
          exact hentry
  | look reader other => exact hentry
  | sweep reader =>
      simp only [Usage.step, Usage.sweep]
      split
      · exact hkeeps (s.cache.backend.get?_sweep s.clockMs _ key)
      · exact hentry
  | purge => exact hkeeps (Backend.get?_purge hmatches.single s.clockMs key)
  | clear => exact absurd rfl hclear
  | wait ms => exact hentry

end Matches

/-! ## The property -/

/-- The properties of a cache in use that make it a map with expiries. -/
structure Behaves (s : Usage) (m : ExpiringMap) : Prop where
  /-- A fetch gives a value exactly when what was stored last under the key since the cache was
  cleared can be read as that value and has not expired. -/
  reads : ∀ {α : Type} (codec : Codec α) (key : String) (a : α), s.read codec key = some a ↔
    ∃ kept, m.get? key = some kept ∧ codec.decode kept.text = some a ∧
      clockNanos s.clockMs < kept.expiresAt
  /-- An entry that has not expired is changed only by clearing and by storing under its key, in
  particular not by purging and not by the second turn of a fetch. -/
  keeps : ∀ (use : Use) (key : String) (entry : Entry), s.held? key = some entry →
    clockNanos s.clockMs < entry.expiresAt → (∀ text ttl, use ≠ .store key text ttl) →
    use ≠ .clear → (s.step use).held? key = some entry
  /-- Storing succeeds unless the value could not be written, has no lifetime or would expire beyond
  the clock. -/
  stores : ∀ (key : String) (text : Except String String) (ttl : Lifetime),
    (s.cache.storeText s.clockMs key text ttl).2 = .ok () ↔
      (∃ written, text = .ok written) ∧ ttl.isZero = false ∧ ¬ BeyondClock s.clockMs ttl
  /-- When storing fails every entry stays as it is. -/
  refuses : ∀ (key : String) (text : Except String String) (ttl : Lifetime),
    (s.cache.storeText s.clockMs key text ttl).2 ≠ .ok () →
      ∀ other, (s.step (.store key text ttl)).held? other = s.held? other
  /-- A fetch without interruption is its two turns. -/
  fetches : ∀ {α : Type} (codec : Codec α) (reader : Nat) (key : String),
    (s.cache.fetch codec s.clockMs key).2.1 = s.read codec key ∧
      (s.cache.fetch codec s.clockMs key).1 =
        ((s.step (.look reader key)).step (.sweep reader)).cache

/-- Storing succeeds iff it gives a text with an expiry. -/
theorem isSome_kept? (clockMs : Nat) (text : Except String String) (ttl : Lifetime) :
    (kept? clockMs text ttl).isSome ↔
      (∃ written, text = .ok written) ∧ ttl.isZero = false ∧ ¬ BeyondClock clockMs ttl := by
  cases text with
  | error reason => simp [kept?]
  | ok text =>
      simp only [kept?, BeyondClock]
      split
      · next hcannot =>
        have hnot : ttl.isZero = false → lastSecond < (clockNanos clockMs + ttl.toNanos) /
            1000000000 := fun hlasts => by simpa [hlasts] using hcannot
        simpa using hnot
      · next hcan => simpa using hcan

/-- The stored text and its expiry when storing succeeds. -/
theorem kept?_of_lasts {clockMs : Nat} {ttl : Lifetime} (hlasts : ttl.isZero = false)
    (hintime : ¬ BeyondClock clockMs ttl) (text : String) :
    kept? clockMs (.ok text) ttl =
      some { text, expiresAt := clockNanos clockMs + ttl.toNanos } := by
  have hclock : ¬ lastSecond < (clockNanos clockMs + ttl.toNanos) / 1000000000 := hintime
  simp [kept?, hlasts, hclock]

namespace Matches

variable {s : Usage} {m : ExpiringMap}

theorem storeText_ok_iff (hmatches : Matches s m) (key : String) (text : Except String String)
    (ttl : Lifetime) : (s.cache.storeText s.clockMs key text ttl).2 = .ok () ↔
      (kept? s.clockMs text ttl).isSome := by
  cases hkept : kept? s.clockMs text ttl with
  | some kept => simp [storeText_of_kept hmatches.accepts hkept]
  | none =>
      obtain ⟨⟨e, he⟩, -⟩ := storeText_of_not_kept hmatches.accepts key hkept
      simp [he]

theorem behaves (hmatches : Matches s m) : Behaves s m where
  reads codec key a := by
    rw [hmatches.read_eq, ExpiringMap.read, hmatches.clockMs, Option.bind_eq_some_iff]
    refine exists_congr fun kept => and_congr_right fun _ => ?_
    split
    · next halive => simp [halive]
    · next hexpired => simp [hexpired]
  keeps use key entry hentry halive hstore hclear :=
    hmatches.held?_step hentry halive hstore hclear
  stores key text ttl := (hmatches.storeText_ok_iff key text ttl).trans (isSome_kept? ..)
  refuses key text ttl hfails other := by
    have hkept : kept? s.clockMs text ttl = none := by
      rw [← Option.not_isSome_iff_eq_none, ← hmatches.storeText_ok_iff key]
      exact hfails
    obtain ⟨-, stores, hcache⟩ := storeText_of_not_kept hmatches.accepts key hkept
    simp only [Usage.step, hcache]
    rfl
  fetches codec reader key := by
    simp only [Usage.read, Usage.step, Usage.look, Usage.sweep, fetch, glance]
    cases hlook : s.cache.backend.look s.clockMs key with
    | absent | refused => simp
    | expired => simp
    | alive bytes =>
        rcases hread : readBytes codec key bytes with ⟨_ | a, line⟩ <;> simp [hread]

end Matches

/-- After any turns of users in any order, a cache that is empty at first behaves as a map from keys
to texts with expiries. -/
theorem behaves_as_expiring_map (singleFlight : Bool) (clockMs : Nat) (uses : List Use) :
    Behaves ((Usage.start singleFlight clockMs).run uses) (ExpiringMap.run { clockMs } uses) :=
  ((Matches.start singleFlight clockMs).run uses).behaves

-- An entry that is stored between the two turns of a fetch survives the second one.
example :
    (((Usage.start false 0).run
      [.store "k" (.ok "1") (.ofSecs 1), .wait 1000, .look 0 "k", .store "k" (.ok "2") (.ofSecs 1),
        .sweep 0]).held? "k").isSome = true := by
  decide +kernel

end Cache
end SupplierGateway
