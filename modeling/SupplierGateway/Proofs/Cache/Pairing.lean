import Mathlib.Data.List.Forall2
import Mathlib.Logic.Relator
import SupplierGateway.Proofs.Cache.Stored
import SupplierGateway.Proofs.Lists

/-!
# Caches whose keys and values correspond

A cache only compares keys, and it does not inspect values.  Two caches with different keys and
values therefore take the same turns, if the keys correspond one to one and values that correspond
are read back as values that correspond.

* `Attempt.Agree` — two attempts are equal up to the values of successes;
* `Cache.Pairing` — a relation of keys and one of values;
* `Pairing.Stores`, `Pairing.Caches` and `Pairing.Phases` — the relations of stores, caches and
  phases of lookups;
* `Pairing.advance` and `Pairing.loaded` — the relations are kept by turns of lookups.
-/

namespace SupplierGateway

namespace Attempt

variable {α β γ δ : Type} {R : α → β → Prop} {S : γ → δ → Prop}

/-- Two attempts are equal up to the values of successes, which are related. -/
inductive Agree (R : α → β → Prop) : Attempt α → Attempt β → Prop
  | success {a : α} {b : β} (hvalue : R a b) : Agree R (.success a) (.success b)
  | failure (f : Failure) : Agree R (.failure f) (.failure f)
  | crash (text : String) : Agree R (.crash text) (.crash text)

theorem Agree.refl {R : α → α → Prop} (hrefl : ∀ a, R a a) (x : Attempt α) : Agree R x x := by
  cases x with
  | success a => exact .success (hrefl a)
  | failure f => exact .failure f
  | crash text => exact .crash text

theorem Agree.map {f : α → γ} {g : β → δ} (hmap : ∀ a b, R a b → S (f a) (g b)) {x : Attempt α}
    {y : Attempt β} (hagree : Agree R x y) : Agree S (x.map f) (y.map g) := by
  cases hagree with
  | success hvalue => exact .success (hmap _ _ hvalue)
  | failure f => exact .failure f
  | crash text => exact .crash text

end Attempt

namespace Cache

open Attempt (Agree)

/-- A lookup that has no value yet. -/
def Phase.isBare {α : Type} : Phase α → Bool
  | .storing .. | .leaving .. | .done _ => false
  | .reading | .sweeping | .asking | .queueing _ | .waiting _ | .rereading _ | .resweeping _
  | .loading _ => true

/-- Keys and values that correspond to each other. -/
structure Pairing (α : Type) where
  codec : Codec α
  key : String → String → Prop
  value : α → α → Prop
  /-- Keys correspond one to one. -/
  unique : Relator.BiUnique key
  /-- Values that correspond are written, and what is read of them corresponds. -/
  written : ∀ a a', value a a' → ∃ text text', codec.encode a = .ok text ∧
    codec.encode a' = .ok text' ∧ Option.Rel value (codec.decode text) (codec.decode text')

namespace Pairing

variable {α : Type} (P : Pairing α)

/-! ## Relations -/

/-- Two sequences of bytes are read as values that correspond, or neither is read as a value. -/
def Bytes (bytes bytes' : List UInt8) : Prop :=
  ∀ key key', Option.Rel P.value (readBytes P.codec key bytes).1 (readBytes P.codec key' bytes').1

/-- Two entries have the same expiry, and bytes that correspond. -/
structure Entries (e e' : Entry) : Prop where
  expiresAt : e.expiresAt = e'.expiresAt
  bytes : P.Bytes e.bytes e'.bytes

/-- Two stores have entries that correspond, and refuse the same operations. -/
structure Stores (b b' : Backend) : Prop where
  entries : List.Forall₂ (fun e e' => P.key e.1 e'.1 ∧ P.Entries e.2 e'.2) b.entries b'.entries
  refusesStore : b.refusesStore = b'.refusesStore
  refusesFetch : b.refusesFetch = b'.refusesFetch

/-- Two lock tables have the same locks, for keys that correspond. -/
structure Locked (l l' : Locks) : Prop where
  made : l.made = l'.made
  table : List.Forall₂ (fun e e' => P.key e.1 e'.1 ∧ e.2 = e'.2) l.table l'.table

/-- Two caches have stores and locks that correspond. -/
structure Caches (c c' : Cache) : Prop where
  stores : P.Stores c.backend c'.backend
  singleFlight : c.singleFlight = c'.singleFlight
  locks : P.Locked c.locks c'.locks

/-- Two lookups are in the same phase, with values that correspond. -/
inductive Phases : Phase α → Phase α → Prop
  | bare (phase : Phase α) (hbare : phase.isBare = true) : Phases phase phase
  | storing (lock? : Option Nat) {a a' : α} (hvalue : P.value a a') (ttl : Lifetime) :
      Phases (.storing lock? a ttl) (.storing lock? a' ttl)
  | leaving (lock? : Option Nat) {x x' : Attempt α} (hresult : Agree P.value x x') :
      Phases (.leaving lock? x) (.leaving lock? x')
  | done {x x' : Attempt α} (hresult : Agree P.value x x') : Phases (.done x) (.done x')

/-- Two results of looking up a key in a store correspond. -/
inductive Finds : Found → Found → Prop
  | absent : Finds .absent .absent
  | expired : Finds .expired .expired
  | refused : Finds .refused .refused
  | alive {bytes bytes' : List UInt8} (hbytes : P.Bytes bytes bytes') :
      Finds (.alive bytes) (.alive bytes')

/-- Two results of the first turn of a read are equal up to the values, which correspond. -/
inductive Glances : Glance α → Glance α → Prop
  | hit {a a' : α} (hvalue : P.value a a') : Glances (.hit a) (.hit a')
  | miss : Glances .miss .miss
  | stale : Glances .stale .stale

/-- Two turns of lookups have results that correspond, and hand a lock to the same caller. -/
structure Turns (t t' : Turn α) : Prop where
  cache : P.Caches t.cache t'.cache
  phase : P.Phases t.phase t'.phase
  handedTo : t.handedTo = t'.handedTo

variable {P} {b b' : Backend} {l l' : Locks} {c c' : Cache} {key key' : String}

/-- A store without entries corresponds to itself under any pairing. -/
theorem stores_of_fresh (hentries : b.entries = []) : P.Stores b b :=
  ⟨hentries ▸ .nil, rfl, rfl⟩

/-- A cache without entries and locks corresponds to itself under any pairing. -/
theorem caches_of_fresh (hentries : c.backend.entries = []) (hlocks : c.locks = {}) :
    P.Caches c c where
  stores := stores_of_fresh hentries
  singleFlight := rfl
  locks := ⟨rfl, hlocks ▸ .nil⟩

/-- Bytes correspond to themselves when all values do. -/
theorem bytes_refl (hvalue : ∀ a, P.value a a) (bytes : List UInt8) : P.Bytes bytes bytes := by
  intro key key'
  have hsame : (readBytes P.codec key bytes).1 = (readBytes P.codec key' bytes).1 := by
    unfold readBytes
    cases Compression.decompress bytes with
    | none => rfl
    | some plain =>
        simp only
        cases (String.fromUTF8? ⟨plain.toArray⟩).bind P.codec.decode <;> rfl
  rw [hsame]
  cases (readBytes P.codec key' bytes).1 with
  | none => exact .none
  | some a => exact .some (hvalue a)

theorem stores_refl (hkey : ∀ k, P.key k k) (hvalue : ∀ a, P.value a a) (b : Backend) :
    P.Stores b b where
  entries := List.forall₂_same.mpr fun e _ => ⟨hkey e.1, rfl, bytes_refl hvalue _⟩
  refusesStore := rfl
  refusesFetch := rfl

/-- A cache corresponds to itself when all keys and values do. -/
theorem caches_refl (hkey : ∀ k, P.key k k) (hvalue : ∀ a, P.value a a) (c : Cache) :
    P.Caches c c where
  stores := stores_refl hkey hvalue c.backend
  singleFlight := rfl
  locks := ⟨rfl, List.forall₂_same.mpr fun e _ => ⟨hkey e.1, rfl⟩⟩

/-! ## Reading and storing -/

theorem Stores.get? (hstores : P.Stores b b') (hkey : P.key key key') :
    Option.Rel P.Entries (b.get? key) (b'.get? key') :=
  lookup_rel P.unique hstores.entries hkey

theorem Stores.erase (hstores : P.Stores b b') (hkey : P.key key key') :
    P.Stores (b.erase key) (b'.erase key') where
  entries := filter_rel P.unique hstores.entries hkey
  refusesStore := hstores.refusesStore
  refusesFetch := hstores.refusesFetch

theorem Stores.put (hstores : P.Stores b b') (hkey : P.key key key') {e e' : Entry}
    (hentry : P.Entries e e') : P.Stores (b.put key e) (b'.put key' e') where
  entries := .cons ⟨hkey, hentry⟩ (hstores.erase hkey).entries
  refusesStore := hstores.refusesStore
  refusesFetch := hstores.refusesFetch

/-- Lookups of keys that correspond have results that correspond. -/
theorem Stores.look (hstores : P.Stores b b') (hkey : P.key key key') (clockMs : Nat) :
    P.Finds (b.look clockMs key) (b'.look clockMs key') := by
  have hget := hstores.get? hkey
  rw [Backend.look, Backend.look, ← hstores.refusesFetch]
  cases b.refusesFetch with
  | true => exact .refused
  | false =>
      generalize b.get? key = found at hget
      generalize b'.get? key' = found' at hget
      cases hget with
      | none => exact .absent
      | @some e e' hentry =>
          simp only [Bool.false_eq_true, if_false, ← hentry.expiresAt]
          split
          · exact .alive hentry.bytes
          · exact .expired

theorem Caches.glance (hcaches : P.Caches c c') (hkey : P.key key key') (clockMs : Nat) :
    P.Glances (c.glance P.codec clockMs key).1 (c'.glance P.codec clockMs key').1 := by
  have hlook := hcaches.stores.look hkey clockMs
  rw [Cache.glance, Cache.glance]
  generalize c.backend.look clockMs key = look at hlook
  generalize c'.backend.look clockMs key' = look' at hlook
  cases hlook with
  | absent => exact .miss
  | expired => exact .stale
  | refused => exact .miss
  | @alive bytes bytes' hbytes =>
      have hread := hbytes key key'
      simp only
      generalize readBytes P.codec key bytes = read at hread
      generalize readBytes P.codec key' bytes' = read' at hread
      obtain ⟨a?, line⟩ := read
      obtain ⟨a'?, line'⟩ := read'
      cases (show Option.Rel P.value a? a'? from hread) with
      | none => exact .miss
      | some hvalue => exact .hit hvalue

theorem Caches.sweep (hcaches : P.Caches c c') (hkey : P.key key key') (clockMs : Nat) :
    P.Caches (c.sweep clockMs key) (c'.sweep clockMs key') where
  stores := by
    have hget := hcaches.stores.get? hkey
    unfold Cache.sweep Backend.sweep
    generalize c.backend.get? key = found at hget
    generalize c'.backend.get? key' = found' at hget
    cases hget with
    | none => exact hcaches.stores
    | @some e e' hentry =>
        simp only [← hentry.expiresAt]
        split
        · exact hcaches.stores.erase hkey
        · exact hcaches.stores
  singleFlight := hcaches.singleFlight
  locks := hcaches.locks

/-- Values that correspond are written as bytes that correspond. -/
theorem exists_written {a a' : α} (hvalue : P.value a a') :
    ∃ text text', P.codec.encode a = .ok text ∧ P.codec.encode a' = .ok text' ∧
      P.Bytes (Compression.compress text.toUTF8.data.toList)
        (Compression.compress text'.toUTF8.data.toList) := by
  obtain ⟨text, text', htext, htext', hread⟩ := P.written a a' hvalue
  refine ⟨text, text', htext, htext', fun key key' => ?_⟩
  rw [readBytes_compress, readBytes_compress]
  exact hread

/-- Bytes that correspond are put under their keys, or both stores report the same fault. -/
theorem Stores.insert (hstores : P.Stores b b') (hkey : P.key key key') {bytes bytes' : List UInt8}
    (hbytes : P.Bytes bytes bytes') (clockMs : Nat) (ttl : Lifetime) :
    (∃ s s', b.insert clockMs key bytes ttl = .ok s ∧ b'.insert clockMs key' bytes' ttl = .ok s' ∧
      P.Stores s s') ∨
    ∃ fault, b.insert clockMs key bytes ttl = .error fault ∧
      b'.insert clockMs key' bytes' ttl = .error fault := by
  unfold Backend.insert
  split
  · exact .inr ⟨_, rfl, rfl⟩
  · simp only
    split
    · exact .inl ⟨_, _, rfl, rfl, hstores.put hkey ⟨rfl, hbytes⟩⟩
    · exact .inr ⟨_, rfl, rfl⟩

/-- Storing bytes that correspond has the same result and leaves stores that correspond. -/
theorem Stores.store (hstores : P.Stores b b') (hkey : P.key key key') {bytes bytes' : List UInt8}
    (hbytes : P.Bytes bytes bytes') (clockMs : Nat) (ttl : Lifetime) :
    P.Stores (b.store clockMs key bytes ttl).1 (b'.store clockMs key' bytes' ttl).1 ∧
      (b.store clockMs key bytes ttl).2 = (b'.store clockMs key' bytes' ttl).2 := by
  have hasked : P.Stores { b with stores := b.stores + 1 } { b' with stores := b'.stores + 1 } :=
    ⟨hstores.entries, hstores.refusesStore, hstores.refusesFetch⟩
  unfold Backend.store
  by_cases hrefuses : b.refusesStore = true
  · have hrefuses' : b'.refusesStore = true := hstores.refusesStore ▸ hrefuses
    rw [if_pos hrefuses, if_pos hrefuses']
    exact ⟨hasked, rfl⟩
  · have hrefuses' : ¬b'.refusesStore = true := hstores.refusesStore ▸ hrefuses
    rw [if_neg hrefuses, if_neg hrefuses']
    rcases hasked.insert hkey hbytes clockMs ttl with
      ⟨s, s', hinsert, hinsert', hstored⟩ | ⟨fault, hinsert, hinsert'⟩
    · simp only [hinsert, hinsert']
      exact ⟨hstored, trivial⟩
    · simp only [hinsert, hinsert']
      exact ⟨hasked, trivial⟩

/-- Storing values that correspond has the same result and leaves caches that correspond. -/
theorem Caches.storeText (hcaches : P.Caches c c') (hkey : P.key key key') {a a' : α}
    (hvalue : P.value a a') (clockMs : Nat) (ttl : Lifetime) :
    P.Caches (c.storeText clockMs key (P.codec.encode a) ttl).1
        (c'.storeText clockMs key' (P.codec.encode a') ttl).1 ∧
      (c.storeText clockMs key (P.codec.encode a) ttl).2 =
        (c'.storeText clockMs key' (P.codec.encode a') ttl).2 := by
  obtain ⟨text, text', htext, htext', hbytes⟩ := exists_written hvalue
  obtain ⟨hstores, hresult⟩ := hcaches.stores.store hkey hbytes clockMs ttl
  rw [htext, htext']
  exact ⟨⟨hstores, hcaches.singleFlight, hcaches.locks⟩,
    congrArg (Except.mapError CacheError.ofStoreFault) hresult⟩

/-! ## Locks -/

theorem Locked.get? (hlocks : P.Locked l l') (hkey : P.key key key') :
    l.get? key = l'.get? key' := by
  have hget := lookup_rel P.unique hlocks.table hkey
  unfold Locks.get?
  generalize l.table.lookup key = found at hget
  generalize l'.table.lookup key' = found' at hget
  cases hget with
  | none => rfl
  | some hsame => rw [hsame]

theorem Locked.update (hlocks : P.Locked l l') (lock : Nat) (f : Lock → Lock) :
    P.Locked (l.update lock f) (l'.update lock f) where
  made := congrArg (List.modify · lock f) hlocks.made
  table := hlocks.table

theorem Locked.holder? (hlocks : P.Locked l l') (lock : Nat) :
    l.holder? lock = l'.holder? lock := by
  rw [Locks.holder?, Locks.holder?, hlocks.made]

theorem Locked.refer (hlocks : P.Locked l l') (hkey : P.key key key') :
    P.Locked (l.refer key).1 (l'.refer key').1 ∧ (l.refer key).2 = (l'.refer key').2 := by
  unfold Locks.refer
  rw [← hlocks.get? hkey]
  cases l.get? key with
  | some lock => exact ⟨hlocks.update lock _, rfl⟩
  | none =>
      simp only [hlocks.made]
      exact ⟨⟨rfl, .cons ⟨hkey, rfl⟩ hlocks.table⟩, trivial⟩

theorem Locked.tidy (hlocks : P.Locked l l') (hkey : P.key key key') :
    P.Locked (l.tidy key) (l'.tidy key') := by
  unfold Locks.tidy
  rw [← hlocks.get? hkey, ← hlocks.made]
  cases l.get? key with
  | none => exact hlocks
  | some lock =>
      simp only
      split
      · exact ⟨(hlocks.update lock _).made, filter_rel P.unique hlocks.table hkey⟩
      · exact hlocks

theorem Locked.release (hlocks : P.Locked l l') (hkey : P.key key key') (lock : Nat) :
    P.Locked (l.release key lock).1 (l'.release key' lock).1 ∧
      (l.release key lock).2 = (l'.release key' lock).2 := by
  refine ⟨(hlocks.update lock _).tidy hkey, ?_⟩
  show l.first? lock = l'.first? lock
  rw [Locks.first?, Locks.first?, hlocks.made]

/-! ## Lookups -/

theorem phases_afterMiss (hcaches : P.Caches c c') : P.Phases c.afterMiss c'.afterMiss := by
  unfold afterMiss
  rw [← hcaches.singleFlight]
  cases c.singleFlight with
  | true => exact .bare _ rfl
  | false => exact .bare _ rfl

/-- A turn of lookups that correspond has results that correspond. -/
theorem advance (hcaches : P.Caches c c') (hkey : P.key key key') {phase phase' : Phase α}
    (hphase : P.Phases phase phase') (clockMs who : Nat) :
    P.Turns (c.advance P.codec clockMs who key phase)
      (c'.advance P.codec clockMs who key' phase') := by
  rcases hread : c.glance P.codec clockMs key with ⟨g, lines⟩
  rcases hread' : c'.glance P.codec clockMs key' with ⟨g', lines'⟩
  have hglance : P.Glances g g' := by
    have hboth := hcaches.glance hkey clockMs
    rwa [hread, hread'] at hboth
  cases hphase with
  | bare phase hbare =>
      cases phase with
      | reading =>
          simp only [Cache.advance, hread, hread']
          cases hglance with
          | hit hvalue => exact ⟨hcaches, .leaving none (.success hvalue), rfl⟩
          | miss => exact ⟨hcaches, phases_afterMiss hcaches, rfl⟩
          | stale => exact ⟨hcaches, .bare _ rfl, rfl⟩
      | sweeping => exact ⟨hcaches.sweep hkey clockMs, phases_afterMiss hcaches, rfl⟩
      | asking =>
          obtain ⟨hlocks, hlock⟩ := hcaches.locks.refer hkey
          refine ⟨⟨hcaches.stores, hcaches.singleFlight, hlocks⟩, ?_, rfl⟩
          show P.Phases (.queueing (c.locks.refer key).2) (.queueing (c'.locks.refer key').2)
          rw [hlock]
          exact .bare _ rfl
      | queueing lock =>
          exact ⟨⟨hcaches.stores, hcaches.singleFlight, hcaches.locks.update lock _⟩,
            .bare _ rfl, rfl⟩
      | waiting lock =>
          simp only [Cache.advance]
          rw [← hcaches.locks.holder? lock]
          split
          · exact ⟨hcaches, .bare _ rfl, rfl⟩
          · exact ⟨hcaches, .bare _ rfl, rfl⟩
      | rereading lock =>
          simp only [Cache.advance, hread, hread']
          cases hglance with
          | hit hvalue => exact ⟨hcaches, .leaving (some lock) (.success hvalue), rfl⟩
          | miss => exact ⟨hcaches, .bare _ rfl, rfl⟩
          | stale => exact ⟨hcaches, .bare _ rfl, rfl⟩
      | resweeping lock => exact ⟨hcaches.sweep hkey clockMs, .bare _ rfl, rfl⟩
      | loading lock? => exact ⟨hcaches, .bare _ rfl, rfl⟩
      | storing lock? a ttl => exact absurd hbare Bool.false_ne_true
      | leaving lock? x => exact absurd hbare Bool.false_ne_true
      | done x => exact absurd hbare Bool.false_ne_true
  | @storing lock? a a' hvalue ttl =>
      rcases hstored : c.storeText clockMs key (P.codec.encode a) ttl with ⟨cache, result⟩
      rcases hstored' : c'.storeText clockMs key' (P.codec.encode a') ttl with ⟨cache', result'⟩
      obtain ⟨hcache, rfl⟩ : P.Caches cache cache' ∧ result = result' := by
        have hboth := hcaches.storeText hkey hvalue clockMs ttl
        rwa [hstored, hstored'] at hboth
      simp only [Cache.advance, hstored, hstored']
      cases result with
      | ok _ => exact ⟨hcache, .leaving lock? (.success hvalue), rfl⟩
      | error fault =>
          cases fault with
          | beyondClock => exact ⟨hcache, .leaving lock? (.crash _), rfl⟩
          | serialization reason => exact ⟨hcache, .leaving lock? (.success hvalue), rfl⟩
          | zeroTtl => exact ⟨hcache, .leaving lock? (.success hvalue), rfl⟩
          | backend reason => exact ⟨hcache, .leaving lock? (.success hvalue), rfl⟩
  | leaving lock? hresult =>
      cases lock? with
      | none => exact ⟨hcaches, .done hresult, rfl⟩
      | some lock =>
          obtain ⟨hlocks, hhanded⟩ := hcaches.locks.release hkey lock
          exact ⟨⟨hcaches.stores, hcaches.singleFlight, hlocks⟩, .done hresult, hhanded⟩
  | done hresult => exact ⟨hcaches, .done hresult, rfl⟩

/-- Handing in results of loads that correspond leads to phases that correspond. -/
theorem loaded {result result' : Attempt (α × Lifetime)}
    (hresult : Agree (fun x x' => P.value x.1 x'.1 ∧ x.2 = x'.2) result result')
    {phase phase' : Phase α} (hphase : P.Phases phase phase') (key key' : String) :
    P.Phases (Cache.loaded key result phase).1 (Cache.loaded key' result' phase').1 := by
  cases hphase with
  | bare phase hbare =>
      cases phase with
      | loading lock? =>
          cases hresult with
          | @success x x' hvalue =>
              obtain ⟨a, ttl⟩ := x
              obtain ⟨a', ttl'⟩ := x'
              obtain ⟨hvalue, rfl⟩ : P.value a a' ∧ ttl = ttl' := hvalue
              simp only [Cache.loaded]
              split
              · exact .leaving lock? (.success hvalue)
              · exact .storing lock? hvalue ttl
          | failure f => exact .leaving lock? (.failure f)
          | crash text => exact .leaving lock? (.crash text)
      | storing lock? a ttl => exact absurd hbare Bool.false_ne_true
      | leaving lock? x => exact absurd hbare Bool.false_ne_true
      | done x => exact absurd hbare Bool.false_ne_true
      | reading | sweeping | asking | queueing | waiting | rereading | resweeping =>
          exact .bare _ rfl
  | storing lock? hvalue ttl => exact .storing lock? hvalue ttl
  | leaving lock? hresult => exact .leaving lock? hresult
  | done hresult => exact .done hresult

end Pairing
end Cache
end SupplierGateway
