import SupplierGateway.Cache.Callers
import SupplierGateway.Proofs.Compression.RoundTrip
import SupplierGateway.Proofs.Text.Bytes

/-!
# The entries of a store

The bytes under a key are those that were put there last.  As long as all of them were written as
values of one type, a read of a live entry hits.

* `Codec.Readable` — all bytes that a store has under a key were written as a value;
* `Backend.store_cases` — storing puts bytes under their key or does not change the entries;
* `beyondClock_of_storeText` — storing crashes only if the expiry lies beyond the clock;
* `phase_storing` — otherwise the result of a lookup does not depend on that of storing;
* `mem_of_mem_advance` — the entries after a turn of a lookup;
* `readable_advance` — a turn of a lookup stores only bytes that can be read;
* `entry_of_glance` — a value that a read hits is read from an entry of the key;
* `glance_of_alive` — reading a live entry that was written as a value hits.
-/

namespace SupplierGateway
namespace Cache

variable {α : Type}

/-- Values that were written can be read. -/
def Codec.Faithful (codec : Codec α) : Prop :=
  ∀ a text, codec.encode a = .ok text → (codec.decode text).isSome

/-- Bytes that a value was written as. -/
def Codec.Wrote (codec : Codec α) (bytes : List UInt8) : Prop :=
  ∃ a text, codec.encode a = .ok text ∧ bytes = Compression.compress text.toUTF8.data.toList

/-- All bytes that a store has under a key were written as a value. -/
def Codec.Readable (codec : Codec α) (backend : Backend) (key : String) : Prop :=
  ∀ entry, (key, entry) ∈ backend.entries → codec.Wrote entry.bytes

/-- Reading the compressed form of a text has the result of reading the text. -/
theorem readBytes_compress (codec : Codec α) (key text : String) :
    (readBytes codec key (Compression.compress text.toUTF8.data.toList)).1 = codec.decode text := by
  have hplain := Compression.decompress_compress text.toUTF8.data.toList
  have hread := Text.fromUTF8?_bytes text
  simp only [readBytes, hplain, hread, Option.bind_some]
  cases codec.decode text <;> rfl

/-- Bytes that were written as a value are read as a value. -/
theorem readBytes_of_wrote {codec : Codec α} (hcodec : codec.Faithful) {bytes : List UInt8}
    (hwrote : codec.Wrote bytes) (key : String) :
    ∃ a entry, readBytes codec key bytes = (some a, entry) := by
  obtain ⟨a, text, htext, rfl⟩ := hwrote
  obtain ⟨b, hb⟩ := Option.isSome_iff_exists.mp (hcodec a text htext)
  have hplain := Compression.decompress_compress text.toUTF8.data.toList
  have hread := Text.fromUTF8?_bytes text
  refine ⟨b, keyEntry .debug "credential cache hit" key, ?_⟩
  simp only [readBytes, hplain, hread, Option.bind_some, hb]

/-- The expiry of an entry that is stored for a length of time lies beyond the clock. -/
def BeyondClock (clockMs : Nat) (ttl : Lifetime) : Prop :=
  lastSecond < (clockNanos clockMs + ttl.toNanos) / 1000000000

/-- An expiry that lies beyond the clock does so at all later times. -/
theorem BeyondClock.mono {clockMs later : Nat} {ttl : Lifetime} (hbeyond : BeyondClock clockMs ttl)
    (hlater : clockMs ≤ later) : BeyondClock later ttl := by
  have hnanos : clockNanos clockMs ≤ clockNanos later := Nat.mul_le_mul_right 1000000 hlater
  exact Nat.lt_of_lt_of_le hbeyond (Nat.div_le_div_right (Nat.add_le_add_right hnanos _))

namespace Backend

/-- The entry that a lookup of a key gives is one of the store. -/
theorem mem_of_get? {b : Backend} {key : String} {entry : Entry} (hget : b.get? key = some entry) :
    (key, entry) ∈ b.entries := by
  obtain ⟨before, after, hentries, -⟩ := List.lookup_eq_some_iff.mp hget
  rw [hentries]
  simp

/-- Sweeping a store gives no new entries. -/
theorem mem_of_mem_sweep {b : Backend} {clockMs : Nat} {key : String} {entry : String × Entry}
    (hentry : entry ∈ (b.sweep clockMs key).entries) : entry ∈ b.entries := by
  unfold sweep at hentry
  split at hentry
  · split at hentry
    · exact (List.mem_filter.mp hentry).1
    · exact hentry
  · exact hentry

/-- Bytes are put under their key, or there is a fault. -/
theorem insert_cases (b : Backend) (clockMs : Nat) (key : String) (bytes : List UInt8)
    (ttl : Lifetime) :
    (∃ expiresAt, b.insert clockMs key bytes ttl = .ok (b.put key { bytes, expiresAt })) ∨
      ∃ fault, b.insert clockMs key bytes ttl = .error fault ∧
        (fault = .beyondClock → BeyondClock clockMs ttl) := by
  unfold insert
  split
  · exact .inr ⟨.zeroLifetime, rfl, nofun⟩
  · simp only
    split
    · exact .inl ⟨_, rfl⟩
    · next hbeyond => exact .inr ⟨.beyondClock, rfl, fun _ => Nat.lt_of_not_le hbeyond⟩

/-- Bytes are put under their key, or there is a fault and the entries do not change. -/
theorem store_cases (b : Backend) (clockMs : Nat) (key : String) (bytes : List UInt8)
    (ttl : Lifetime) :
    (∃ expiresAt, b.store clockMs key bytes ttl =
      (({ b with stores := b.stores + 1 } : Backend).put key { bytes, expiresAt }, .ok ())) ∨
    ∃ fault, b.store clockMs key bytes ttl = ({ b with stores := b.stores + 1 }, .error fault) ∧
      (fault = .beyondClock → BeyondClock clockMs ttl) := by
  unfold store
  split
  · exact .inr ⟨.refused, rfl, nofun⟩
  · rcases ({ b with stores := b.stores + 1 } : Backend).insert_cases clockMs key bytes ttl with
      ⟨expiresAt, hinsert⟩ | ⟨fault, hinsert, hbeyond⟩
    · exact .inl ⟨expiresAt, by simp only [hinsert]⟩
    · exact .inr ⟨fault, by simp only [hinsert], hbeyond⟩

/-- The entries after bytes were stored are the new one and old ones. -/
theorem mem_of_mem_store {b : Backend} {clockMs : Nat} {key : String} {bytes : List UInt8}
    {ttl : Lifetime} {entry : String × Entry}
    (hentry : entry ∈ (b.store clockMs key bytes ttl).1.entries) :
    (entry.1 = key ∧ entry.2.bytes = bytes) ∨ entry ∈ b.entries := by
  rcases b.store_cases clockMs key bytes ttl with ⟨expiresAt, hstore⟩ | ⟨fault, hstore, -⟩
  · rw [hstore] at hentry
    rcases List.mem_cons.mp hentry with rfl | hold
    · exact .inl ⟨rfl, rfl⟩
    · exact .inr (List.mem_filter.mp hold).1
  · rw [hstore] at hentry
    exact .inr hentry

/-- After bytes were stored under a key, the store has no others under it. -/
theorem bytes_of_mem_store {b : Backend} {clockMs : Nat} {key : String} {bytes : List UInt8}
    {ttl : Lifetime} (hstored : (b.store clockMs key bytes ttl).2 = .ok ()) {entry : Entry}
    (hentry : (key, entry) ∈ (b.store clockMs key bytes ttl).1.entries) :
    entry.bytes = bytes := by
  rcases b.store_cases clockMs key bytes ttl with ⟨expiresAt, hstore⟩ | ⟨fault, hstore, -⟩
  · rw [hstore] at hentry
    rcases List.mem_cons.mp hentry with hnew | hold
    · rw [(Prod.mk.inj hnew).2]
    · exact absurd rfl (bne_iff_ne.mp (List.mem_filter.mp hold).2)
  · rw [hstore] at hstored
    exact nomatch hstored

end Backend

/-- Storing crashes only if the expiry lies beyond the clock. -/
theorem beyondClock_of_storeText {c c' : Cache} {clockMs : Nat} {key : String}
    {text : Except String String} {ttl : Lifetime}
    (hfault : c.storeText clockMs key text ttl = (c', .error .beyondClock)) :
    BeyondClock clockMs ttl := by
  unfold storeText at hfault
  split at hfault
  · exact nomatch hfault
  · next text =>
    rcases c.backend.store_cases clockMs key (Compression.compress text.toUTF8.data.toList) ttl with
      ⟨expiresAt, hstore⟩ | ⟨fault, hstore, hbeyond⟩
    · simp only [hstore] at hfault
      exact nomatch (Prod.mk.inj hfault).2
    · simp only [hstore] at hfault
      refine hbeyond ?_
      cases fault with
      | beyondClock => rfl
      | zeroLifetime => exact nomatch (Prod.mk.inj hfault).2
      | refused => exact nomatch (Prod.mk.inj hfault).2

/-- The result of a lookup that stores a value is the value, for any result of storing, unless the
expiry lies beyond the clock. -/
theorem phase_storing (codec : Codec α) (c : Cache) {clockMs : Nat} (who : Nat) (key : String)
    (lock? : Option Nat) (a : α) {ttl : Lifetime} (hbeyond : ¬ BeyondClock clockMs ttl) :
    (c.advance codec clockMs who key (.storing lock? a ttl)).phase =
      .leaving lock? (.success a) := by
  simp only [advance]
  split
  · rfl
  · next hfault => exact absurd (beyondClock_of_storeText hfault) hbeyond
  · rfl

/-- An entry of a store after a value was stored was there before, or has the text that the value
was written as. -/
theorem mem_of_mem_storeText {c : Cache} {clockMs : Nat} {key : String}
    {written : Except String String} {ttl : Lifetime} {entry : String × Entry}
    (hentry : entry ∈ (c.storeText clockMs key written ttl).1.backend.entries) :
    entry ∈ c.backend.entries ∨ entry.1 = key ∧ ∃ text, written = .ok text ∧
      entry.2.bytes = Compression.compress text.toUTF8.data.toList := by
  unfold storeText at hentry
  split at hentry
  · exact .inl hentry
  · next text =>
    rcases Backend.mem_of_mem_store hentry with ⟨hkey, hbytes⟩ | hold
    · exact .inr ⟨hkey, text, rfl, hbytes⟩
    · exact .inl hold

/-- A text that was stored was written as a value. -/
theorem readable_storeText {codec : Codec α} {c : Cache} {key : String}
    (hreadable : codec.Readable c.backend key) (clockMs : Nat) (other : String) (a : α)
    (ttl : Lifetime) :
    codec.Readable (c.storeText clockMs other (codec.encode a) ttl).1.backend key := by
  intro entry hentry
  rcases mem_of_mem_storeText hentry with hold | ⟨-, text, htext, hbytes⟩
  · exact hreadable entry hold
  · exact ⟨a, text, htext, hbytes⟩

/-- After a value was stored under a key, all bytes under the key can be read. -/
theorem readable_of_stored {codec : Codec α} {c : Cache} {clockMs : Nat} {key : String} {a : α}
    {ttl : Lifetime} (hstored : (c.storeText clockMs key (codec.encode a) ttl).2 = .ok ()) :
    codec.Readable (c.storeText clockMs key (codec.encode a) ttl).1.backend key := by
  unfold storeText at hstored ⊢
  split at hstored
  · exact nomatch hstored
  · next text htext =>
    intro entry hentry
    refine ⟨a, text, htext, Backend.bytes_of_mem_store ?_ hentry⟩
    cases hstore : (c.backend.store clockMs key (Compression.compress text.toUTF8.data.toList)
      ttl).2 with
    | ok => rfl
    | error fault =>
        simp only [hstore] at hstored
        exact nomatch hstored

/-- An entry of a store after a turn of a lookup was there before, or has the text that the value of
the lookup was written as. -/
theorem mem_of_mem_advance {codec : Codec α} {clockMs who : Nat} {key : String} {c : Cache}
    {phase : Phase α} {entry : String × Entry}
    (hentry : entry ∈ (c.advance codec clockMs who key phase).cache.backend.entries) :
    entry ∈ c.backend.entries ∨ entry.1 = key ∧ ∃ lock? a ttl text,
      phase = .storing lock? a ttl ∧ codec.encode a = .ok text ∧
      entry.2.bytes = Compression.compress text.toUTF8.data.toList := by
  cases phase with
  | reading =>
      simp only [advance] at hentry
      split at hentry <;> exact .inl hentry
  | rereading lock =>
      simp only [advance] at hentry
      split at hentry <;> exact .inl hentry
  | waiting lock =>
      simp only [advance] at hentry
      split at hentry <;> exact .inl hentry
  | storing lock? a ttl =>
      have hstore : entry ∈
          (c.storeText clockMs key (codec.encode a) ttl).1.backend.entries := by
        simp only [advance] at hentry
        split at hentry
        · next hstored => rw [hstored]; exact hentry
        · next hstored => rw [hstored]; exact hentry
        · next hstored => rw [hstored]; exact hentry
      rcases mem_of_mem_storeText hstore with hold | ⟨hkey, text, htext, hbytes⟩
      · exact .inl hold
      · exact .inr ⟨hkey, lock?, a, ttl, text, rfl, htext, hbytes⟩
  | leaving lock? result => cases lock? <;> exact .inl hentry
  | sweeping | resweeping => exact .inl (Backend.mem_of_mem_sweep hentry)
  | asking | queueing | loading | done => exact .inl hentry

/-- A turn of a lookup stores only bytes that can be read. -/
theorem readable_advance {codec : Codec α} {c : Cache} {key : String}
    (hreadable : codec.Readable c.backend key) (clockMs who : Nat) (other : String)
    (phase : Phase α) :
    codec.Readable (c.advance codec clockMs who other phase).cache.backend key := by
  intro entry hentry
  rcases mem_of_mem_advance hentry with hold | ⟨-, _, a, _, text, -, htext, hbytes⟩
  · exact hreadable entry hold
  · exact ⟨a, text, htext, hbytes⟩

/-! ## Reading -/

/-- A value that a read hits was read from the bytes of an entry of the key. -/
theorem entry_of_glance {codec : Codec α} {c : Cache} {clockMs : Nat} {key : String} {a : α}
    {lines : List LogEntry} (hglance : c.glance codec clockMs key = (.hit a, lines)) :
    ∃ entry, (key, entry) ∈ c.backend.entries ∧ (readBytes codec key entry.bytes).1 = some a := by
  cases hlook : c.backend.look clockMs key with
  | absent | expired | refused =>
      simp only [glance, hlook] at hglance
      cases hglance
  | alive bytes =>
      have hread : (readBytes codec key bytes).1 = some a := by
        simp only [glance, hlook] at hglance
        split at hglance
        · next found line hread =>
          cases hglance
          rw [hread]
        · cases hglance
      have hentry : ∃ entry, c.backend.get? key = some entry ∧ entry.bytes = bytes := by
        unfold Backend.look at hlook
        split at hlook
        · cases hlook
        · split at hlook
          · cases hlook
          · next entry hget =>
            split at hlook
            · exact ⟨entry, hget, Found.alive.inj hlook⟩
            · cases hlook
      obtain ⟨entry, hget, rfl⟩ := hentry
      exact ⟨entry, Backend.mem_of_get? hget, hread⟩

/-- The store can be read and has a live entry under a key. -/
def Backend.Alive (b : Backend) (clockMs : Nat) (key : String) : Prop :=
  b.refusesFetch = false ∧
    ∃ entry, b.get? key = some entry ∧ clockNanos clockMs < entry.expiresAt

/-- Reading a live entry that was written as a value hits. -/
theorem glance_of_alive {codec : Codec α} (hcodec : codec.Faithful) {c : Cache} {clockMs : Nat}
    {key : String} (hreadable : codec.Readable c.backend key)
    (halive : c.backend.Alive clockMs key) :
    ∃ a entries, c.glance codec clockMs key = (.hit a, entries) := by
  obtain ⟨hfetch, entry, hget, hclock⟩ := halive
  have hlook : c.backend.look clockMs key = .alive entry.bytes := by
    simp [Backend.look, hfetch, hget, hclock]
  obtain ⟨a, line, hread⟩ :=
    readBytes_of_wrote hcodec (hreadable entry (Backend.mem_of_get? hget)) key
  exact ⟨a, [line], by simp only [glance, hlook, hread]⟩

end Cache
end SupplierGateway
