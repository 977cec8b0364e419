import CertGate.Cache
import CertGate.Proofs.AssocList

/-!
# Live entries

A cache drops expired entries only when it comes across them, so caches that answer alike may hold
different entries. What counts is the *live* entry of a key: the stored one, unless it has expired.

## Key results

- `CacheEntry.filter_map_eq_some_iff`: how long a value lives
- `find?_get`, `find?_set`, `find?_evictExpired`: what is stored after each operation
- `get_fst`: reading gives the value of the live entry
- `live?_get`, `live?_evictExpired`: reading and sweeping keep all live entries
- `live?_set`: writing gives one key a new live entry
- `live?_mono`: time takes live entries away and adds none
- `TendedCache.live?_get`, `live?_set`, `live?_advance`: the same with a clock and janitors at work
-/

namespace CertGate

variable {α : Type}

/-- An entry that is `expired` stays so. -/
theorem CacheEntry.expired_mono (e : CacheEntry α) {now later : Instant} (hle : now ≤ later)
    (h : e.expired now = true) : e.expired later = true := by
  simp only [expired, decide_eq_true_eq] at h ⊢
  exact Nat.le_trans h hle

/-- Filtering by a `later` time takes all that filtering by an earlier one does. -/
theorem CacheEntry.filter_mono (entry : Option (CacheEntry α)) {now later : Instant}
    (hle : now ≤ later) : entry.filter (!·.expired later) =
      (entry.filter (!·.expired now)).filter (!·.expired later) := by
  rw [Option.filter_filter]
  congr 1
  funext e
  cases hnow : e.expired now with
  | false => simp
  -- an entry that had expired before has later on
  | true => simp [e.expired_mono hle hnow]

/-- What was written at `t₀` lives as an entry until its deadline, a life time later. -/
theorem CacheEntry.filter_map_eq_some_iff (ttl : Duration) (last : Option (Instant × α))
    (now : Instant) (e : CacheEntry α) :
    (last.map fun w => (⟨w.2, w.1 + ttl.nanos⟩ : CacheEntry α)).filter (!·.expired now) = some e ↔
      ∃ t₀, last = some (t₀, e.value) ∧ e.expiresAt = t₀ + ttl.nanos ∧ now < t₀ + ttl.nanos := by
  simp only [Option.filter_eq_some_iff, Option.map_eq_some_iff, expired, Bool.not_eq_eq_eq_not,
    Bool.not_true, decide_eq_false_iff_not, Nat.not_le]
  constructor
  · rintro ⟨⟨⟨t₀, value⟩, hlast, rfl⟩, hlt⟩
    exact ⟨t₀, hlast, rfl, hlt⟩
  · rintro ⟨t₀, hlast, hexp, hlt⟩
    refine ⟨⟨(t₀, e.value), hlast, ?_⟩, hexp ▸ hlt⟩
    cases e
    cases hexp
    rfl

namespace Cache

/-- The stored entry of a key, unless it has expired by `now`. -/
def live? (c : Cache α) (now : Instant) (key : String) : Option (CacheEntry α) :=
  (c.find? key).filter (!·.expired now)

/-! ## Stored entries -/

theorem find?_erase_self (c : Cache α) (key : String) : (c.erase key).find? key = none :=
  List.lookup_filter_ne_self c.entries key

theorem find?_erase_of_ne (c : Cache α) (key k : String) (h : k ≠ key) :
    (c.erase key).find? k = c.find? k :=
  List.lookup_filter_ne_of_ne c.entries key k h

/-- `evictExpired` keeps exactly the live entries. -/
theorem find?_evictExpired (c : Cache α) (now : Instant) (k : String) :
    (c.evictExpired now).2.find? k = c.live? now k :=
  List.lookup_filter_snd c.entries (!·.expired now) k c.distinct

/-- `set` gives one key a new entry and keeps those of all others. -/
theorem find?_set (c c' : Cache α) (now : Instant) (key k : String) (value : α)
    (h : c.set now key value = .ok c') :
    c'.find? k = if k = key then some ⟨value, now + c.ttl.nanos⟩ else c.find? k := by
  simp only [set] at h
  split at h
  · cases h
    simp only [find?, List.lookup_cons]
    by_cases hk : k = key
    · rw [if_pos hk, hk, beq_self_eq_true]
    · rw [if_neg hk, beq_false_of_ne hk]
      exact c.find?_erase_of_ne key k hk
  · cases h

/-! ## The three outcomes of a read -/

/-- `get` of a key that is not stored is a miss. -/
theorem get_of_absent (c : Cache α) (now : Instant) (key : String) (h : c.find? key = none) :
    c.get now key = (none, { c with misses := c.misses + 1 }) := by
  simp only [get, h]

/-- `get` of an expired entry drops it, and is a miss. -/
theorem get_of_expired (c : Cache α) (now : Instant) (key : String) (e : CacheEntry α)
    (h : c.find? key = some e) (he : e.expired now = true) : c.get now key =
      (none, { c.erase key with misses := c.misses + 1, evictions := c.evictions + 1 }) := by
  simp only [get, h, he, if_true]

/-- `get` of an entry that has not expired gives its value, and is a hit. -/
theorem get_of_fresh (c : Cache α) (now : Instant) (key : String) (e : CacheEntry α)
    (h : c.find? key = some e) (he : e.expired now = false) :
    c.get now key = (some e.value, { c with hits := c.hits + 1 }) := by
  simp only [get, h, he, Bool.false_eq_true, if_false]

/-- `get` leaves under its own key what is live, and other keys alone. -/
theorem find?_get (c : Cache α) (now : Instant) (key k : String) :
    (c.get now key).2.find? k = if k = key then c.live? now key else c.find? k := by
  cases hfind : c.find? key with
  | none =>
    -- nothing is stored, so nothing is dropped
    rw [c.get_of_absent now key hfind, live?, hfind]
    split
    · next hk => exact hk ▸ hfind
    · rfl
  | some e =>
    cases he : e.expired now with
    | true =>
      -- the expired entry goes
      rw [c.get_of_expired now key e hfind he, live?, hfind, Option.filter_some_neg (by simp [he])]
      split
      · next hk => exact hk ▸ c.find?_erase_self key
      · next hk => exact c.find?_erase_of_ne key k hk
    | false =>
      -- the live entry stays
      rw [c.get_of_fresh now key e hfind he, live?, hfind, Option.filter_some_pos (by simp [he])]
      split
      · next hk => exact hk ▸ hfind
      · rfl

/-! ## Live entries over time -/

/-- As time goes on, entries cease to be `live?` and none come. -/
theorem live?_mono (c : Cache α) (k : String) {now later : Instant} (hle : now ≤ later) :
    c.live? later k = (c.live? now k).filter (!·.expired later) :=
  CacheEntry.filter_mono (c.find? k) hle

/-- `get` gives the value of the live entry. -/
theorem get_fst (c : Cache α) (now : Instant) (key : String) :
    (c.get now key).1 = (c.live? now key).map (·.value) := by
  cases hfind : c.find? key with
  | none =>
    rw [c.get_of_absent now key hfind, live?, hfind]
    rfl
  | some e =>
    cases he : e.expired now with
    | true =>
      rw [c.get_of_expired now key e hfind he, live?, hfind, Option.filter_some_neg (by simp [he])]
      rfl
    | false =>
      rw [c.get_of_fresh now key e hfind he, live?, hfind, Option.filter_some_pos (by simp [he])]
      rfl

/-- `get` keeps all live entries, now and later: what it drops has expired. -/
theorem live?_get (c : Cache α) (key k : String) {now later : Instant} (hle : now ≤ later) :
    (c.get now key).2.live? later k = c.live? later k := by
  rw [live?, find?_get]
  by_cases hk : k = key
  · rw [if_pos hk, ← hk, c.live?_mono k hle]
  · rw [if_neg hk, live?]

/-- `evictExpired` keeps all live entries, now and later. -/
theorem live?_evictExpired (c : Cache α) (k : String) {now later : Instant} (hle : now ≤ later) :
    (c.evictExpired now).2.live? later k = c.live? later k := by
  rw [live?, find?_evictExpired, c.live?_mono k hle]

/-- `set` succeeds as long as the deadline can be represented. -/
theorem exists_set_eq_ok (c : Cache α) (now : Instant) (key : String) (value : α)
    (h : now + c.ttl.nanos < Instant.horizon) : ∃ c', c.set now key value = .ok c' := by
  simp only [set, h, if_true]
  exact ⟨_, rfl⟩

/-- `set` gives one key a new live entry and keeps those of all others. -/
theorem live?_set (c c' : Cache α) (now later : Instant) (key k : String) (value : α)
    (h : c.set now key value = .ok c') :
    c'.live? later k =
      if k = key then (some ⟨value, now + c.ttl.nanos⟩ : Option (CacheEntry α)).filter
        (!·.expired later)
      else c.live? later k := by
  rw [live?, c.find?_set c' now key k value h]
  split <;> rfl

/-! ## Life time -/

/-- `get` keeps the life time of entries. -/
@[simp] theorem ttl_get (c : Cache α) (now : Instant) (key : String) :
    (c.get now key).2.ttl = c.ttl := by
  simp only [get]
  split
  · rfl
  · split <;> rfl

/-- `set` keeps the life time of entries. -/
theorem ttl_set (c c' : Cache α) (now : Instant) (key : String) (value : α)
    (h : c.set now key value = .ok c') : c'.ttl = c.ttl := by
  simp only [set] at h
  split at h
  · cases h
    rfl
  · cases h

end Cache

/-! ## With a clock and janitors -/

namespace TendedCache

/-- The live entry of `key` at the present time. -/
def live? (t : TendedCache α) (key : String) : Option (CacheEntry α) :=
  t.cache.live? t.now key

/-- The deadline of an entry that was stored now can be represented: it is before `Instant.horizon`. -/
def CanStore (t : TendedCache α) : Prop :=
  t.now + t.cache.ttl.nanos < Instant.horizon

/-- `get` gives the value of the live entry of the present time. -/
theorem get_fst (t : TendedCache α) (key : String) : (t.get key).1 = (t.live? key).map (·.value) :=
  t.cache.get_fst t.now key

@[simp] theorem now_get (t : TendedCache α) (key : String) : (t.get key).2.now = t.now := rfl

@[simp] theorem ttl_get (t : TendedCache α) (key : String) :
    (t.get key).2.cache.ttl = t.cache.ttl :=
  t.cache.ttl_get t.now key

/-- `get` does not change whether something can be stored. -/
theorem canStore_get (t : TendedCache α) (key : String) : (t.get key).2.CanStore ↔ t.CanStore := by
  rw [CanStore, CanStore, now_get, ttl_get]

/-- `get` keeps all live entries. -/
theorem live?_get (t : TendedCache α) (key k : String) : (t.get key).2.live? k = t.live? k :=
  t.cache.live?_get key k (Nat.le_refl t.now)

/-- `TendedCache.set` is `Cache.set` at the present time. -/
theorem cache_set_eq_ok (t t' : TendedCache α) (key : String) (value : α)
    (h : t.set key value = .ok t') :
    t.cache.set t.now key value = .ok t'.cache ∧ t'.now = t.now := by
  simp only [set, bind, Except.bind] at h
  split at h
  · cases h
  · next c' hset =>
    cases h
    exact ⟨hset, rfl⟩

/-- What `set` leaves: the clock and the life time as they are, and one key with a new entry. -/
theorem set_eq_ok (t t' : TendedCache α) (key : String) (value : α) (h : t.set key value = .ok t') :
    t'.now = t.now ∧ t'.cache.ttl = t.cache.ttl ∧
      ∀ k, t'.live? k =
        if k = key then (some ⟨value, t.now + t.cache.ttl.nanos⟩ : Option (CacheEntry α)).filter
          (!·.expired t.now)
        else t.live? k := by
  obtain ⟨hset, hnow⟩ := t.cache_set_eq_ok t' key value h
  refine ⟨hnow, t.cache.ttl_set t'.cache t.now key value hset, fun k => ?_⟩
  rw [live?, hnow]
  exact t.cache.live?_set t'.cache t.now t.now key k value hset

/-- `set` succeeds while the deadline can be represented. -/
theorem exists_set_eq_ok (t : TendedCache α) (key : String) (value : α) (h : t.CanStore) :
    ∃ t', t.set key value = .ok t' := by
  obtain ⟨c', hset⟩ := t.cache.exists_set_eq_ok t.now key value h
  exact ⟨{ t with cache := c' }, by simp [set, hset, bind, Except.bind, pure, Except.pure]⟩

/-- `set` fails if the deadline cannot be represented. -/
theorem set_of_not_canStore (t : TendedCache α) (key : String) (value : α) (h : ¬t.CanStore) :
    t.set key value = .error .deadlineOverflow := by
  have hlt : ¬t.now + t.cache.ttl.nanos < Instant.horizon := h
  simp only [set, Cache.set, if_neg hlt]
  rfl

@[simp] theorem ttl_advance (t : TendedCache α) (span : Duration) :
    (t.advance span).cache.ttl = t.cache.ttl := by
  simp only [advance]
  split <;> rfl

/-- `advance` takes live entries away and adds none, whether a janitor sweeps or not. -/
theorem live?_advance (t : TendedCache α) (span : Duration) (k : String) :
    (t.advance span).live? k = (t.live? k).filter (!·.expired (t.now + span.nanos)) := by
  have hle : t.now ≤ t.now + span.nanos := Nat.le_add_right _ _
  have hmono := t.cache.live?_mono k hle
  simp only [live?, advance]
  split
  · -- a janitor with a due tick sweeps at the new time
    rw [t.cache.live?_evictExpired k (Nat.le_refl _), hmono]
  · exact hmono

end TendedCache

end CertGate
