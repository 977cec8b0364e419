import CertGate.Proofs.LiveEntries

/-!
# A cache at work

What is done to a cache step by step: reads and writes, sweeps, time that passes, and janitors that are
started and sent home. A step that writes gives one key a new entry. All that any other step does to
the entries is to drop some that have expired, and to count each of them once.

## Key results

- `Cache.drops_get`, `Cache.drops_evictExpired`: reading and sweeping drop expired entries
- `TendedCache.drops_step`, `live?_step_of_some`: what a step does that writes nothing, or something
- `TendedCache.alike_step`, `alike_run`: caches that agree on one key go on to answer alike for it
- `TendedCache.get_run_of_key_ne`: a step on one key changes no later read of another
-/

namespace CertGate

variable {α : Type}

namespace Cache

/-! ## Dropping expired entries -/

/-- `c'` is `c` without some of the entries that have expired by `now`, each of them counted as
evicted. -/
structure Drops (c : Cache α) (now : Instant) (c' : Cache α) : Prop where
  ttl_eq : c'.ttl = c.ttl
  find : ∀ k, c'.find? k = c.find? k ∨ c'.find? k = c.live? now k
  counted : c'.entries.length + c'.evictions = c.entries.length + c.evictions

theorem drops_refl (c : Cache α) (now : Instant) : c.Drops now c where
  ttl_eq := rfl
  find _ := Or.inl rfl
  counted := rfl

/-- `erase` takes one entry of a key that is stored. -/
theorem length_erase (c : Cache α) (key : String) (e : CacheEntry α) (h : c.find? key = some e) :
    (c.erase key).entries.length + 1 = c.entries.length :=
  List.length_filter_ne_of_lookup_eq_some c.entries key e c.distinct h

/-- `erase` takes nothing of a key that is not stored. -/
theorem length_erase_of_absent (c : Cache α) (key : String) (h : c.find? key = none) :
    (c.erase key).entries.length = c.entries.length :=
  congrArg List.length (List.filter_ne_of_lookup_eq_none c.entries key h)

/-- `get` drops an entry at most, and only one that has expired. -/
theorem drops_get (c : Cache α) (now : Instant) (key : String) : c.Drops now (c.get now key).2 where
  ttl_eq := c.ttl_get now key
  find k := by
    rw [find?_get]
    by_cases hk : k = key
    · -- under its own key `get` leaves what is live
      exact Or.inr (by rw [if_pos hk, hk])
    · exact Or.inl (if_neg hk)
  counted := by
    cases hfind : c.find? key with
    | none => rw [c.get_of_absent now key hfind]
    | some e =>
      cases he : e.expired now with
      | true =>
        have hlength := c.length_erase key e hfind
        rw [c.get_of_expired now key e hfind he]
        -- one entry less is stored and one more is counted
        show (c.erase key).entries.length + (c.evictions + 1) = c.entries.length + c.evictions
        omega
      | false => rw [c.get_of_fresh now key e hfind he]

/-- `evictExpired` drops all entries that have expired. -/
theorem drops_evictExpired (c : Cache α) (now : Instant) : c.Drops now (c.evictExpired now).2 where
  ttl_eq := rfl
  find k := Or.inr (c.find?_evictExpired now k)
  counted := by
    have hle := List.length_filter_le (fun p => !p.2.expired now) c.entries
    simp only [evictExpired]
    omega

/-- `get` counts one hit, if it gives a value, or else one miss. -/
theorem counters_get (c : Cache α) (now : Instant) (key : String) :
    (c.get now key).2.hits = c.hits + (if (c.get now key).1.isSome then 1 else 0) ∧
      (c.get now key).2.hits + (c.get now key).2.misses = c.hits + c.misses + 1 := by
  cases hfind : c.find? key with
  | none =>
    rw [c.get_of_absent now key hfind]
    exact ⟨rfl, rfl⟩
  | some e =>
    cases he : e.expired now with
    | true =>
      rw [c.get_of_expired now key e hfind he]
      exact ⟨rfl, rfl⟩
    | false =>
      rw [c.get_of_fresh now key e hfind he]
      refine ⟨rfl, ?_⟩
      show c.hits + 1 + c.misses = c.hits + c.misses + 1
      omega

/-- `set` counts nothing, and adds an entry if there was none of the key. -/
theorem counters_set (c c' : Cache α) (now : Instant) (key : String) (value : α)
    (h : c.set now key value = .ok c') :
    c'.hits = c.hits ∧ c'.misses = c.misses ∧ c'.evictions = c.evictions ∧
      c'.entries.length = c.entries.length + (if (c.find? key).isNone then 1 else 0) := by
  simp only [set] at h
  split at h
  · cases h
    refine ⟨rfl, rfl, rfl, ?_⟩
    show (c.erase key).entries.length + 1 = _
    cases hfind : c.find? key with
    -- the new entry is one more
    | none =>
      have hlength := c.length_erase_of_absent key hfind
      simp [hlength]
    -- the new entry stands in for the old one
    | some e =>
      have hlength := c.length_erase key e hfind
      simp [hlength]
  · cases h

/-- `Drops` takes no live entry. -/
theorem Drops.live {c c' : Cache α} {now : Instant} (h : c.Drops now c') (k : String) :
    c'.live? now k = c.live? now k := by
  obtain hsame | hlive := h.find k
  · rw [live?, hsame, live?]
  · rw [live?, hlive, ← c.live?_mono k (Nat.le_refl now)]

end Cache

namespace TendedCache

/-! ## Steps -/

/-- Something that is done to a `TendedCache`. -/
inductive Step (α : Type) where
  | get (key : String)
  | set (key : String) (value : α)
  | evict
  | advance (span : Duration)
  | startJanitor (interval : Duration)
  | shutdown

/-- The key that a step is about, for `get` and `set`. -/
def Step.key? : Step α → Option String
  | get key => some key
  | set key _ => some key
  | _ => none

/-- The time that a step takes. Only `advance` takes any. -/
def Step.nanos : Step α → Nat
  | advance span => span.nanos
  | _ => 0

/-- The cache after a step. A `set` that fails changes nothing. -/
def step (t : TendedCache α) : Step α → TendedCache α
  | .get key => (t.get key).2
  | .set key value =>
    match t.set key value with
    | .ok t' => t'
    | .error _ => t
  | .evict => t.evictExpired.2
  | .advance span => t.advance span
  | .startJanitor interval => (t.startJanitor interval).2
  | .shutdown => t.shutdown.2

/-- The cache after some steps, one `step` after the other. -/
def run (t : TendedCache α) (steps : List (Step α)) : TendedCache α :=
  steps.foldl step t

/-- The key that a step writes and its new value. Nothing is written by a `set` that fails. -/
def written? (t : TendedCache α) : Step α → Option (String × α)
  | .set key value =>
    match t.set key value with
    | .ok _ => some (key, value)
    | .error _ => none
  | _ => none

variable (t : TendedCache α)

/-! ## Writes -/

theorem written?_set_of_canStore (key : String) (value : α) (h : t.CanStore) :
    t.written? (.set key value) = some (key, value) := by
  obtain ⟨t', hset⟩ := t.exists_set_eq_ok key value h
  simp only [written?, hset]

theorem written?_set_of_not_canStore (key : String) (value : α) (h : ¬t.CanStore) :
    t.written? (.set key value) = none := by
  simp only [written?, t.set_of_not_canStore key value h]

/-- A `set` that fails leaves everything as it was. -/
theorem step_set_of_not_canStore (key : String) (value : α) (h : ¬t.CanStore) :
    t.step (.set key value) = t := by
  simp only [step, t.set_of_not_canStore key value h]

/-- A step that writes is a `set` that succeeds. -/
theorem set_of_written? (st : Step α) (key : String) (value : α)
    (h : t.written? st = some (key, value)) :
    st = .set key value ∧ t.set key value = .ok (t.step st) := by
  cases st with
  | set k v =>
    simp only [written?] at h
    split at h
    · next t' hset =>
      cases h
      exact ⟨rfl, by simp only [step, hset]⟩
    · cases h
  | _ => cases h

/-- What a step writes, as told by `written?`, hangs on the clock and the life time of entries alone. -/
theorem written?_congr (t t' : TendedCache α) (hnow : t.now = t'.now)
    (httl : t.cache.ttl = t'.cache.ttl) (st : Step α) : t.written? st = t'.written? st := by
  cases st with
  | set key value =>
    have hfits : t.CanStore ↔ t'.CanStore := by rw [CanStore, CanStore, hnow, httl]
    by_cases hfit : t.CanStore
    · rw [t.written?_set_of_canStore key value hfit,
        t'.written?_set_of_canStore key value (hfits.1 hfit)]
    · rw [t.written?_set_of_not_canStore key value hfit,
        t'.written?_set_of_not_canStore key value (fun h => hfit (hfits.2 h))]
  | _ => rfl

/-! ## What a step does -/

/-- `step` moves the clock on by the time that the step takes. -/
theorem now_step (st : Step α) : (t.step st).now = t.now + st.nanos := by
  cases st with
  | set key value =>
    simp only [step]
    split
    · next t' hset => exact (t.set_eq_ok t' key value hset).1
    · rfl
  | startJanitor interval =>
    simp only [step, startJanitor]
    split <;> rfl
  | _ => rfl

theorem now_le_step (st : Step α) : t.now ≤ (t.step st).now := by
  rw [now_step]
  exact Nat.le_add_right _ _

/-- A step that writes takes no time and gives `key` a new entry. -/
theorem step_of_some (st : Step α) (key : String) (value : α)
    (h : t.written? st = some (key, value)) :
    t.cache.set t.now key value = .ok (t.step st).cache ∧ (t.step st).now = t.now := by
  obtain ⟨-, hset⟩ := t.set_of_written? st key value h
  exact t.cache_set_eq_ok _ key value hset

/-- A step that writes nothing `Drops` expired entries at most. -/
theorem drops_step (st : Step α) (h : t.written? st = none) :
    t.cache.Drops (t.step st).now (t.step st).cache := by
  cases st with
  | get key => exact t.cache.drops_get t.now key
  | set key value =>
    -- a write that succeeds would have been written
    have hfit : ¬t.CanStore := by
      intro hfit
      rw [t.written?_set_of_canStore key value hfit] at h
      cases h
    rw [t.step_set_of_not_canStore key value hfit]
    exact t.cache.drops_refl t.now
  | evict => exact t.cache.drops_evictExpired t.now
  | advance span =>
    simp only [step, advance]
    split
    · -- a janitor sweeps
      exact t.cache.drops_evictExpired _
    · exact t.cache.drops_refl _
  | startJanitor interval =>
    simp only [step, startJanitor]
    split
    · -- an interval of zero starts none, any other sweeps at once
      exact t.cache.drops_refl _
    · exact t.cache.drops_evictExpired t.now
  | shutdown => exact t.cache.drops_refl t.now

/-- No step changes `ttl`, the life time of entries. -/
theorem ttl_step (st : Step α) : (t.step st).cache.ttl = t.cache.ttl := by
  cases hwritten : t.written? st with
  | none => exact (t.drops_step st hwritten).ttl_eq
  | some kv =>
    obtain ⟨hset, -⟩ := t.step_of_some st kv.1 kv.2 hwritten
    exact t.cache.ttl_set _ t.now kv.1 kv.2 hset

/-- A step that writes nothing keeps all entries of `live?` that have not expired by its end. -/
theorem live?_step_of_none (st : Step α) (h : t.written? st = none) (k : String) :
    (t.step st).live? k = (t.live? k).filter (!·.expired (t.step st).now) := by
  rw [live?, (t.drops_step st h).live k, t.cache.live?_mono k (t.now_le_step st), live?]

/-- A step that writes gives `key` a new live entry, and keeps those of all others. -/
theorem live?_step_of_some (st : Step α) (key : String) (value : α)
    (h : t.written? st = some (key, value)) (k : String) :
    (t.step st).live? k =
      if k = key then (some ⟨value, t.now + t.cache.ttl.nanos⟩ : Option (CacheEntry α)).filter
        (!·.expired t.now)
      else t.live? k := by
  obtain ⟨-, hset⟩ := t.set_of_written? st key value h
  exact (t.set_eq_ok _ key value hset).2.2 k

/-! ## Caches that answer alike -/

/-- Two caches that `get` of this key cannot tell apart, now or later. -/
structure AlikeAt (k : String) (t t' : TendedCache α) : Prop where
  now_eq : t.now = t'.now
  ttl_eq : t.cache.ttl = t'.cache.ttl
  live_eq : t.live? k = t'.live? k

theorem AlikeAt.get_eq {k : String} {t t' : TendedCache α} (h : AlikeAt k t t') :
    (t.get k).1 = (t'.get k).1 := by
  rw [get_fst, get_fst, h.live_eq]

/-- Caches that cannot be told apart still cannot after one `step`. -/
theorem alike_step (k : String) (t t' : TendedCache α) (h : AlikeAt k t t') (st : Step α) :
    AlikeAt k (t.step st) (t'.step st) where
  now_eq := by rw [now_step, now_step, h.now_eq]
  ttl_eq := by rw [ttl_step, ttl_step, h.ttl_eq]
  live_eq := by
    -- either both write or neither does, and what is written has the same deadline
    have hwritten := written?_congr t t' h.now_eq h.ttl_eq st
    cases hw : t.written? st with
    | none =>
      rw [t.live?_step_of_none st hw, t'.live?_step_of_none st (hwritten ▸ hw), now_step, now_step,
        h.now_eq, h.live_eq]
    | some kv =>
      rw [t.live?_step_of_some st kv.1 kv.2 hw, t'.live?_step_of_some st kv.1 kv.2 (hwritten ▸ hw),
        h.now_eq, h.ttl_eq, h.live_eq]

/-- Caches that cannot be told apart, by `AlikeAt`, cannot after any run either. -/
theorem alike_run (k : String) (t t' : TendedCache α) (h : AlikeAt k t t') (steps : List (Step α)) :
    AlikeAt k (t.run steps) (t'.run steps) := by
  induction steps generalizing t t' with
  | nil => exact h
  | cons st steps ih => exact ih (t.step st) (t'.step st) (alike_step k t t' h st)

/-- A step on key `j` cannot be noticed by another key `k`. -/
theorem alike_of_key_ne (k j : String) (st : Step α) (hj : st.key? = some j) (hne : j ≠ k) :
    AlikeAt k (t.step st) t := by
  have hnanos : st.nanos = 0 := by
    cases st with
    | advance span => cases hj
    | _ => rfl
  constructor
  case now_eq => rw [now_step, hnanos, Nat.add_zero]
  case ttl_eq => exact t.ttl_step st
  case live_eq =>
    cases hw : t.written? st with
    | none =>
      -- what a read drops was not live
      rw [t.live?_step_of_none st hw, now_step, hnanos, Nat.add_zero]
      exact (t.cache.live?_mono k (Nat.le_refl t.now)).symm
    | some kv =>
      -- a write makes an entry of its own key only
      obtain ⟨rfl, -⟩ := t.set_of_written? st kv.1 kv.2 hw
      have hk : k ≠ kv.1 := fun heq => hne ((Option.some.inj hj).symm.trans heq.symm)
      rw [t.live?_step_of_some _ kv.1 kv.2 hw, if_neg hk]

/-- A step on one key changes no later `get` of another. -/
theorem get_run_of_key_ne (k j : String) (st : Step α) (hj : st.key? = some j) (hne : j ≠ k)
    (later : List (Step α)) : (((t.step st).run later).get k).1 = ((t.run later).get k).1 :=
  (alike_run k _ _ (t.alike_of_key_ne k j st hj hne) later).get_eq

end TendedCache

end CertGate
