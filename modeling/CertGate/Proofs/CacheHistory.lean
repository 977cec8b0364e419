import CertGate.Proofs.CacheSteps

/-!
# The history of a cache

A cache behaves as a map of timed values: what a key gives is what was last written to it, for as long
as a value lives. The steps of a run are recorded together with the states in which they were taken.
What was written last, what reads gave and which writes found their key absent is read off this record,
and the entries and counters of the cache are compared to it.

## Key results

- `tracks_run`: the stored entries are of the latest writes, and only what has expired is missing
- `balanced_run`: the counters and the number of entries add up to what is recorded
- `timedMap_run`: reads, sweeps and statistics of a cache after any run
-/

namespace CertGate.TendedCache

variable {α : Type}

/-! ## Records -/

/-- A `Step`, and the cache it was taken with. -/
structure Deed (α : Type) where
  before : TendedCache α
  step : Step α

namespace Deed

/-- The value that a step wrote to key `k`, and when. -/
def written? (d : Deed α) (k : String) : Option (Instant × α) :=
  match d.before.written? d.step with
  | some (key, value) => if key = k then some (d.before.now, value) else none
  | none => none

/-- The step was a `get`. -/
def reads (d : Deed α) : Bool :=
  match d.step with
  | .get _ => true
  | _ => false

/-- The step was a `get` that gave a value. -/
def finds (d : Deed α) : Bool :=
  match d.step with
  | .get key => (d.before.get key).1.isSome
  | _ => false

/-- The step wrote a key that `before` had no entry for. -/
def adds (d : Deed α) : Bool :=
  match d.before.written? d.step with
  | some (key, _) => (d.before.cache.find? key).isNone
  | none => false

end Deed

/-- The latest value that was `written?` to key `k`, and when. A record has the latest deed first. -/
def lastWritten? (record : List (Deed α)) (k : String) : Option (Instant × α) :=
  record.findSome? (·.written? k)

/-- A `TendedCache`, and every `Deed` on it so far, the latest first. -/
structure Session (α : Type) where
  tended : TendedCache α
  record : List (Deed α) := []

namespace Session

/-- An empty cache without janitors, to which nothing was done: its `record` is empty. -/
def start (ttl : Duration) (now : Instant) : Session α :=
  ⟨{ cache := { ttl }, now }, []⟩

/-- Takes one step, and puts it into the `record` together with the cache before it. -/
def step (s : Session α) (st : Step α) : Session α :=
  ⟨s.tended.step st, ⟨s.tended, st⟩ :: s.record⟩

/-- Takes one `Step` after the other. -/
def run (s : Session α) (steps : List (Step α)) : Session α :=
  steps.foldl step s

/-- The time on the clock of the `tended` cache. -/
def now (s : Session α) : Instant := s.tended.now

/-- Recording has no part in what is done: the cache of a `Session` runs like any other. -/
theorem tended_run (s : Session α) (steps : List (Step α)) :
    (s.run steps).tended = s.tended.run steps := by
  induction steps generalizing s with
  | nil => rfl
  | cons st steps ih => exact ih (s.step st)

/-- `run` records every step once, the latest first. -/
theorem steps_run (s : Session α) (steps : List (Step α)) :
    (s.run steps).record.map (·.step) = steps.reverse ++ s.record.map (·.step) := by
  induction steps generalizing s with
  | nil => rfl
  | cons st steps ih =>
    rw [List.reverse_cons, List.append_assoc]
    exact ih (s.step st)

end Session

/-! ## Entries -/

/-- The entry that the latest write to key `k` made, whether it is still stored or not. -/
def made? (ttl : Duration) (record : List (Deed α)) (k : String) : Option (CacheEntry α) :=
  (lastWritten? record k).map fun w => ⟨w.2, w.1 + ttl.nanos⟩

theorem made?_cons (ttl : Duration) (d : Deed α) (record : List (Deed α)) (k : String) :
    made? ttl (d :: record) k =
      ((d.written? k).map fun w => ⟨w.2, w.1 + ttl.nanos⟩).or (made? ttl record k) := by
  simp only [made?, lastWritten?, List.findSome?_cons]
  cases d.written? k <;> rfl

/-- What may be `stored` of an entry that was `made`: the entry itself, or nothing once it has expired. -/
def Remains (now : Instant) (made stored : Option (CacheEntry α)) : Prop :=
  stored = made ∨ stored = none ∧ ∀ e, made = some e → e.expired now = true

/-- What `Remains` now does so later, since expired entries stay expired. -/
theorem remains_mono (made stored : Option (CacheEntry α)) {now later : Instant} (hle : now ≤ later)
    (h : Remains now made stored) : Remains later made stored :=
  h.imp_right fun ⟨hnone, hexpired⟩ => ⟨hnone, fun e he => e.expired_mono hle (hexpired e he)⟩

/-- Once it has expired, the entry may be dropped, and so a filter by its deadline leaves what
`Remains`. -/
theorem remains_filter (now : Instant) (made stored : Option (CacheEntry α))
    (h : Remains now made stored) : Remains now made (stored.filter (!·.expired now)) := by
  obtain rfl | ⟨rfl, hexpired⟩ := h
  · cases stored with
    | none => exact Or.inl rfl
    | some e =>
      cases he : e.expired now with
      | true =>
        -- the entry has expired, so it may be missing
        refine Or.inr ⟨Option.filter_some_neg (by simp [he]), fun e' heq => ?_⟩
        cases heq
        exact he
      | false => exact Or.inl (Option.filter_some_pos (by simp [he]))
  · exact Or.inr ⟨rfl, hexpired⟩

/-- As long as it has not expired, the entry that was `made` is stored. -/
theorem filter_of_remains (now : Instant) (made stored : Option (CacheEntry α))
    (h : Remains now made stored) :
    stored.filter (!·.expired now) = made.filter (!·.expired now) := by
  obtain rfl | ⟨rfl, hexpired⟩ := h
  · rfl
  · cases made with
    | none => rfl
    | some e => rw [Option.filter_some_neg (by simp [hexpired e rfl]), Option.filter_none]

/-- The invariant of the entries: under each key is stored what `Remains` of the entry that its latest
write made. -/
structure Tracks (ttl : Duration) (s : Session α) : Prop where
  ttl_eq : s.tended.cache.ttl = ttl
  entry : ∀ k, Remains s.now (made? ttl s.record k) (s.tended.cache.find? k)

theorem tracks_start (ttl : Duration) (now : Instant) : Tracks ttl (.start ttl now : Session α) where
  ttl_eq := rfl
  entry _ := Or.inl rfl

/-- A step that writes nothing makes no entry: `made?` is as before. -/
theorem made?_cons_of_none (ttl : Duration) (t : TendedCache α) (st : Step α)
    (record : List (Deed α)) (k : String) (h : t.written? st = none) :
    made? ttl (⟨t, st⟩ :: record) k = made? ttl record k := by
  rw [made?_cons]
  simp [Deed.written?, h]

/-- A step that writes `key` makes its entry, and leaves those that were made of others. -/
theorem made?_cons_of_some (ttl : Duration) (t : TendedCache α) (st : Step α)
    (record : List (Deed α)) (key : String) (value : α) (k : String)
    (h : t.written? st = some (key, value)) : made? ttl (⟨t, st⟩ :: record) k =
      if k = key then some ⟨value, t.now + ttl.nanos⟩ else made? ttl record k := by
  rw [made?_cons]
  by_cases hk : k = key
  · simp [Deed.written?, h, hk]
  · simp [Deed.written?, h, hk, Ne.symm hk]

/-- A step keeps `Tracks`: the stored entries stay in line with the record. -/
theorem tracks_step (ttl : Duration) (s : Session α) (st : Step α) (h : Tracks ttl s) :
    Tracks ttl (s.step st) where
  ttl_eq := (s.tended.ttl_step st).trans h.ttl_eq
  entry k := by
    obtain ⟨t, record⟩ := s
    have httl : t.cache.ttl = ttl := h.ttl_eq
    have hentry : Remains t.now (made? ttl record k) (t.cache.find? k) := h.entry k
    show Remains (t.step st).now (made? ttl (⟨t, st⟩ :: record) k) ((t.step st).cache.find? k)
    cases hw : t.written? st with
    | some kv =>
      obtain ⟨hset, hnow⟩ := t.step_of_some st kv.1 kv.2 hw
      rw [made?_cons_of_some ttl t st record kv.1 kv.2 k hw,
        t.cache.find?_set _ t.now kv.1 k kv.2 hset, httl, hnow]
      -- the key itself has the entry that was just made, all others are as they were
      split
      · exact Or.inl rfl
      · exact hentry
    | none =>
      have hlater := remains_mono _ _ (t.now_le_step st) hentry
      rw [made?_cons_of_none ttl t st record k hw]
      -- what was stored is stored, or has expired and was dropped
      obtain hsame | hlive := (t.drops_step st hw).find k
      · rw [hsame]
        exact hlater
      · rw [hlive]
        exact remains_filter _ _ _ hlater

/-- `Tracks` holds after any run, by induction on the steps. -/
theorem tracks_run (ttl : Duration) (s : Session α) (steps : List (Step α)) (h : Tracks ttl s) :
    Tracks ttl (s.run steps) := by
  induction steps generalizing s with
  | nil => exact h
  | cons st steps ih => exact ih (s.step st) (tracks_step ttl s st h)

/-! ## Counters -/

/-- A step counts a hit or a miss if it `reads`, and a hit if it `finds` something. -/
theorem counters_step (t : TendedCache α) (st : Step α) :
    (t.step st).cache.hits = t.cache.hits + (if (⟨t, st⟩ : Deed α).finds then 1 else 0) ∧
      (t.step st).cache.hits + (t.step st).cache.misses =
        t.cache.hits + t.cache.misses + (if (⟨t, st⟩ : Deed α).reads then 1 else 0) := by
  cases st with
  | get key => exact t.cache.counters_get t.now key
  -- writes count nothing, whether they succeed or not
  | set key value =>
    simp only [step]
    split
    · next t' hset =>
      obtain ⟨hcache, -⟩ := t.cache_set_eq_ok t' key value hset
      obtain ⟨hhits, hmisses, -, -⟩ := t.cache.counters_set t'.cache t.now key value hcache
      rw [hhits, hmisses]
      exact ⟨rfl, rfl⟩
    · exact ⟨rfl, rfl⟩
  | advance span =>
    simp only [step, advance]
    split <;> exact ⟨rfl, rfl⟩
  | startJanitor interval =>
    simp only [step, startJanitor]
    split <;> exact ⟨rfl, rfl⟩
  | evict => exact ⟨rfl, rfl⟩
  | shutdown => exact ⟨rfl, rfl⟩

/-- Stored and evicted entries together grow in number by the steps that add an entry, as told by
`Deed.adds`. -/
theorem conserved_step (t : TendedCache α) (st : Step α) :
    (t.step st).cache.entries.length + (t.step st).cache.evictions =
      t.cache.entries.length + t.cache.evictions +
        (if (⟨t, st⟩ : Deed α).adds then 1 else 0) := by
  cases hw : t.written? st with
  -- expired entries are dropped, and each of them is counted
  | none =>
    have hadds : (⟨t, st⟩ : Deed α).adds = false := by simp [Deed.adds, hw]
    simpa [hadds] using (t.drops_step st hw).counted
  -- one entry more, if there was none of the key
  | some kv =>
    have hadds : (⟨t, st⟩ : Deed α).adds = (t.cache.find? kv.1).isNone := by
      simp [Deed.adds, hw]
    obtain ⟨hset, -⟩ := t.step_of_some st kv.1 kv.2 hw
    obtain ⟨-, -, hevictions, hlength⟩ := t.cache.counters_set _ t.now kv.1 kv.2 hset
    rw [hadds, hevictions, hlength]
    omega

/-- The invariant of the counters `hits`, `misses` and `evictions`: they agree with what is recorded. -/
structure Balanced (s : Session α) : Prop where
  reads : s.tended.cache.hits + s.tended.cache.misses = s.record.countP (·.reads)
  hits : s.tended.cache.hits = s.record.countP (·.finds)
  /-- What was added is stored, or was dropped and counted. -/
  conserved : s.tended.cache.entries.length + s.tended.cache.evictions = s.record.countP (·.adds)

theorem balanced_start (ttl : Duration) (now : Instant) :
    Balanced (.start ttl now : Session α) where
  reads := rfl
  hits := rfl
  conserved := rfl

/-- A step keeps `Balanced`: the counters stay in line with the record. -/
theorem balanced_step (s : Session α) (st : Step α) (h : Balanced s) : Balanced (s.step st) := by
  obtain ⟨t, record⟩ := s
  obtain ⟨hhits, hreads⟩ := counters_step t st
  constructor
  case reads =>
    rw [Session.step, List.countP_cons, ← h.reads]
    exact hreads
  case hits =>
    rw [Session.step, List.countP_cons, ← h.hits]
    exact hhits
  case conserved =>
    rw [Session.step, List.countP_cons, ← h.conserved]
    exact conserved_step t st

/-- `Balanced` holds after any run, by induction on the steps. -/
theorem balanced_run (s : Session α) (steps : List (Step α)) (h : Balanced s) :
    Balanced (s.run steps) := by
  induction steps generalizing s with
  | nil => exact h
  | cons st steps ih => exact ih (s.step st) (balanced_step s st h)

/-! ## A map of timed values -/

/-- What was `lastWritten?` to key `k` is a life time old or older. -/
def Session.outdated (s : Session α) (ttl : Duration) (k : String) : Bool :=
  (lastWritten? s.record k).any fun w => w.1 + ttl.nanos ≤ s.now

/-- A stored entry was made by the latest write to its key, so it is `expired` just if the key is
`outdated`. -/
theorem outdated_of_mem (ttl : Duration) (s : Session α) (h : Tracks ttl s) (k : String)
    (e : CacheEntry α) (hmem : (k, e) ∈ s.tended.cache.entries) :
    s.outdated ttl k = e.expired s.now := by
  have hfind : s.tended.cache.find? k = some e :=
    List.lookup_eq_some_of_mem _ k e s.tended.cache.distinct hmem
  have hmade : made? ttl s.record k = some e := by
    obtain hsame | ⟨hnone, -⟩ := h.entry k
    · exact hsame.symm.trans hfind
    · rw [hfind] at hnone
      cases hnone
  obtain ⟨w, hlast, rfl⟩ := Option.map_eq_some_iff.1 hmade
  rw [Session.outdated, hlast]
  rfl

/-- `get` gives what was last written, as long as it is not a life time old. -/
theorem get_eq_some_iff (ttl : Duration) (s : Session α) (h : Tracks ttl s) (k : String) (v : α) :
    (s.tended.get k).1 = some v ↔
      ∃ t₀, lastWritten? s.record k = some (t₀, v) ∧ s.now < t₀ + ttl.nanos := by
  have hlive : s.tended.live? k = (made? ttl s.record k).filter (!·.expired s.now) :=
    filter_of_remains _ _ _ (h.entry k)
  rw [get_fst, hlive, made?, Option.map_eq_some_iff]
  constructor
  · rintro ⟨e, he, rfl⟩
    obtain ⟨t₀, hlast, -, hlt⟩ := (CacheEntry.filter_map_eq_some_iff ..).1 he
    exact ⟨t₀, hlast, hlt⟩
  · rintro ⟨t₀, hlast, hlt⟩
    refine ⟨⟨v, t₀ + ttl.nanos⟩, ?_, rfl⟩
    exact (CacheEntry.filter_map_eq_some_iff ..).2 ⟨t₀, hlast, rfl, hlt⟩

/-- `evictExpired` drops the keys that are `outdated`, and says how many there were. -/
theorem evictExpired_of_tracks (ttl : Duration) (s : Session α) (h : Tracks ttl s) :
    s.tended.evictExpired.1 = s.tended.cache.entries.countP (s.outdated ttl ·.1) ∧
      s.tended.evictExpired.2.cache.entries =
        s.tended.cache.entries.filter (!s.outdated ttl ·.1) := by
  have hkept : s.tended.cache.entries.filter (!·.2.expired s.now) =
      s.tended.cache.entries.filter (!s.outdated ttl ·.1) := by
    apply List.filter_congr
    intro p hp
    rw [outdated_of_mem ttl s h p.1 p.2 hp]
  refine ⟨?_, hkept⟩
  -- what is dropped is all that is not kept
  have hsplit := List.length_eq_countP_add_countP (fun p => s.outdated ttl p.1)
    (l := s.tended.cache.entries)
  have hrest : s.tended.cache.entries.countP (fun p => ¬s.outdated ttl p.1) =
      (s.tended.cache.entries.filter (!s.outdated ttl ·.1)).length := by
    simp [List.countP_eq_length_filter]
  show s.tended.cache.entries.length -
    (s.tended.cache.entries.filter (!·.2.expired s.now)).length = _
  rw [hkept]
  omega

/-- What a cache does, in terms of the `record` of what was done to it. -/
structure TimedMap (ttl : Duration) (s : Session α) : Prop where
  /-- `get` gives what was last written, exactly as long as that lives. -/
  read : ∀ k v, (s.tended.get k).1 = some v ↔
    ∃ t₀, lastWritten? s.record k = some (t₀, v) ∧ s.now < t₀ + ttl.nanos
  /-- A step on one key changes no `get` of another, neither at once nor later. -/
  apart : ∀ k j st, st.key? = some j → j ≠ k → ∀ later,
    (((s.tended.step st).run later).get k).1 = ((s.tended.run later).get k).1
  /-- `evictExpired` drops the stored keys whose latest write is a life time old, and says how many. -/
  swept : s.tended.evictExpired.1 = s.tended.cache.entries.countP (s.outdated ttl ·.1) ∧
    s.tended.evictExpired.2.cache.entries = s.tended.cache.entries.filter (!s.outdated ttl ·.1)
  /-- Every `get` is a hit or a miss, and a hit if it gave a value. -/
  reads : s.tended.cache.stats.hits + s.tended.cache.stats.misses = s.record.countP (·.reads)
  hits : s.tended.cache.stats.hits = s.record.countP (·.finds)
  /-- The size is the number of stored keys. -/
  size : ∃ keys : List String, keys.Nodup ∧
    (∀ k, k ∈ keys ↔ (s.tended.cache.find? k).isSome) ∧ s.tended.cache.stats.size = keys.length
  /-- What was written under a key that was not stored is stored, or was evicted once. -/
  conserved : s.tended.cache.stats.size + s.tended.cache.stats.evictions =
    s.record.countP (·.adds)
  /-- A `set` whose deadline cannot be represented fails and leaves everything as it was. -/
  overflow : Instant.horizon ≤ s.now + ttl.nanos → ∀ key value,
    s.tended.set key value = .error .deadlineOverflow ∧
      s.tended.step (.set key value) = s.tended
  /-- Every other `set` succeeds. -/
  fits : s.now + ttl.nanos < Instant.horizon → ∀ key value,
    s.tended.set key value = .ok (s.tended.step (.set key value))
  /-- No counter is greater than the number of steps. -/
  bounded : s.tended.cache.stats.hits + s.tended.cache.stats.misses ≤ s.record.length ∧
    s.tended.cache.stats.size + s.tended.cache.stats.evictions ≤ s.record.length

/-- The keys that are stored, each of them once: `size` counts them. -/
theorem exists_keys (c : Cache α) : ∃ keys : List String, keys.Nodup ∧
    (∀ k, k ∈ keys ↔ (c.find? k).isSome) ∧ c.stats.size = keys.length := by
  refine ⟨c.entries.map (·.1), c.distinct, fun k => ?_, (List.length_map _).symm⟩
  simp only [Cache.find?, List.lookup_isSome_iff, List.mem_map, beq_iff_eq]
  constructor
  · rintro ⟨p, hp, rfl⟩
    exact ⟨p, hp, rfl⟩
  · rintro ⟨p, hp, rfl⟩
    exact ⟨p, hp, rfl⟩

/-- A cache whose entries and counters are in line with the record, by `Tracks` and `Balanced`, is a
map of timed values. -/
theorem timedMap_of_tracks (ttl : Duration) (s : Session α) (h : Tracks ttl s) (hb : Balanced s) :
    TimedMap ttl s := by
  have hcanStore : s.tended.CanStore ↔ s.now + ttl.nanos < Instant.horizon := by
    rw [CanStore, h.ttl_eq, Session.now]
  constructor
  case read => exact get_eq_some_iff ttl s h
  case apart => exact fun k j st hj hne later => s.tended.get_run_of_key_ne k j st hj hne later
  case swept => exact evictExpired_of_tracks ttl s h
  case reads => exact hb.reads
  case hits => exact hb.hits
  case size => exact exists_keys s.tended.cache
  case conserved => exact hb.conserved
  case overflow =>
    intro hover key value
    have hfit : ¬s.tended.CanStore := fun hfit => Nat.not_lt.2 hover (hcanStore.1 hfit)
    exact ⟨s.tended.set_of_not_canStore key value hfit,
      s.tended.step_set_of_not_canStore key value hfit⟩
  case fits =>
    intro hfit key value
    have hwritten := s.tended.written?_set_of_canStore key value (hcanStore.2 hfit)
    exact (s.tended.set_of_written? _ key value hwritten).2
  case bounded =>
    -- no step reads twice or adds two entries
    have hreads := s.record.countP_le_length (p := (·.reads))
    have hadds := s.record.countP_le_length (p := (·.adds))
    exact ⟨hb.reads ▸ hreads, hb.conserved ▸ hadds⟩

/-- After any run, a cache that was empty at its start is a `TimedMap`. -/
theorem timedMap_run (ttl : Duration) (now : Instant) (steps : List (Step α)) :
    ((Session.start ttl now).run steps).tended = run { cache := { ttl }, now } steps ∧
      ((Session.start ttl now).run steps).record.map (·.step) = steps.reverse ∧
      TimedMap ttl ((Session.start ttl now).run steps) := by
  refine ⟨Session.tended_run _ steps, ?_, ?_⟩
  · rw [Session.steps_run]
    exact List.append_nil _
  · exact timedMap_of_tracks ttl _ (tracks_run ttl _ steps (tracks_start ttl now))
      (balanced_run _ steps (balanced_start ttl now))

/-- An entry that has expired is replaced without an eviction; one that is read, or found by a sweep, is
evicted once. -/
example : (run { cache := { ttl := .ofMillis 5 } } [.set "a" 1, .set "b" 2, .advance (.ofMillis 5),
    .set "a" 3, .get "a", .get "b", .get "b", .advance (.ofMillis 5), .evict]).cache.stats =
      ⟨1, 2, 2, 0⟩ := by
  decide

end CertGate.TendedCache
