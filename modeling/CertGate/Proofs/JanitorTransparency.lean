import CertGate.Proofs.CacheSteps

/-!
# Upkeep of a cache

Sweeps are made, janitors are started and sent home at any points of a run in which a cache is read and
written and time passes. The run is compared step by step to the one without any upkeep: every read
gives the same, and what upkeep has dropped had expired.

## Key results

- `Swept.filter_fresh`: what upkeep leaves of the entries that live
- `inStep_use`, `inStep_upkeep`: one step of use in both runs, one step of upkeep in one of them
- `inStep_run`: a run with upkeep beside the run of its uses alone
- `janitors_run_of_idle`: without a start there are no janitors, and so no sweeps
- `transparent_run`: upkeep cannot be noticed by who uses the cache
-/

namespace CertGate

variable {α : Type}

/-! ## Entries that have been swept out -/

/-- `Swept now all left`: `left` is `all` with some entries missing, each of which has expired by
`now`. -/
inductive Swept (now : Instant) :
    List (String × CacheEntry α) → List (String × CacheEntry α) → Prop where
  | nil : Swept now [] []
  | keep (p : String × CacheEntry α) {all left : List (String × CacheEntry α)} :
    Swept now all left → Swept now (p :: all) (p :: left)
  | drop (p : String × CacheEntry α) {all left : List (String × CacheEntry α)} :
    p.2.expired now = true → Swept now all left → Swept now (p :: all) left

namespace Swept

variable {now later : Instant} {all left : List (String × CacheEntry α)}

theorem sublist (h : Swept now all left) : left.Sublist all := by
  induction h with
  | nil => exact .slnil
  | keep p _ ih => exact ih.cons_cons p
  | drop p _ _ ih => exact ih.cons p

/-- What has `expired` stays so, hence `Swept` does. -/
theorem mono (h : Swept now all left) (hle : now ≤ later) : Swept later all left := by
  induction h with
  | nil => exact .nil
  | keep p _ ih => exact .keep p ih
  | drop p hp _ ih => exact .drop p (p.2.expired_mono hle hp) ih

/-- `Swept` is kept if both lists are filtered alike. -/
theorem filter (h : Swept now all left) (q : String × CacheEntry α → Bool) :
    Swept now (all.filter q) (left.filter q) := by
  induction h with
  | nil => exact .nil
  | keep p _ ih =>
    rw [List.filter_cons, List.filter_cons]
    split
    · exact .keep p ih
    · exact ih
  | drop p hp _ ih =>
    rw [List.filter_cons]
    split
    · exact .drop p hp ih
    · exact ih

/-- From `left` alone more may be dropped, as long as it has expired. -/
theorem filter_left (h : Swept now all left) (q : String × CacheEntry α → Bool)
    (hq : ∀ p, q p = false → p.2.expired now = true) : Swept now all (left.filter q) := by
  induction h with
  | nil => exact .nil
  | keep p _ ih =>
    rw [List.filter_cons]
    split
    · exact .keep p ih
    · next hp => exact .drop p (hq p (Bool.eq_false_iff.2 hp)) ih
  | drop p hp _ ih => exact .drop p hp ih

/-- A sweep on the right keeps `Swept`. -/
theorem filter_live (h : Swept now all left) :
    Swept now all (left.filter fun p => !p.2.expired now) :=
  h.filter_left _ fun p hp => by simpa using hp

/-- Nothing that lives is missing: a sweep of `all` and of `left` leaves the same. -/
theorem filter_fresh (h : Swept now all left) :
    left.filter (fun p => !p.2.expired now) = all.filter fun p => !p.2.expired now := by
  induction h with
  | nil => rfl
  | keep p _ ih => rw [List.filter_cons, List.filter_cons, ih]
  | drop p hp _ ih => rw [ih, List.filter_cons_of_neg (by simp [hp])]

end Swept

namespace Cache

/-- What `get` leaves: every pair but the expired ones of `key`. -/
theorem entries_get (c : Cache α) (now : Instant) (key : String) :
    (c.get now key).2.entries = c.entries.filter fun p => p.1 != key || !p.2.expired now := by
  -- a key is stored once, so what is said of its entry is said of all pairs with the key
  have hpair : ∀ e p, c.find? key = some e → p ∈ c.entries → p.1 = key → p.2 = e := by
    intro e p hfind hp hkey
    have hlookup := List.lookup_eq_some_of_mem c.entries p.1 p.2 c.distinct hp
    rw [hkey] at hlookup
    exact Option.some.inj (hlookup.symm.trans hfind)
  symm
  -- nothing is stored, so nothing is dropped
  cases hfind : c.find? key with
  | none =>
    rw [c.get_of_absent now key hfind, List.filter_eq_self]
    intro p hp
    have hne := List.lookup_eq_none_iff.1 hfind p hp
    have hkey : p.1 ≠ key := fun heq => (bne_iff_ne.1 hne) heq.symm
    simp [hkey]
  | some e =>
    cases he : e.expired now with
    -- the expired entry of the key goes, and with it all pairs of the key
    | true =>
      rw [c.get_of_expired now key e hfind he]
      apply List.filter_congr
      intro p hp
      by_cases hkey : p.1 = key
      · simp [hkey, hpair e p hfind hp hkey, he]
      · simp [hkey]
    | false =>
      -- the live entry stays
      rw [c.get_of_fresh now key e hfind he, List.filter_eq_self]
      intro p hp
      by_cases hkey : p.1 = key
      · simp [hpair e p hfind hp hkey, he]
      · simp [hkey]

/-- `set` puts the new entry in front and takes the old one of `key` out. -/
theorem entries_set (c c' : Cache α) (now : Instant) (key : String) (value : α)
    (h : c.set now key value = .ok c') :
    c'.entries = (key, ⟨value, now + c.ttl.nanos⟩) :: c.entries.filter (·.1 != key) := by
  simp only [set] at h
  split at h
  · cases h
    rfl
  · cases h

/-- `live?` is the lookup in what a sweep would leave. -/
theorem live?_eq_lookup (c : Cache α) (now : Instant) (k : String) :
    c.live? now k = (c.entries.filter fun p => !p.2.expired now).lookup k :=
  (List.lookup_filter_snd c.entries (!·.expired now) k c.distinct).symm

/-- `live?` does not see what is `Swept`. -/
theorem live?_of_swept (c c' : Cache α) (now : Instant) (h : Swept now c.entries c'.entries)
    (k : String) : c'.live? now k = c.live? now k := by
  rw [live?_eq_lookup, live?_eq_lookup, h.filter_fresh]

/-- A key that is absent without upkeep is absent with it, since the cache is `Swept`. -/
theorem find?_eq_none_of_swept (c c' : Cache α) (now : Instant)
    (h : Swept now c.entries c'.entries) (k : String) (hnone : c.find? k = none) :
    c'.find? k = none :=
  List.lookup_eq_none_iff.2 fun p hp => List.lookup_eq_none_iff.1 hnone p (h.sublist.subset hp)

end Cache

namespace TendedCache

/-! ## Uses and upkeep -/

/-- Whether a step is use of the cache or time: a `get`, a `set` or an `advance`. The other steps are
upkeep. -/
def Step.isUse : Step α → Bool
  | get _ | set _ _ | advance _ => true
  | evict | startJanitor _ | shutdown => false

/-- Whether a step is a `startJanitor` that starts one: an interval of zero does not. -/
def Step.starts : Step α → Bool
  | startJanitor interval => interval.nanos != 0
  | _ => false

/-- What the `get`s of a run give, in order. -/
def readings (t : TendedCache α) : List (Step α) → List (Option α)
  | [] => []
  | .get key :: steps => (t.get key).1 :: readings (t.step (.get key)) steps
  | st :: steps => readings (t.step st) steps

/-- Upkeep adds no reading: `readings` are those of the other steps. -/
theorem readings_cons_of_upkeep (t : TendedCache α) (st : Step α) (steps : List (Step α))
    (h : st.isUse = false) : t.readings (st :: steps) = (t.step st).readings steps := by
  cases st with
  | get key => cases h
  | _ => rfl

/-! ## Janitors that have gone home -/

/-- Where there are no janitors, only a step that `starts` one brings one. -/
theorem janitors_step_of_idle (t : TendedCache α) (st : Step α) (hidle : t.janitors = [])
    (hst : st.starts = false) : (t.step st).janitors = [] := by
  cases st with
  | set key value =>
    simp only [step, TendedCache.set, bind, Except.bind]
    cases t.cache.set t.now key value with
    | ok c => exact hidle
    | error e => exact hidle
  | advance span => simp only [step, advance, hidle, List.map_nil]
  | startJanitor interval =>
    have hzero : interval.nanos = 0 := by simpa [Step.starts] using hst
    simp only [step, startJanitor, if_pos hzero, hidle]
  | get key => exact hidle
  | evict => exact hidle
  | shutdown => rfl

/-- As long as none is started, a run has no `janitors`. -/
theorem janitors_run_of_idle (t : TendedCache α) (steps : List (Step α)) (hidle : t.janitors = [])
    (hsteps : ∀ st ∈ steps, st.starts = false) : (t.run steps).janitors = [] := by
  induction steps generalizing t with
  | nil => exact hidle
  | cons st steps ih =>
    refine ih (t.step st) (t.janitors_step_of_idle st hidle (hsteps st List.mem_cons_self)) ?_
    exact fun st' hst' => hsteps st' (List.mem_cons_of_mem st hst')

/-- Without janitors `advance` only sets the clock. -/
theorem advance_of_idle (t : TendedCache α) (span : Duration) (hidle : t.janitors = []) :
    t.advance span = { t with now := t.now + span.nanos } := by
  simp only [advance, hidle, List.any_nil, List.map_nil, Bool.false_eq_true, if_false]

/-! ## Two runs in step -/

/-- The invariant of the comparison: `t` has seen no upkeep, `t'` has, and they differ at most in
expired entries, evictions and janitors. -/
structure InStep (t t' : TendedCache α) : Prop where
  now_eq : t'.now = t.now
  ttl_eq : t'.cache.ttl = t.cache.ttl
  idle : t.janitors = []
  hits_eq : t'.cache.hits = t.cache.hits
  misses_eq : t'.cache.misses = t.cache.misses
  entries : Swept t.now t.cache.entries t'.cache.entries
  /-- Every entry missing from `t'` was counted as an eviction there, beyond those of `t`. -/
  surplus : t.cache.entries.length + t.cache.evictions ≤
    t'.cache.entries.length + t'.cache.evictions

variable {t t' : TendedCache α}

/-- `InStep` caches give the same to a `get`. -/
theorem InStep.get_fst (h : InStep t t') (k : String) : (t'.get k).1 = (t.get k).1 := by
  rw [TendedCache.get_fst, TendedCache.get_fst, TendedCache.live?, TendedCache.live?, h.now_eq,
    t.cache.live?_of_swept t'.cache t.now h.entries k]

/-- `InStep` is kept by a `get` in both runs. -/
theorem inStep_get (h : InStep t t') (key : String) :
    InStep (t.step (.get key)) (t'.step (.get key)) where
  now_eq := h.now_eq
  ttl_eq := (t'.ttl_get key).trans (h.ttl_eq.trans (t.ttl_get key).symm)
  idle := h.idle
  hits_eq := by
    obtain ⟨hhits, -⟩ := t.cache.counters_get t.now key
    obtain ⟨hhits', -⟩ := t'.cache.counters_get t'.now key
    -- the reads give the same, so they count the same
    have hsame : (t'.cache.get t'.now key).1 = (t.cache.get t.now key).1 := h.get_fst key
    show (t'.cache.get t'.now key).2.hits = (t.cache.get t.now key).2.hits
    rw [hhits, hhits', hsame, h.hits_eq]
  misses_eq := by
    obtain ⟨hhits, hreads⟩ := t.cache.counters_get t.now key
    obtain ⟨hhits', hreads'⟩ := t'.cache.counters_get t'.now key
    have hsame : (t'.cache.get t'.now key).1 = (t.cache.get t.now key).1 := h.get_fst key
    have hbefore := h.hits_eq
    have hmisses := h.misses_eq
    rw [hsame] at hhits'
    show (t'.cache.get t'.now key).2.misses = (t.cache.get t.now key).2.misses
    omega
  entries := by
    show Swept t.now (t.cache.get t.now key).2.entries (t'.cache.get t'.now key).2.entries
    rw [Cache.entries_get, Cache.entries_get, h.now_eq]
    exact h.entries.filter _
  -- an entry that `get` drops counts as one eviction, on either side
  surplus := by
    have hcounted := (t.cache.drops_get t.now key).counted
    have hcounted' := (t'.cache.drops_get t'.now key).counted
    have hbefore := h.surplus
    show (t.cache.get t.now key).2.entries.length + (t.cache.get t.now key).2.evictions ≤
      (t'.cache.get t'.now key).2.entries.length + (t'.cache.get t'.now key).2.evictions
    omega

/-- `InStep` is kept by a `set` in both runs. It succeeds in both or in none. -/
theorem inStep_set (h : InStep t t') (key : String) (value : α) :
    InStep (t.step (.set key value)) (t'.step (.set key value)) := by
  have hwritten := written?_congr t' t h.now_eq h.ttl_eq (.set key value)
  by_cases hfit : t.CanStore
  case neg =>
    -- the deadline does not fit: nothing is written on either side
    have hfit' : ¬t'.CanStore := by rwa [CanStore, h.now_eq, h.ttl_eq]
    rw [t.step_set_of_not_canStore key value hfit, t'.step_set_of_not_canStore key value hfit']
    exact h
  case pos =>
    have hw := t.written?_set_of_canStore key value hfit
    obtain ⟨hset, hnow⟩ := t.step_of_some _ key value hw
    obtain ⟨hset', hnow'⟩ := t'.step_of_some _ key value (hwritten.trans hw)
    obtain ⟨hhits, hmisses, hevictions, hlength⟩ := t.cache.counters_set _ _ _ _ hset
    obtain ⟨hhits', hmisses', hevictions', hlength'⟩ := t'.cache.counters_set _ _ _ _ hset'
    constructor
    case now_eq => rw [hnow, hnow', h.now_eq]
    case ttl_eq => rw [ttl_step, ttl_step, h.ttl_eq]
    case idle => exact t.janitors_step_of_idle _ h.idle rfl
    case hits_eq => rw [hhits, hhits', h.hits_eq]
    case misses_eq => rw [hmisses, hmisses', h.misses_eq]
    case entries =>
      rw [hnow, t.cache.entries_set _ t.now key value hset,
        t'.cache.entries_set _ t'.now key value hset', h.now_eq, h.ttl_eq]
      exact .keep _ (h.entries.filter _)
    case surplus =>
      -- where the key is absent without upkeep it is so with it, and is added in both runs
      have habsent : (t.cache.find? key).isNone → (t'.cache.find? key).isNone := by
        simp only [Option.isNone_iff_eq_none]
        exact t.cache.find?_eq_none_of_swept t'.cache t.now h.entries key
      have hbefore := h.surplus
      have hadded : (if (t.cache.find? key).isNone then 1 else 0) ≤
          (if (t'.cache.find? key).isNone then 1 else 0) := by
        split
        · next hnone => exact Nat.le_of_eq (if_pos (habsent hnone)).symm
        · exact Nat.zero_le _
      rw [hlength, hlength', hevictions, hevictions']
      omega

/-- `InStep` is kept by a sweep of `t'`, with whatever janitors after it. -/
theorem InStep.sweep (h : InStep t t') (janitors : List Janitor) :
    InStep t { cache := (t'.cache.evictExpired t'.now).2, now := t'.now, janitors } where
  now_eq := h.now_eq
  ttl_eq := h.ttl_eq
  idle := h.idle
  hits_eq := h.hits_eq
  misses_eq := h.misses_eq
  entries := by
    show Swept t.now t.cache.entries (t'.cache.entries.filter fun p => !p.2.expired t'.now)
    rw [h.now_eq]
    exact h.entries.filter_live
  surplus := Nat.le_trans h.surplus (Nat.le_of_eq (t'.cache.drops_evictExpired t'.now).counted.symm)

/-- `InStep` does not depend on the janitors of `t'`. -/
theorem InStep.withJanitors (h : InStep t t') (janitors : List Janitor) :
    InStep t { t' with janitors } :=
  ⟨h.now_eq, h.ttl_eq, h.idle, h.hits_eq, h.misses_eq, h.entries, h.surplus⟩

/-- `InStep` is kept as time passes in both runs. Only `t'` may sweep on the way. -/
theorem inStep_advance (h : InStep t t') (span : Duration) :
    InStep (t.step (.advance span)) (t'.step (.advance span)) := by
  have hle : t.now ≤ t.now + span.nanos := Nat.le_add_right _ _
  have hplain : t.step (.advance span) = { t with now := t.now + span.nanos } :=
    t.advance_of_idle span h.idle
  have hlater : InStep { t with now := t.now + span.nanos } { t' with now := t'.now + span.nanos } :=
    ⟨congrArg (· + span.nanos) h.now_eq, h.ttl_eq, h.idle, h.hits_eq, h.misses_eq,
      h.entries.mono hle, h.surplus⟩
  rw [hplain]
  simp only [step, advance]
  split
  · -- some tick is due
    exact hlater.sweep _
  · exact hlater.withJanitors _

/-- `InStep` is kept by a step of use in both runs. -/
theorem inStep_use (h : InStep t t') (st : Step α) (huse : st.isUse = true) :
    InStep (t.step st) (t'.step st) := by
  cases st with
  | get key => exact inStep_get h key
  | set key value => exact inStep_set h key value
  | advance span => exact inStep_advance h span
  | _ => cases huse

/-- `InStep` is kept by a step of upkeep in `t'` alone. -/
theorem inStep_upkeep (h : InStep t t') (st : Step α) (hupkeep : st.isUse = false) :
    InStep t (t'.step st) := by
  cases st with
  | evict => exact h.sweep t'.janitors
  | startJanitor interval =>
    -- the first tick of a janitor is at once, unless the interval is zero
    simp only [step, startJanitor]
    split
    · exact h
    · exact h.sweep _
  | shutdown => exact h.withJanitors []
  | _ => cases hupkeep

/-- A run is `InStep` with the run of its uses alone. -/
theorem inStep_run (h : InStep t t') (steps : List (Step α)) :
    InStep (t.run (steps.filter (·.isUse))) (t'.run steps) := by
  -- induction on the steps: one of use moves both runs, one of upkeep only the right one
  induction steps generalizing t t' with
  | nil => exact h
  | cons st steps ih =>
    cases hst : st.isUse with
    | true =>
      rw [List.filter_cons_of_pos hst]
      exact ih (inStep_use h st hst)
    | false =>
      rw [List.filter_cons_of_neg (by simp [hst])]
      exact ih (inStep_upkeep h st hst)

/-- `InStep` caches give the same `readings`. -/
theorem readings_run (h : InStep t t') (steps : List (Step α)) :
    t'.readings steps = t.readings (steps.filter (·.isUse)) := by
  induction steps generalizing t t' with
  | nil => rfl
  | cons st steps ih =>
    cases hst : st.isUse with
    | false =>
      rw [List.filter_cons_of_neg (by simp [hst]), t'.readings_cons_of_upkeep st steps hst]
      exact ih (inStep_upkeep h st hst)
    | true =>
      have hrest := ih (inStep_use h st hst)
      rw [List.filter_cons_of_pos hst]
      cases st with
      | get key =>
        rw [readings, readings, h.get_fst key, hrest]
      | set key value => exact hrest
      | advance span => exact hrest
      | _ => cases hst

/-! ## Upkeep that cannot be noticed -/

/-- A run with upkeep, compared to the run of its uses alone from the same start `t`. -/
structure Transparent (t : TendedCache α) (steps : List (Step α)) : Prop where
  /-- Every read gives the same. -/
  readings : t.readings steps = t.readings (steps.filter (·.isUse))
  /-- As many hits and misses are counted. -/
  hits : (t.run steps).cache.stats.hits = (t.run (steps.filter (·.isUse))).cache.stats.hits
  misses : (t.run steps).cache.stats.misses = (t.run (steps.filter (·.isUse))).cache.stats.misses
  /-- What is stored is what would be without upkeep, but for entries that have expired. -/
  entries : Swept (t.run steps).now (t.run (steps.filter (·.isUse))).cache.entries
    (t.run steps).cache.entries
  size_le : (t.run steps).cache.stats.size ≤ (t.run (steps.filter (·.isUse))).cache.stats.size
  evictions_le : (t.run (steps.filter (·.isUse))).cache.stats.evictions ≤
    (t.run steps).cache.stats.evictions
  /-- For every entry that is missing there is at least one more eviction. -/
  surplus : (t.run (steps.filter (·.isUse))).cache.stats.size - (t.run steps).cache.stats.size ≤
    (t.run steps).cache.stats.evictions - (t.run (steps.filter (·.isUse))).cache.stats.evictions
  /-- Behind a shutdown nothing is swept as time passes, until a janitor is started. -/
  ended : ∀ before later, steps = before ++ .shutdown :: later → (∀ st ∈ later, st.starts = false) →
    (t.run steps).janitors = [] ∧ ∀ span,
      (t.run steps).advance span = { t.run steps with now := (t.run steps).now + span.nanos }
  /-- An interval of zero starts no janitor, and makes no sweep. -/
  disabled : ∀ interval : Duration, interval.nanos = 0 →
    (t.run steps).startJanitor interval = (false, t.run steps)

/-- However upkeep is mixed into the use of an empty cache, it is `Transparent`. A part of a run is a
run, so this holds after every single step. -/
theorem transparent_run (ttl : Duration) (now : Instant) (steps : List (Step α)) :
    Transparent { cache := { ttl }, now } steps := by
  have hstart : InStep { cache := { ttl }, now } ({ cache := { ttl }, now } : TendedCache α) :=
    ⟨rfl, rfl, rfl, rfl, rfl, .nil, Nat.le_refl _⟩
  have h := inStep_run hstart steps
  have hsize := h.entries.sublist.length_le
  have hsurplus := h.surplus
  constructor
  -- all but the last two are `InStep` read field by field
  case readings => exact readings_run hstart steps
  case hits => exact h.hits_eq
  case misses => exact h.misses_eq
  case entries =>
    rw [h.now_eq]
    exact h.entries
  case size_le => exact hsize
  case evictions_le =>
    simp only [Cache.stats]
    omega
  case surplus =>
    simp only [Cache.stats]
    omega
  case ended =>
    -- the shutdown sends all janitors home, and none comes back
    rintro before later rfl hlater
    have hidle : (run { cache := { ttl }, now } (before ++ Step.shutdown :: later)).janitors = [] := by
      rw [run, List.foldl_append]
      exact janitors_run_of_idle _ later rfl hlater
    exact ⟨hidle, fun span => advance_of_idle _ span hidle⟩
  case disabled => exact fun interval hzero => if_pos hzero

/-- An entry that two janitors wait for is dropped once. Without them, `set` replaces it and counts no
eviction. -/
example : (run { cache := { ttl := .ofMillis 5 } } [.set "a" 1, .startJanitor (.ofMillis 2),
      .startJanitor (.ofMillis 3), .advance (.ofMillis 6), .set "a" 2]).cache.stats = ⟨0, 0, 1, 1⟩ ∧
    (run { cache := { ttl := .ofMillis 5 } } [.set "a" 1, .advance (.ofMillis 6),
      .set "a" 2]).cache.stats = ⟨0, 0, 0, 1⟩ := by
  decide

end TendedCache

end CertGate
