import CertGate.Duration

/-!
# A cache whose entries expire

Entries live for a fixed time. An expired entry is dropped when it is read or by a sweep; writing a
key replaces its entry and starts its life anew. Three counters record what reads found and how
many entries were dropped for their age. Time is counted in nanoseconds from the start of a run.
-/

namespace CertGate

/-- A point in time, in nanoseconds since the clock's start. -/
abbrev Instant := Nat

/-- The end of the clock, whose seconds are signed numbers of 64 bits: a deadline from here on cannot be
represented. -/
def Instant.horizon : Instant := 9223372036854775808 * 1000000000

/-- A stored value and the time `expiresAt` from which on it is no longer given out. -/
structure CacheEntry (α : Type) where
  value : α
  expiresAt : Instant
  deriving Repr

/-- Whether an entry is too old at the time `now`. -/
def CacheEntry.expired (now : Instant) (e : CacheEntry α) : Bool :=
  e.expiresAt ≤ now

/-- What a cache has counted. The `size` is the number of stored entries, expired ones included. -/
structure CacheStats where
  hits : Nat
  misses : Nat
  evictions : Nat
  size : Nat
  deriving DecidableEq, Repr

/-- A cache of values under texts, each of which lives for `ttl`. -/
structure Cache (α : Type) where
  ttl : Duration
  entries : List (String × CacheEntry α) := []
  hits : Nat := 0
  misses : Nat := 0
  evictions : Nat := 0
  /-- No key is stored twice. -/
  distinct : (entries.map (·.1)).Nodup := by simp
  deriving Repr

/-- Why `Cache.set` cannot store a value. -/
inductive CacheError where
  | deadlineOverflow
  deriving DecidableEq, Repr

/-- The text of a `CacheError`, as a log shows it. -/
def CacheError.message : CacheError → String
  | .deadlineOverflow => "overflow when adding duration to instant"

namespace Cache

/-- The stored entry of `key`, expired or not. -/
def find? (c : Cache α) (key : String) : Option (CacheEntry α) :=
  c.entries.lookup key

/-- The cache without the entry of `key`. -/
def erase (c : Cache α) (key : String) : Cache α :=
  { c with
    entries := c.entries.filter (·.1 != key)
    distinct := c.distinct.sublist (List.filter_sublist.map _) }

theorem not_mem_erase (c : Cache α) (key : String) : key ∉ (c.erase key).entries.map (·.1) := by
  simp [erase]

/-- The counters of a cache, and as `size` how many entries it holds. -/
def stats (c : Cache α) : CacheStats :=
  ⟨c.hits, c.misses, c.evictions, c.entries.length⟩

/-- Reads `key`. An expired entry is dropped and counts as an eviction and a miss. -/
def get (c : Cache α) (now : Instant) (key : String) : Option α × Cache α :=
  match c.find? key with
  | none => (none, { c with misses := c.misses + 1 })
  | some e =>
    if e.expired now then
      (none, { c.erase key with misses := c.misses + 1, evictions := c.evictions + 1 })
    else (some e.value, { c with hits := c.hits + 1 })

/-- Stores a value under `key`. With `deadlineOverflow` nothing is stored: the deadline lies beyond
`Instant.horizon`. -/
def set (c : Cache α) (now : Instant) (key : String) (value : α) : Except CacheError (Cache α) :=
  let expiresAt := now + c.ttl.nanos
  if expiresAt < Instant.horizon then
    -- the old entry goes first, so that no key is stored twice
    .ok { c with
      entries := (key, ⟨value, expiresAt⟩) :: (c.erase key).entries
      distinct := List.nodup_cons.2 ⟨c.not_mem_erase key, (c.erase key).distinct⟩ }
  else .error .deadlineOverflow

/-- Drops every entry that has `expired` and says how many there were. -/
def evictExpired (c : Cache α) (now : Instant) : Nat × Cache α :=
  let live := c.entries.filter fun (_, e) => !e.expired now
  let dropped := c.entries.length - live.length
  (dropped, { c with
    entries := live
    evictions := c.evictions + dropped
    distinct := c.distinct.sublist (List.filter_sublist.map _) })

end Cache

/-! ## Janitors -/

/-- A janitor, which sweeps a cache at its start and then once per `interval`. -/
structure Janitor where
  interval : Nat
  nextTick : Instant
  deriving DecidableEq, Repr

namespace Janitor

/-- A janitor that has just made its first sweep: the next is an `interval` away. -/
def start (interval : Nat) (now : Instant) : Janitor :=
  ⟨interval, now + interval⟩

/-- Whether the tick of a janitor is due: `nextTick` has come. -/
def due (j : Janitor) (now : Instant) : Bool :=
  j.nextTick ≤ now

/-- The janitor after all ticks up to `now`: the next one stays on the grid of its start. -/
def catchUp (j : Janitor) (now : Instant) : Janitor :=
  if j.due now then
    -- ticks that were missed are made up for by one sweep
    { j with nextTick := j.nextTick + ((now - j.nextTick) / j.interval + 1) * j.interval }
  else j

end Janitor

/-- A `Cache` together with the clock and the janitors at work on it. -/
structure TendedCache (α : Type) where
  cache : Cache α
  now : Instant := 0
  janitors : List Janitor := []
  deriving Repr

namespace TendedCache

/-- Reads `key` at the present time. -/
def get (t : TendedCache α) (key : String) : Option α × TendedCache α :=
  let (value, cache) := t.cache.get t.now key
  (value, { t with cache })

/-- Stores a value under `key` at the present time. -/
def set (t : TendedCache α) (key : String) (value : α) : Except CacheError (TendedCache α) := do
  return { t with cache := ← t.cache.set t.now key value }

/-- Drops what has `expired` by now. -/
def evictExpired (t : TendedCache α) : Nat × TendedCache α :=
  let (dropped, cache) := t.cache.evictExpired t.now
  (dropped, { t with cache })

/-- Lets `span` pass. A janitor with a due tick then sweeps, at the new time. -/
def advance (t : TendedCache α) (span : Duration) : TendedCache α :=
  let now := t.now + span.nanos
  -- a second sweep at the same time would find nothing, so one stands for all janitors
  let cache := if t.janitors.any (·.due now) then (t.cache.evictExpired now).2 else t.cache
  ⟨cache, now, t.janitors.map (·.catchUp now)⟩

/-- Starts a janitor, which sweeps at once. An `interval` of zero starts none. -/
def startJanitor (t : TendedCache α) (interval : Duration) : Bool × TendedCache α :=
  if interval.nanos = 0 then (false, t)
  else
    let swept := t.evictExpired.2
    (true, { swept with janitors := swept.janitors ++ [.start interval.nanos t.now] })

/-- Sends all `janitors` home and says how many there were. -/
def shutdown (t : TendedCache α) : Nat × TendedCache α :=
  (t.janitors.length, { t with janitors := [] })

end TendedCache

end CertGate
