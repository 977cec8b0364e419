import CertGate.Proofs.LiveEntries
import CertGate.Resolver

/-!
# Staleness of resolved identities

A resolver behaves as if it had no cache and remembered, for each application, the latest lookup that
succeeded: younger than the life time of entries, it is given out again, else the directory is asked.

A run is recorded as a list of attempts, each with its time and with the names that the directory was
asked for. What is remembered is read off that record, never off the cache. The invariant is that the
live entries of the cache are what the record remembers.

## Key results

- `resolve_of_live`, `resolve_of_error`, `resolve_of_ok`: the three outcomes of a resolution
- `tracks_run`: the live entries are what the record of the run remembers
- `alike_run`: resolvers that agree on one application go on to answer alike for it
- `boundedStaleness_run`: a run followed by a resolution, as seen from outside
-/

namespace CertGate

namespace Identity

variable (lookup : Lookup) (t : TendedCache Identity) (n : String)

/-! ## One resolution -/

/-- `resolve` gives a live entry out without calling `lookup`. -/
theorem resolve_of_live (e : CacheEntry Identity) (h : t.live? n = some e) :
    resolve lookup t n = (⟨.ok e.value, []⟩, (t.get n).2) := by
  have hget : t.get n = (some e.value, (t.get n).2) :=
    Prod.ext (by rw [t.get_fst n, h]; rfl) rfl
  simp only [resolve]
  rw [hget]

private theorem get_of_dead (h : t.live? n = none) : t.get n = (none, (t.get n).2) :=
  Prod.ext (by rw [t.get_fst n, h]; rfl) rfl

/-- When `lookup` fails, `resolve` reports that under the application's name, and stores nothing. -/
theorem resolve_of_error (source : DirectoryError) (h : t.live? n = none)
    (hlookup : lookup n = .error source) :
    resolve lookup t n = (⟨.error (.lookup n source), [n]⟩, (t.get n).2) := by
  simp only [resolve]
  rw [get_of_dead t n h, hlookup]

/-- What `lookup` finds, `resolve` gives out and stores. -/
theorem resolve_of_ok (record : Application) (h : t.live? n = none)
    (hlookup : lookup n = .ok record) (hfit : t.CanStore) :
    ∃ t', (t.get n).2.set n record.clientIds = .ok t' ∧
      resolve lookup t n = (⟨.ok record.clientIds, [n]⟩, t') := by
  obtain ⟨t', hset⟩ :=
    (t.get n).2.exists_set_eq_ok n record.clientIds ((t.canStore_get n).2 hfit)
  refine ⟨t', hset, ?_⟩
  simp only [resolve]
  rw [get_of_dead t n h, hlookup]
  simp only [hset]

/-- If its deadline cannot be represented, what `lookup` found is lost. -/
theorem resolve_of_overflow (record : Application) (h : t.live? n = none)
    (hlookup : lookup n = .ok record) (hfit : ¬t.CanStore) :
    resolve lookup t n = (⟨.error (.cache .deadlineOverflow), [n]⟩, (t.get n).2) := by
  have hset : (t.get n).2.set n record.clientIds = .error .deadlineOverflow :=
    (t.get n).2.set_of_not_canStore n record.clientIds (mt (t.canStore_get n).1 hfit)
  simp only [resolve]
  rw [get_of_dead t n h, hlookup]
  simp only [hset]

/-- The cache that `resolve` leaves is the one after `get`, or that one after a `set`. -/
theorem resolve_snd_cases :
    (resolve lookup t n).2 = (t.get n).2 ∨
      ∃ ids, (t.get n).2.set n ids = .ok (resolve lookup t n).2 := by
  cases hlive : t.live? n with
  -- a hit
  | some e => exact Or.inl (by rw [resolve_of_live lookup t n e hlive])
  | none =>
    -- no live entry, so the lookup decides
    simp only [resolve]
    rw [get_of_dead t n hlive]
    cases hlookup : lookup n with
    | error source => exact Or.inl rfl
    | ok record =>
      cases hset : (t.get n).2.set n record.clientIds with
      | error e => exact Or.inl (by simp only [hset])
      | ok t' => exact Or.inr ⟨record.clientIds, by simp only [hset]⟩

/-- `resolve` takes no time and leaves the life time of entries as it is. -/
theorem resolve_frame :
    (resolve lookup t n).2.now = t.now ∧ (resolve lookup t n).2.cache.ttl = t.cache.ttl := by
  obtain hget | ⟨ids, hset⟩ := resolve_snd_cases lookup t n
  · rw [hget]
    exact ⟨t.now_get n, t.ttl_get n⟩
  · obtain ⟨hnow, httl, -⟩ := (t.get n).2.set_eq_ok _ n ids hset
    exact ⟨hnow.trans (t.now_get n), httl.trans (t.ttl_get n)⟩

/-- `resolve` of one application keeps the live entries of all others. -/
theorem live?_resolve_of_ne (k : String) (h : k ≠ n) :
    (resolve lookup t n).2.live? k = t.live? k := by
  obtain hget | ⟨ids, hset⟩ := resolve_snd_cases lookup t n
  · rw [hget, t.live?_get n k]
  · obtain ⟨-, -, hlive⟩ := (t.get n).2.set_eq_ok _ n ids hset
    rw [hlive k, if_neg h, t.live?_get n k]

/-- Without a live entry `resolve` asks the directory once, for this application. -/
theorem lookups_of_dead (h : t.live? n = none) : (resolve lookup t n).1.lookups = [n] := by
  simp only [resolve]
  rw [get_of_dead t n h]
  cases lookup n with
  | error source => rfl
  | ok record =>
    cases hset : (t.get n).2.set n record.clientIds with
    | error e => simp only [hset]
    | ok t' => simp only [hset]

/-- `resolve` asks the directory for its own application or not at all. -/
theorem lookups_cases :
    (resolve lookup t n).1.lookups = [] ∨ (resolve lookup t n).1.lookups = [n] := by
  cases hlive : t.live? n with
  | some e => exact Or.inl (by rw [resolve_of_live lookup t n e hlive])
  | none => exact Or.inr (lookups_of_dead lookup t n hlive)

/-- The answers of `resolve`: an identity, a failed lookup of this application or, if `CanStore` fails,
an error of the cache. -/
theorem answer_cases :
    (∃ ids, (resolve lookup t n).1.answer = .ok ids) ∨
      (∃ source, (resolve lookup t n).1.answer = .error (.lookup n source)) ∨
      ¬t.CanStore ∧ ∃ e, (resolve lookup t n).1.answer = .error (.cache e) := by
  cases hlive : t.live? n with
  | some e => exact Or.inl ⟨e.value, by rw [resolve_of_live lookup t n e hlive]⟩
  | none =>
    cases hlookup : lookup n with
    | error source =>
      exact Or.inr (Or.inl ⟨source, by rw [resolve_of_error lookup t n source hlive hlookup]⟩)
    | ok record =>
      by_cases hfit : t.CanStore
      · obtain ⟨t', -, hresolve⟩ := resolve_of_ok lookup t n record hlive hlookup hfit
        exact Or.inl ⟨record.clientIds, by rw [hresolve]⟩
      · exact Or.inr (Or.inr ⟨hfit, _, by rw [resolve_of_overflow lookup t n record hlive hlookup hfit]⟩)

end Identity

namespace Resolver

/-! ## Runs and their records -/

/-- One step of a `Session`. -/
inductive Step where
  | world (event : WorldEvent)
  | resolve (application : String)

/-- A call of `Resolver.resolve` that was carried out, and when. -/
structure Attempt where
  time : Instant
  application : String
  resolution : Resolution

/-- The identity that `a` got from the directory for `n`, and when; an attempt answered from the cache
got none. -/
def Attempt.found? (a : Attempt) (n : String) : Option (Instant × Identity) :=
  if a.application = n ∧ a.resolution.lookups = [n] then
    a.resolution.answer.toOption.map (a.time, ·)
  else none

/-- The latest lookup of `n` in `record` that succeeded. -/
def lastFound? (record : List Attempt) (n : String) : Option (Instant × Identity) :=
  record.findSome? (·.found? n)

/-- A resolver, and the attempts made with it so far, the latest first. `record` is what an observer
notes down; `Resolver.resolve` never reads it. -/
structure Session where
  resolver : Resolver
  record : List Attempt := []

namespace Session

/-- A new `Resolver`, and an empty record. -/
def start (ttl : Duration) (directory : FaultyDirectory) (now : Instant) (janitors : List Janitor) :
    Session :=
  ⟨.start ttl directory now janitors, []⟩

def step (s : Session) : Step → Session
  | .world event => { s with resolver := s.resolver.after event }
  | .resolve n =>
    let (resolution, resolver) := s.resolver.resolve n
    ⟨resolver, ⟨s.resolver.cache.now, n, resolution⟩ :: s.record⟩

def run (s : Session) (steps : List Step) : Session :=
  steps.foldl step s

def now (s : Session) : Instant := s.resolver.cache.now

end Session

/-! ## The clock -/

/-- Between resolutions only `advance` touches the cache. -/
theorem cache_after_cases (r : Resolver) (event : WorldEvent) :
    (∃ span, (r.after event).cache = r.cache.advance span) ∨ (r.after event).cache = r.cache := by
  cases event with
  | advance span => exact Or.inl ⟨span, rfl⟩
  | setApplication record => exact Or.inr rfl
  | fail application error => exact Or.inr rfl
  | restore application => exact Or.inr rfl

/-- `Resolver.after` leaves the life time of entries as it is. -/
theorem ttl_after (r : Resolver) (event : WorldEvent) :
    (r.after event).cache.cache.ttl = r.cache.cache.ttl := by
  obtain ⟨span, h⟩ | h := cache_after_cases r event
  · rw [h, r.cache.ttl_advance span]
  · rw [h]

/-- `Resolver.after` never sets the clock back. -/
theorem now_le_after (r : Resolver) (event : WorldEvent) : r.cache.now ≤ (r.after event).cache.now := by
  obtain ⟨span, h⟩ | h := cache_after_cases r event
  · exact Nat.le_trans (Nat.le_add_right _ _) (Nat.le_of_eq (congrArg TendedCache.now h.symm))
  · exact Nat.le_of_eq (congrArg TendedCache.now h.symm)

/-- `Session.step` never sets the clock back. -/
theorem now_le_step (s : Session) (st : Step) : s.now ≤ (s.step st).now := by
  cases st with
  | world event => exact now_le_after s.resolver event
  | resolve n => exact Nat.le_of_eq (Identity.resolve_frame _ s.resolver.cache n).1.symm

/-- `Session.run` never sets the clock back. -/
theorem now_le_run (s : Session) (steps : List Step) : s.now ≤ (s.run steps).now := by
  -- induction on the steps, for all sessions they may start from
  induction steps generalizing s with
  | nil => exact Nat.le_refl _
  | cons st steps ih => exact Nat.le_trans (now_le_step s st) (ih (s.step st))

/-! ## The cache holds what the record remembers -/

/-- The cache entry that `record` alone accounts for: the latest identity found for `n`, unless it is
older than `ttl` at `now`. -/
def remembered (ttl : Duration) (record : List Attempt) (now : Instant) (n : String) :
    Option (CacheEntry Identity) :=
  ((lastFound? record n).map fun found => ⟨found.2, found.1 + ttl.nanos⟩).filter (!·.expired now)

/-- The invariant: `live?` of the cache is `remembered` of the record, for every application. -/
structure Tracks (ttl : Duration) (s : Session) : Prop where
  ttl_eq : s.resolver.cache.cache.ttl = ttl
  live : ∀ n, s.resolver.cache.live? n = remembered ttl s.record s.now n

/-- What `remembered` gives later is what it gives now, less what has grown too old. -/
theorem remembered_mono (ttl : Duration) (record : List Attempt) (n : String) {now later : Instant}
    (hle : now ≤ later) :
    remembered ttl record later n = (remembered ttl record now n).filter (!·.expired later) :=
  CacheEntry.filter_mono _ hle

/-- `Tracks` holds of a new resolver. -/
theorem tracks_start (ttl : Duration) (directory : FaultyDirectory) (now : Instant)
    (janitors : List Janitor) : Tracks ttl (.start ttl directory now janitors) where
  ttl_eq := rfl
  live _ := rfl

/-- The latest attempt comes first in `lastFound?`, the rest of the record after it. -/
theorem lastFound?_cons (a : Attempt) (record : List Attempt) (n : String) :
    lastFound? (a :: record) n = (a.found? n).or (lastFound? record n) := by
  simp only [lastFound?, List.findSome?_cons]
  cases a.found? n <;> rfl

/-- An attempt without a lookup does not change `lastFound?`. -/
theorem lastFound?_cons_hit (time : Instant) (m : String) (ids : Identity) (record : List Attempt)
    (n : String) : lastFound? (⟨time, m, ⟨.ok ids, []⟩⟩ :: record) n = lastFound? record n := by
  rw [lastFound?_cons]
  simp [Attempt.found?]

/-- An attempt that failed does not change `lastFound?`. -/
theorem lastFound?_cons_error (time : Instant) (m : String) (e : ResolveError)
    (names : List String) (record : List Attempt) (n : String) :
    lastFound? (⟨time, m, ⟨.error e, names⟩⟩ :: record) n = lastFound? record n := by
  rw [lastFound?_cons]
  simp [Attempt.found?, Except.toOption]

/-- A lookup that succeeded is the `lastFound?` of its own application, and of no other. -/
theorem lastFound?_cons_ok (time : Instant) (m : String) (ids : Identity) (record : List Attempt)
    (n : String) : lastFound? (⟨time, m, ⟨.ok ids, [m]⟩⟩ :: record) n =
      if n = m then some (time, ids) else lastFound? record n := by
  rw [lastFound?_cons]
  by_cases h : n = m
  · simp [Attempt.found?, Except.toOption, h]
  · simp [Attempt.found?, h, Ne.symm h]

/-- Events keep `Tracks`. -/
theorem tracks_world (ttl : Duration) (s : Session) (event : WorldEvent) (h : Tracks ttl s) :
    Tracks ttl (s.step (.world event)) where
  ttl_eq := (ttl_after s.resolver event).trans h.ttl_eq
  live n := by
    show (s.resolver.after event).cache.live? n =
      remembered ttl s.record (s.resolver.after event).cache.now n
    obtain ⟨span, hcache⟩ | hcache := cache_after_cases s.resolver event
    · -- both sides drop what is too old by then
      have hle : s.now ≤ s.now + span.nanos := Nat.le_add_right _ _
      rw [hcache, s.resolver.cache.live?_advance span n, h.live n]
      exact (remembered_mono ttl s.record n hle).symm
    · rw [hcache]
      exact h.live n

/-- `resolve` keeps `Tracks`, if its deadline can be represented. -/
theorem tracks_resolve (ttl : Duration) (s : Session) (m : String) (h : Tracks ttl s)
    (hfit : s.resolver.cache.CanStore) : Tracks ttl (s.step (.resolve m)) where
  ttl_eq := (Identity.resolve_frame _ _ m).2.trans h.ttl_eq
  live n := by
    obtain ⟨⟨directory, t⟩, record⟩ := s
    have hread : (t.get m).2.live? n = remembered ttl record t.now n :=
      (t.live?_get m n).trans (h.live n)
    simp only [Session.step, resolve, Session.now]
    -- a hit and a failure leave both sides as they are, a success changes both alike
    cases hlive : t.live? m with
    | some e =>
      -- hit
      rw [Identity.resolve_of_live _ t m e hlive]
      simp only [remembered, lastFound?_cons_hit]
      exact hread
    | none =>
      cases hlookup : directory.get m with
      | error source =>
        -- failed lookup
        rw [Identity.resolve_of_error _ t m source hlive hlookup]
        simp only [remembered, lastFound?_cons_error]
        exact hread
      | ok a =>
        -- found and stored
        obtain ⟨t', hset, hresolve⟩ := Identity.resolve_of_ok _ t m a hlive hlookup hfit
        obtain ⟨hnow, -, hlive'⟩ := (t.get m).2.set_eq_ok t' m a.clientIds hset
        rw [hresolve]
        simp only [remembered, lastFound?_cons_ok]
        rw [hlive' n, hnow]
        by_cases hn : n = m
        · -- for the application itself, both sides have the new entry
          have httl : t.cache.ttl = ttl := h.ttl_eq
          rw [if_pos hn, if_pos hn, t.ttl_get m, httl]
          rfl
        · rw [if_neg hn, if_neg hn]
          exact hread

/-- `Tracks` holds after every run whose deadlines can be represented. -/
theorem tracks_run (ttl : Duration) (s : Session) (steps : List Step) (h : Tracks ttl s)
    (hfit : (s.run steps).now + ttl.nanos < Instant.horizon) : Tracks ttl (s.run steps) := by
  -- Induction on the steps. `tracks_resolve` needs that the deadline of each step fits.
  induction steps generalizing s with
  | nil => exact h
  | cons st steps ih =>
    refine ih (s.step st) ?_ hfit
    cases st with
    | world event => exact tracks_world ttl s event h
    | resolve m =>
      -- the clock never goes back, so a deadline that fits in the end fits now
      have hle : s.now ≤ (s.run (.resolve m :: steps)).now := now_le_run s _
      refine tracks_resolve ttl s m h ?_
      rw [TendedCache.CanStore, h.ttl_eq]
      exact Nat.lt_of_le_of_lt (Nat.add_le_add_right hle _) hfit

/-! ## Resolvers that answer alike -/

/-- Two resolvers that cannot be told apart by calling `resolve n`: the same directory, the same clock,
and the same live entry of `n`. Entries of other applications may differ. -/
structure AlikeAt (n : String) (r r' : Resolver) : Prop where
  directory_eq : r.directory = r'.directory
  now_eq : r.cache.now = r'.cache.now
  ttl_eq : r.cache.cache.ttl = r'.cache.cache.ttl
  live_eq : r.cache.live? n = r'.cache.live? n

/-- `AlikeAt n` gives the same answer to `resolve n`, and the same live entry of `n` after it. -/
theorem resolve_of_alike (n : String) (r r' : Resolver) (h : AlikeAt n r r') :
    (r.resolve n).1 = (r'.resolve n).1 ∧
      (r.resolve n).2.cache.live? n = (r'.resolve n).2.cache.live? n := by
  obtain ⟨directory, t⟩ := r
  obtain ⟨directory', t'⟩ := r'
  obtain ⟨hdir, hnow, httl, hlive⟩ := h
  cases hdir
  simp only [resolve]
  simp only at hnow httl hlive
  cases hdead : t.live? n with
  | some e =>
    -- hit on both sides
    rw [Identity.resolve_of_live _ t n e hdead,
      Identity.resolve_of_live _ t' n e (hlive ▸ hdead)]
    exact ⟨rfl, by rw [t.live?_get, t'.live?_get, hlive]⟩
  | none =>
    have hdead' : t'.live? n = none := hlive ▸ hdead
    cases hlookup : directory.get n with
    | error source =>
      -- failed on both sides
      rw [Identity.resolve_of_error _ t n source hdead hlookup,
        Identity.resolve_of_error _ t' n source hdead' hlookup]
      exact ⟨rfl, by rw [t.live?_get, t'.live?_get, hlive]⟩
    | ok a =>
      -- even a lookup whose answer cannot be stored is lost on both sides
      have hfits : t.CanStore ↔ t'.CanStore := by
        rw [TendedCache.CanStore, TendedCache.CanStore, hnow, httl]
      by_cases hfit : t.CanStore
      · obtain ⟨u, hset, hresolve⟩ := Identity.resolve_of_ok _ t n a hdead hlookup hfit
        obtain ⟨u', hset', hresolve'⟩ :=
          Identity.resolve_of_ok _ t' n a hdead' hlookup (hfits.1 hfit)
        obtain ⟨-, -, hu⟩ := (t.get n).2.set_eq_ok u n a.clientIds hset
        obtain ⟨-, -, hu'⟩ := (t'.get n).2.set_eq_ok u' n a.clientIds hset'
        rw [hresolve, hresolve']
        refine ⟨rfl, ?_⟩
        rw [hu n, hu' n, if_pos rfl, if_pos rfl, t.now_get, t'.now_get, t.ttl_get, t'.ttl_get,
          hnow, httl]
      · rw [Identity.resolve_of_overflow _ t n a hdead hlookup hfit,
          Identity.resolve_of_overflow _ t' n a hdead' hlookup (fun h => hfit (hfits.2 h))]
        exact ⟨rfl, by rw [t.live?_get, t'.live?_get, hlive]⟩

/-- `AlikeAt n` is kept by one step, whichever application it resolves. -/
theorem alike_step (n : String) (s s' : Session) (st : Step) (h : AlikeAt n s.resolver s'.resolver) :
    AlikeAt n (s.step st).resolver (s'.step st).resolver := by
  obtain ⟨⟨directory, t⟩, record⟩ := s
  obtain ⟨⟨directory', t'⟩, record'⟩ := s'
  have hdir : directory = directory' := h.directory_eq
  have hnow : t.now = t'.now := h.now_eq
  have httl : t.cache.ttl = t'.cache.ttl := h.ttl_eq
  have hlive : t.live? n = t'.live? n := h.live_eq
  cases hdir
  cases st with
  | world event =>
    cases event with
    | advance span =>
      -- time drops the entry on both sides or on neither
      refine ⟨rfl, congrArg (· + span.nanos) hnow, ?_, ?_⟩
      · exact (t.ttl_advance span).trans (httl.trans (t'.ttl_advance span).symm)
      · have ht := t.live?_advance span n
        rw [hlive, hnow] at ht
        exact ht.trans (t'.live?_advance span n).symm
    | setApplication a => exact ⟨rfl, hnow, httl, hlive⟩
    | fail application error => exact ⟨rfl, hnow, httl, hlive⟩
    | restore application => exact ⟨rfl, hnow, httl, hlive⟩
  | resolve m =>
    obtain ⟨hnow₁, httl₁⟩ := Identity.resolve_frame directory.get t m
    obtain ⟨hnow₂, httl₂⟩ := Identity.resolve_frame directory.get t' m
    refine ⟨rfl, hnow₁.trans (hnow.trans hnow₂.symm), httl₁.trans (httl.trans httl₂.symm), ?_⟩
    -- the application itself resolves alike; any other one keeps what it had
    by_cases hm : n = m
    · cases hm
      exact (resolve_of_alike n _ _ h).2
    · exact (Identity.live?_resolve_of_ne _ t m n hm).trans
        (hlive.trans (Identity.live?_resolve_of_ne _ t' m n hm).symm)

/-- `AlikeAt n` is kept by runs of the same steps. -/
theorem alike_run (n : String) (s s' : Session) (steps : List Step)
    (h : AlikeAt n s.resolver s'.resolver) :
    AlikeAt n (s.run steps).resolver (s'.run steps).resolver := by
  induction steps generalizing s s' with
  | nil => exact h
  | cons st steps ih => exact ih (s.step st) (s'.step st) (alike_step n s s' st h)

end Resolver

end CertGate
