import CertGate.Proofs.CacheSteps
import CertGate.Proofs.ResolverStaleness

/-!
# Resolutions that run side by side

A resolution reads the cache, asks the directory if it found nothing there, and writes what it was
told. Each of these is one step, and between the steps of one call anything may happen: steps of other
calls, changes of the directory, sweeps, time that passes.

All steps of calls are noted in a log, each with its call and its name, with the time, and with the
directory as it was at that moment: what a lookup of a name returned is read off the directory, and not
taken from what the call says of it. The invariant ties the cache to the log: an entry, even one that has
expired, is of the latest write of its name, and a write follows a lookup of the same call. What single
calls have done is told by their stages.

## Key results

- `resolve_eq_proceed`: a resolution is the steps of one call with nothing in between
- `sound_step`, `sound_run`: the invariant
- `identitiesApart_run`: what calls return and what is stored, however their steps fall
-/

namespace CertGate

/-- What `Cache.Drops` leaves of a cache was in it before: `find?` gives no entry that it did not give. -/
theorem Cache.Drops.find?_eq_some {α : Type} {c c' : Cache α} {now : Instant} {k : String}
    {e : CacheEntry α} (h : c.Drops now c') (hfind : c'.find? k = some e) : c.find? k = some e := by
  obtain hsame | hlive := h.find k
  · rwa [hsame] at hfind
  · rw [hlive, live?, Option.filter_eq_some_iff] at hfind
    exact hfind.1

namespace Resolver

/-! ## The steps of a call -/

/-- `resolve` is three times `proceed`, with nothing in between. -/
theorem resolve_eq_proceed (r : Resolver) (n : String) :
    proceed n (proceed n (proceed n (.reading, r))) = (.done (r.resolve n).1.answer, (r.resolve n).2) := by
  obtain ⟨directory, t⟩ := r
  simp only [resolve, Identity.resolve]
  rcases hget : t.get n with ⟨_ | ids, t'⟩
  · -- the directory is asked, and what it says is stored or lost
    cases hlookup : directory.get n with
    | error source => simp [proceed, advance?, hget, hlookup]
    | ok record =>
      cases hset : t'.set n record.clientIds with
      | error e => simp [proceed, advance?, hget, hlookup, hset]
      | ok t'' => simp [proceed, advance?, hget, hlookup, hset]
  · -- the entry that was read is all there is to it, and the other two steps do nothing
    simp [proceed, advance?, hget]

/-- A call that reads a live entry is done: `advance?` gives its value out. -/
theorem advance?_of_live (r : Resolver) (n : String) (e : CacheEntry Identity)
    (hlive : r.cache.live? n = some e) : advance? r n .reading =
      some (.hit e.value, .done (.ok e.value), { r with cache := (r.cache.get n).2 }) := by
  have hget : r.cache.get n = (some e.value, (r.cache.get n).2) :=
    Prod.ext (by rw [r.cache.get_fst n, hlive]; rfl) rfl
  simp only [advance?]
  rw [hget]

/-- A call that finds no live entry is to ask the directory, says `advance?`. -/
theorem advance?_of_dead (r : Resolver) (n : String) (hdead : r.cache.live? n = none) :
    advance? r n .reading = some (.missed, .asking, { r with cache := (r.cache.get n).2 }) := by
  have hget : r.cache.get n = (none, (r.cache.get n).2) :=
    Prod.ext (by rw [r.cache.get_fst n, hdead]; rfl) rfl
  simp only [advance?]
  rw [hget]

/-- What `advance?` can do at each stage, with the cases of the cache told by its live entries. -/
inductive Advances (r : Resolver) (n : String) : Stage → Deed → Stage → Resolver → Prop where
  | hit (e : CacheEntry Identity) (hlive : r.cache.live? n = some e) :
    Advances r n .reading (.hit e.value) (.done (.ok e.value)) { r with cache := (r.cache.get n).2 }
  | missed (hdead : r.cache.live? n = none) :
    Advances r n .reading .missed .asking { r with cache := (r.cache.get n).2 }
  | failed (source : DirectoryError) (hlookup : r.directory.get n = .error source) :
    Advances r n .asking (.failed source) (.done (.error (.lookup n source))) r
  | found (record : Application) (hlookup : r.directory.get n = .ok record) :
    Advances r n .asking (.found record) (.storing record) r
  | stored (record : Application) (t : TendedCache Identity)
    (hset : r.cache.set n record.clientIds = .ok t) :
    Advances r n (.storing record) (.stored record.clientIds) (.done (.ok record.clientIds))
      { r with cache := t }
  | lost (record : Application) (hfull : ¬r.cache.CanStore) :
    Advances r n (.storing record) (.lost .deadlineOverflow) (.done (.error (.cache .deadlineOverflow))) r

/-- Every step that `advance?` takes is one of those that `Advances` lists. -/
theorem advances_of_advance? (r : Resolver) (n : String) (stage : Stage) (deed : Deed) (next : Stage)
    (r' : Resolver) (h : advance? r n stage = some (deed, next, r')) :
    Advances r n stage deed next r' := by
  cases stage with
  | reading =>
    -- the cache has a live entry, or the directory is asked next
    cases hlive : r.cache.live? n with
    | some e =>
      rw [advance?_of_live r n e hlive] at h
      cases h
      exact .hit e hlive
    | none =>
      rw [advance?_of_dead r n hlive] at h
      cases h
      exact .missed hlive
  | asking =>
    simp only [advance?] at h
    split at h
    · next source hlookup =>
      cases h
      exact .failed source hlookup
    · next record hlookup =>
      cases h
      exact .found record hlookup
  | storing record =>
    simp only [advance?] at h
    -- `set` succeeds exactly as long as the deadline can be represented
    by_cases hfit : r.cache.CanStore
    · obtain ⟨t, hset⟩ := r.cache.exists_set_eq_ok n record.clientIds hfit
      rw [hset] at h
      cases h
      exact .stored record t hset
    · rw [r.cache.set_of_not_canStore n record.clientIds hfit] at h
      cases h
      exact .lost record hfit
  | done answer => cases h

/-! ## Calls and their log -/

/-- A call of `resolve` for an application, and how far it has come. -/
structure Call where
  application : String
  stage : Stage := .reading

/-- A step of a call that was carried out: the `Deed`, when it was done, and what the directory held at
that moment. -/
structure Note where
  time : Instant
  directory : FaultyDirectory
  call : Nat
  application : String
  deed : Deed

/-- The list that a note says was written for `n`, and when: that of a `Deed.stored`. -/
def Note.stored? (note : Note) (n : String) : Option (Instant × Identity) :=
  match note.deed with
  | .stored ids => if note.application = n then some (note.time, ids) else none
  | _ => none

/-- The list that was written last for `n`, and when. The first `Note.stored?` is the latest: the log
has the latest note first. -/
def lastStored? (log : List Note) (n : String) : Option (Instant × Identity) :=
  log.findSome? (·.stored? n)

/-- What call `i`, for application `n`, has come to so far, the latest first. -/
def deeds (log : List Note) (i : Nat) (n : String) : List Deed :=
  log.filterMap fun note => if note.call = i ∧ note.application = n then some note.deed else none

/-- A list is that of a record which a lookup of `n` returned: the directory had the record under this
name when a call asked for it. The note alone does not count, since the call wrote its `deed`. -/
def Found (log : List Note) (n : String) (ids : Identity) : Prop :=
  ∃ note ∈ log, note.application = n ∧ ∃ record, note.deed = .found record ∧
    note.directory.get n = .ok record ∧ record.clientIds = ids

/-- A `Resolver`, every `Call` that was made of it, and the log of their steps, the latest `Note`
first. -/
structure Traffic where
  resolver : Resolver
  calls : List Call := []
  log : List Note := []

/-- What can happen next: a new call, the next step of a call, a `WorldEvent`, or a sweep. -/
inductive Move where
  | call (application : String)
  | proceed (i : Nat)
  | world (event : WorldEvent)
  | sweep

namespace Traffic

/-- A new resolver that was not called yet, as `Resolver.start` gives it. -/
def start (ttl : Duration) (directory : FaultyDirectory) (now : Instant) (janitors : List Janitor) :
    Traffic :=
  { resolver := .start ttl directory now janitors }

/-- Lets one `Move` happen. A call that is done, or that was not made, does not proceed. It is the
traffic and not the call that notes the time and the directory. -/
def step (s : Traffic) : Move → Traffic
  | .call n => { s with calls := s.calls ++ [{ application := n }] }
  | .proceed i =>
    match s.calls[i]? with
    | none => s
    | some c =>
      match advance? s.resolver c.application c.stage with
      | none => s
      | some (deed, stage, resolver) =>
        { resolver
          calls := s.calls.set i { c with stage }
          log := ⟨s.resolver.cache.now, s.resolver.directory, i, c.application, deed⟩ :: s.log }
  | .world event => { s with resolver := s.resolver.after event }
  | .sweep => { s with resolver := { s.resolver with cache := s.resolver.cache.evictExpired.2 } }

/-- Lets one `Move` happen after the other. -/
def run (s : Traffic) (moves : List Move) : Traffic :=
  moves.foldl step s

/-- The time on the clock of the cache: that of the next `Note`. -/
def now (s : Traffic) : Instant := s.resolver.cache.now

end Traffic

/-! ## The log -/

theorem lastStored?_cons (note : Note) (log : List Note) (n : String) :
    lastStored? (note :: log) n = (note.stored? n).or (lastStored? log n) := by
  simp only [lastStored?, List.findSome?_cons]
  cases note.stored? n <;> rfl

/-- What `lastStored?` gives was written by some step of the log. -/
theorem exists_of_lastStored? (log : List Note) (n : String) (time : Instant) (ids : Identity)
    (h : lastStored? log n = some (time, ids)) :
    ∃ note earlier, note :: earlier <:+ log ∧ note.application = n ∧ note.time = time ∧
      note.deed = .stored ids := by
  induction log with
  | nil => cases h
  | cons note log ih =>
    rw [lastStored?_cons] at h
    cases hstored : note.stored? n with
    | none =>
      -- the latest note writes something else, so the writer is further back
      rw [hstored, Option.none_or] at h
      obtain ⟨other, earlier, hsuffix, hother⟩ := ih h
      exact ⟨other, earlier, hsuffix.trans (List.suffix_cons note log), hother⟩
    | some written =>
      rw [hstored, Option.some_or] at h
      cases h
      simp only [Note.stored?] at hstored
      split at hstored
      · next written hdeed =>
        split at hstored
        · next hname =>
          cases hstored
          exact ⟨note, log, List.suffix_rfl, hname, rfl, hdeed⟩
        · cases hstored
      · cases hstored

theorem deeds_cons (note : Note) (log : List Note) (i : Nat) (n : String) :
    deeds (note :: log) i n =
      if note.call = i ∧ note.application = n then note.deed :: deeds log i n else deeds log i n := by
  rw [deeds, List.filterMap_cons]
  split
  · next hnone =>
    split at hnone
    · cases hnone
    · next hother => rw [if_neg hother, deeds]
  · next deed hsome =>
    split at hsome
    · next hsame =>
      cases hsome
      rw [if_pos hsame, deeds]
    · cases hsome

/-- What `deeds` gives stands in a note, with everything that came before it behind the note. -/
theorem exists_of_mem_deeds (log : List Note) (i : Nat) (n : String) (deed : Deed)
    (h : deed ∈ deeds log i n) :
    ∃ note earlier, note :: earlier <:+ log ∧ note.call = i ∧ note.application = n ∧
      note.deed = deed := by
  obtain ⟨note, hmem, hnote⟩ := List.mem_filterMap.1 h
  obtain ⟨later, earlier, hlog⟩ := List.append_of_mem hmem
  split at hnote
  · next hsame =>
    exact ⟨note, earlier, ⟨later, hlog.symm⟩, hsame.1, hsame.2, Option.some.inj hnote⟩
  · cases hnote

theorem Found.mono {log later : List Note} {n : String} {ids : Identity} (hsub : log ⊆ later)
    (h : Found log n ids) : Found later n ids := by
  obtain ⟨note, hmem, hfound⟩ := h
  exact ⟨note, hsub hmem, hfound⟩

/-! ## The invariant -/

/-- What a call has come to, by `deeds`, when it is at this stage. A stage tells the whole history of a
call, up to the sources of failures. -/
inductive Story (n : String) : Stage → List Deed → Prop where
  | reading : Story n .reading []
  | asking : Story n .asking [.missed]
  | storing (record : Application) : Story n (.storing record) [.found record, .missed]
  | hit (ids : Identity) : Story n (.done (.ok ids)) [.hit ids]
  | failed (source : DirectoryError) :
    Story n (.done (.error (.lookup n source))) [.failed source, .missed]
  | stored (record : Application) :
    Story n (.done (.ok record.clientIds)) [.stored record.clientIds, .found record, .missed]
  | lost (record : Application) :
    Story n (.done (.error (.cache .deadlineOverflow)))
      [.lost .deadlineOverflow, .found record, .missed]

theorem story_advances {r r' : Resolver} {n : String} {stage next : Stage} {deed : Deed}
    {done : List Deed} (h : Story n stage done) (hadvances : Advances r n stage deed next r') :
    Story n next (deed :: done) := by
  -- each step puts one deed in front of those of the stage before
  cases hadvances with
  | hit e _ => cases h; exact .hit e.value
  | missed _ => cases h; exact .asking
  | failed source _ => cases h; exact .failed source
  | found record _ => cases h; exact .storing record
  | stored record _ _ => cases h; exact .stored record
  | lost record _ => cases h; exact .lost record

/-- A note is borne out by its `directory` and the steps before it: what was read is what was written
last, less than `ttl` ago; what was found, or why nothing was, is what the directory had under the
name; what was written was found by the same call; and only at `Instant.horizon` is it lost. -/
def Note.Backed (ttl : Duration) (note : Note) (earlier : List Note) : Prop :=
  match note.deed with
  | .hit ids => ∃ time, lastStored? earlier note.application = some (time, ids) ∧
      time ≤ note.time ∧ note.time < time + ttl.nanos
  | .found record => note.directory.get note.application = .ok record
  | .failed source => note.directory.get note.application = .error source
  | .stored ids => ∃ record, .found record ∈ deeds earlier note.call note.application ∧
      record.clientIds = ids
  | .lost _ => Instant.horizon ≤ note.time + ttl.nanos
  | .missed => True

/-- The invariant: the entries of the cache and the stages of all calls are those that `log` tells. -/
structure Sound (ttl : Duration) (s : Traffic) : Prop where
  ttl_eq : s.resolver.cache.cache.ttl = ttl
  entries : ∀ n e, s.resolver.cache.cache.find? n = some e →
    ∃ time, lastStored? s.log n = some (time, e.value) ∧ e.expiresAt = time + ttl.nanos
  times : ∀ note ∈ s.log, note.time ≤ s.now
  made : ∀ note ∈ s.log, note.call < s.calls.length
  calls : ∀ i c, s.calls[i]? = some c → Story c.application c.stage (deeds s.log i c.application)
  backed : ∀ note earlier, note :: earlier <:+ s.log → note.Backed ttl earlier

theorem sound_start (ttl : Duration) (directory : FaultyDirectory) (now : Instant)
    (janitors : List Janitor) : Sound ttl (.start ttl directory now janitors) where
  ttl_eq := rfl
  entries := nofun
  times := nofun
  made := nofun
  calls := nofun
  backed _ _ h := nomatch List.suffix_nil.1 h

/-! ## Steps of calls -/

section Proceeding

variable {r r' : Resolver} {n : String} {stage next : Stage} {deed : Deed}

/-- `advance?` takes no time and leaves the life time of entries as it is. -/
theorem Advances.frame (h : Advances r n stage deed next r') :
    r'.cache.now = r.cache.now ∧ r'.cache.cache.ttl = r.cache.cache.ttl := by
  cases h with
  | hit _ _ | missed _ => exact ⟨r.cache.now_get n, r.cache.ttl_get n⟩
  | failed _ _ | found _ _ | lost _ _ => exact ⟨rfl, rfl⟩
  | stored record t hset =>
    obtain ⟨hnow, httl, -⟩ := r.cache.set_eq_ok t n record.clientIds hset
    exact ⟨hnow, httl⟩

/-- An entry that is stored after a step was written by it, as `Note.stored?` of the step says, or was
there before and is still what was written last. -/
theorem Advances.find?_eq_some (h : Advances r n stage deed next r') (i : Nat) {k : String}
    {e : CacheEntry Identity} (hfind : r'.cache.cache.find? k = some e) :
    (Note.mk r.cache.now r.directory i n deed).stored? k = some (r.cache.now, e.value) ∧
        e.expiresAt = r.cache.now + r.cache.cache.ttl.nanos ∨
      (Note.mk r.cache.now r.directory i n deed).stored? k = none ∧ r.cache.cache.find? k = some e := by
  cases h with
  | hit _ _ | missed _ =>
    exact Or.inr ⟨rfl, (r.cache.cache.drops_get r.cache.now n).find?_eq_some hfind⟩
  | failed _ _ | found _ _ | lost _ _ => exact Or.inr ⟨rfl, hfind⟩
  | stored record t hset =>
    obtain ⟨hcache, -⟩ := r.cache.cache_set_eq_ok t n record.clientIds hset
    rw [r.cache.cache.find?_set t.cache r.cache.now n k record.clientIds hcache] at hfind
    by_cases hk : k = n
    · rw [if_pos hk] at hfind
      cases hfind
      exact Or.inl ⟨by simp [Note.stored?, hk], rfl⟩
    · rw [if_neg hk] at hfind
      exact Or.inr ⟨by simp [Note.stored?, Ne.symm hk], hfind⟩

/-- A step changes a live entry only if the call was at `Stage.storing`. -/
theorem Advances.live? (h : Advances r n stage deed next r') (hstage : ∀ record, stage ≠ .storing record)
    (k : String) : r'.cache.live? k = r.cache.live? k := by
  cases h with
  | hit _ _ | missed _ => exact r.cache.live?_get n k
  | failed _ _ | found _ _ => rfl
  | stored record _ _ | lost record _ => exact absurd rfl (hstage record)

end Proceeding

/-- What `lastStored?` gives was written before now. -/
theorem Sound.stored_le {ttl : Duration} {s : Traffic} (h : Sound ttl s) {n : String} {time : Instant}
    {ids : Identity} (hstored : lastStored? s.log n = some (time, ids)) : time ≤ s.now := by
  obtain ⟨note, earlier, hsuffix, -, rfl, -⟩ := exists_of_lastStored? s.log n time ids hstored
  exact h.times note (hsuffix.subset List.mem_cons_self)

/-- The next step of a call is `Backed` by the log before it. -/
theorem Sound.backed_next {ttl : Duration} {s : Traffic} (h : Sound ttl s) {i : Nat} {c : Call}
    (hcall : s.calls[i]? = some c) {deed : Deed} {next : Stage} {r' : Resolver}
    (hadvances : Advances s.resolver c.application c.stage deed next r') :
    (Note.mk s.now s.resolver.directory i c.application deed).Backed ttl s.log := by
  have hstory := h.calls i c hcall
  generalize hstage : c.stage = stage at hadvances hstory
  cases hadvances with
  -- the live entry is of the latest write, and it has not expired yet
  | hit e hlive =>
    obtain ⟨hfind, hfresh⟩ := Option.filter_eq_some_iff.1 hlive
    obtain ⟨time, hstored, hexpires⟩ := h.entries c.application e hfind
    have hlt : s.now < e.expiresAt := by simpa [CacheEntry.expired, Traffic.now] using hfresh
    exact ⟨time, hstored, h.stored_le hstored, hexpires ▸ hlt⟩
  | missed _ => trivial
  | failed _ hlookup | found _ hlookup => exact hlookup
  -- the stage tells that the record was found by this call
  | stored record t _ =>
    have hfound : .found record ∈ deeds s.log i c.application := by
      generalize deeds s.log i c.application = done at hstory
      cases hstory
      exact List.mem_cons_self
    exact ⟨record, hfound, rfl⟩
  | lost record hfull =>
    rw [TendedCache.CanStore, h.ttl_eq] at hfull
    exact Nat.le_of_not_lt hfull

/-- The `Sound.entries` after the next step of a call: the log counts with this step. -/
theorem Sound.entries_next {ttl : Duration} {s : Traffic} (h : Sound ttl s) (i : Nat) {n : String}
    {stage next : Stage} {deed : Deed} {r' : Resolver}
    (hadvances : Advances s.resolver n stage deed next r') (k : String) (e : CacheEntry Identity)
    (hfind : r'.cache.cache.find? k = some e) :
    ∃ time, lastStored? (⟨s.now, s.resolver.directory, i, n, deed⟩ :: s.log) k = some (time, e.value) ∧
      e.expiresAt = time + ttl.nanos := by
  rw [lastStored?_cons]
  -- either this step wrote the entry, or it has been there and the step wrote another one
  obtain ⟨hstored, hexpires⟩ | ⟨hnone, hbefore⟩ := hadvances.find?_eq_some i hfind
  · exact ⟨s.now, congrArg (Option.or · _) hstored, h.ttl_eq ▸ hexpires⟩
  · obtain ⟨time, hstored, hexpires⟩ := h.entries k e hbefore
    exact ⟨time, (congrArg (Option.or · _) hnone).trans hstored, hexpires⟩

/-- After the next step of call `i` all calls are at the stages that the log tells. -/
theorem Sound.calls_next {ttl : Duration} {s : Traffic} (h : Sound ttl s) {i : Nat} {c : Call}
    (hcall : s.calls[i]? = some c) {deed : Deed} {next : Stage} {r' : Resolver}
    (hadvances : Advances s.resolver c.application c.stage deed next r') (j : Nat) (c' : Call)
    (hc' : (s.calls.set i { c with stage := next })[j]? = some c') :
    Story c'.application c'.stage
      (deeds (⟨s.now, s.resolver.directory, i, c.application, deed⟩ :: s.log) j c'.application) := by
  have hi : i < s.calls.length := (List.getElem?_eq_some_iff.1 hcall).1
  rw [deeds_cons]
  by_cases hj : i = j
  · -- the call itself
    subst hj
    rw [List.getElem?_set_self hi] at hc'
    cases hc'
    rw [if_pos ⟨rfl, rfl⟩]
    exact story_advances (h.calls i c hcall) hadvances
  · rw [List.getElem?_set_ne hj] at hc'
    rw [if_neg fun hsame => hj hsame.1]
    exact h.calls j c' hc'

/-- `proceed` keeps the invariant. -/
theorem sound_proceed (ttl : Duration) (s : Traffic) (h : Sound ttl s) (i : Nat) (c : Call)
    (hcall : s.calls[i]? = some c) (deed : Deed) (next : Stage) (r' : Resolver)
    (hadvances : Advances s.resolver c.application c.stage deed next r') :
    Sound ttl { resolver := r', calls := s.calls.set i { c with stage := next },
                log := ⟨s.now, s.resolver.directory, i, c.application, deed⟩ :: s.log } := by
  obtain ⟨hnow, httl⟩ := hadvances.frame
  -- the call stays one of those that were made
  have hi : i < s.calls.length := (List.getElem?_eq_some_iff.1 hcall).1
  constructor
  case ttl_eq => exact httl.trans h.ttl_eq
  case entries => exact h.entries_next i hadvances
  case times =>
    exact List.forall_mem_cons.2 ⟨Nat.le_of_eq hnow.symm,
      fun note hmem => Nat.le_trans (h.times note hmem) (Nat.le_of_eq hnow.symm)⟩
  case made =>
    rw [List.length_set]
    exact List.forall_mem_cons.2 ⟨hi, h.made⟩
  case calls => exact h.calls_next hcall hadvances
  case backed =>
    intro note earlier hsuffix
    -- the note of this step, and the notes in front of it
    obtain hfirst | hbefore := List.suffix_cons_iff.1 hsuffix
    · cases hfirst
      exact h.backed_next hcall hadvances
    · exact h.backed note earlier hbefore

/-! ## Runs -/

/-- A new call keeps `Sound`: it has come to nothing yet. -/
theorem sound_call (ttl : Duration) (s : Traffic) (h : Sound ttl s) (n : String) :
    Sound ttl (s.step (.call n)) := by
  refine ⟨h.ttl_eq, h.entries, h.times, fun note hmem => ?_, fun i c hc => ?_, h.backed⟩
  · -- notes are of calls that had been made before
    have hlt := h.made note hmem
    simp only [Traffic.step, List.length_append]
    omega
  · change (s.calls ++ [({ application := n } : Call)])[i]? = some c at hc
    by_cases hi : i < s.calls.length
    · -- an earlier call
      rw [List.getElem?_append_left hi] at hc
      exact h.calls i c hc
    · rw [List.getElem?_append_right (Nat.le_of_not_lt hi), List.getElem?_singleton] at hc
      split at hc
      · cases hc
        -- no step of it was noted
        have hnone : deeds s.log i n = [] := by
          refine List.filterMap_eq_nil_iff.2 fun note hmem => if_neg fun hsame => ?_
          exact hi (hsame.1 ▸ h.made note hmem)
        show Story n .reading (deeds s.log i n)
        rw [hnone]
        exact .reading
      · cases hc

/-- As long as no call proceeds, the cache `Drops` expired entries at most, which keeps `Sound`. -/
theorem sound_drops (ttl : Duration) (s : Traffic) (h : Sound ttl s) (r' : Resolver)
    (hnow : s.now ≤ r'.cache.now)
    (hdrops : s.resolver.cache.cache.Drops r'.cache.now r'.cache.cache) :
    Sound ttl { s with resolver := r' } where
  ttl_eq := hdrops.ttl_eq.trans h.ttl_eq
  entries n e hfind := h.entries n e (hdrops.find?_eq_some hfind)
  times note hmem := Nat.le_trans (h.times note hmem) hnow
  made := h.made
  calls := h.calls
  backed := h.backed

/-- Every `Move` keeps `Sound`. -/
theorem sound_step (ttl : Duration) (s : Traffic) (h : Sound ttl s) (move : Move) :
    Sound ttl (s.step move) := by
  cases move with
  | call n => exact sound_call ttl s h n
  | proceed i =>
    simp only [Traffic.step]
    split
    · -- no such call, and then a call that is done
      exact h
    · next c hcall =>
      split
      · exact h
      · next deed next r' hnext =>
        exact sound_proceed ttl s h i c hcall deed next r' (advances_of_advance? _ _ _ _ _ _ hnext)
  | world event =>
    refine sound_drops ttl s h _ (now_le_after s.resolver event) ?_
    -- only time that passes touches the cache, and it drops what a sweep of janitors drops
    obtain ⟨span, hcache⟩ | hcache := cache_after_cases s.resolver event
    · rw [hcache]
      exact s.resolver.cache.drops_step (.advance span) rfl
    · rw [hcache]
      exact s.resolver.cache.cache.drops_refl _
  | sweep => exact sound_drops ttl s h _ (Nat.le_refl _) (s.resolver.cache.cache.drops_evictExpired _)

/-- `Sound` holds after every run, by induction on its moves. -/
theorem sound_run (ttl : Duration) (s : Traffic) (h : Sound ttl s) (moves : List Move) :
    Sound ttl (s.run moves) := by
  induction moves generalizing s with
  | nil => exact h
  | cons move moves ih => exact ih (s.step move) (sound_step ttl s h move)

/-! ## What calls return and what is stored -/

/-- A call that returned `ids` read it, or stored the list of the record that it had found. -/
theorem Story.of_ok {n : String} {ids : Identity} {done : List Deed}
    (h : Story n (.done (.ok ids)) done) :
    done = [.hit ids] ∨
      ∃ record, record.clientIds = ids ∧ done = [.stored ids, .found record, .missed] := by
  cases h with
  | hit => exact Or.inl rfl
  | stored record => exact Or.inr ⟨record, rfl, rfl⟩

/-- A call that found `record` returned its list, unless it could not be stored. -/
theorem Story.of_found {n : String} {answer : Except ResolveError Identity} {record : Application}
    {done : List Deed} (h : Story n (.done answer) done) (hfound : .found record ∈ done) :
    answer = .ok record.clientIds ∨
      answer = .error (.cache .deadlineOverflow) ∧ .lost .deadlineOverflow ∈ done := by
  cases h with
  | hit ids | failed source => simp at hfound
  | stored found =>
    obtain rfl : record = found := by simpa using hfound
    exact Or.inl rfl
  | lost found => exact Or.inr ⟨rfl, List.mem_cons_self⟩

/-- A call whose lookup failed with `source` is done, and has done nothing else but to read. -/
theorem Story.of_failed {n : String} {stage : Stage} {source : DirectoryError} {done : List Deed}
    (h : Story n stage done) (hfailed : .failed source ∈ done) :
    stage = .done (.error (.lookup n source)) ∧ done = [.failed source, .missed] := by
  cases h with
  | failed other =>
    obtain rfl : source = other := by simpa using hfailed
    exact ⟨rfl, rfl⟩
  | reading | asking | storing record | hit ids | stored record | lost record => simp at hfailed

/-- What `resolve` promises of calls whose steps fall between each other: they keep to records of their
own applications, and to their own lookups. -/
structure IdentitiesApart (ttl : Duration) (s : Traffic) : Prop where
  /-- A list that is returned was `Found` by a lookup of the same application. -/
  returned : ∀ c ∈ s.calls, ∀ ids, c.stage = .done (.ok ids) → Found s.log c.application ids
  /-- A list that is stored was `Found` too, by a lookup of the name that it is stored under; this
  holds of expired entries as well. -/
  held : ∀ n e, s.resolver.cache.cache.find? n = some e → Found s.log n e.value
  /-- Any list that was ever stored had been `Found` before it was written. -/
  written : ∀ note earlier, note :: earlier <:+ s.log → ∀ ids, note.deed = .stored ids →
    Found earlier note.application ids
  /-- What a call was told is what the directory had under the name of the call, at that moment. -/
  told : ∀ note ∈ s.log,
    (∀ record, note.deed = .found record → note.directory.get note.application = .ok record) ∧
      ∀ source, note.deed = .failed source → note.directory.get note.application = .error source
  /-- A list that was returned without a lookup is what had been stored last when it was read, less than
  a life time earlier. -/
  fresh : ∀ i c ids, s.calls[i]? = some c → c.stage = .done (.ok ids) →
    (∀ record, .found record ∉ deeds s.log i c.application) →
    ∃ note earlier time, note :: earlier <:+ s.log ∧ note.call = i ∧ note.deed = .hit ids ∧
      lastStored? earlier c.application = some (time, ids) ∧ time ≤ note.time ∧
      note.time < time + ttl.nanos
  /-- A call that is done after a lookup has returned the list of the record that it found itself. It
  fails only when the deadline of an entry cannot be represented. -/
  own : ∀ i c record answer, s.calls[i]? = some c → .found record ∈ deeds s.log i c.application →
    c.stage = .done answer → answer = .ok record.clientIds ∨
      answer = .error (.cache .deadlineOverflow) ∧ Instant.horizon ≤ s.now + ttl.nanos
  /-- A call that reads is done if there is a live entry of its name, and else goes on to ask. -/
  reads : ∀ i n, s.calls[i]? = some ⟨n, .reading⟩ →
    (∀ e, s.resolver.cache.live? n = some e →
      (s.step (.proceed i)).calls[i]? = some ⟨n, .done (.ok e.value)⟩) ∧
    (s.resolver.cache.live? n = none → (s.step (.proceed i)).calls[i]? = some ⟨n, .asking⟩)
  /-- A call that asks for a record takes the one that the directory has under its name, and has
  changed nothing yet. -/
  finding : ∀ i n record, s.calls[i]? = some ⟨n, .asking⟩ →
    s.resolver.directory.get n = .ok record →
    (s.step (.proceed i)).resolver = s.resolver ∧
      (s.step (.proceed i)).calls[i]? = some ⟨n, .storing record⟩
  /-- A lookup that fails changes nothing at all, and its call is done. -/
  failing : ∀ i n source, s.calls[i]? = some ⟨n, .asking⟩ →
    s.resolver.directory.get n = .error source →
    (s.step (.proceed i)).resolver = s.resolver ∧
      (s.step (.proceed i)).calls[i]? = some ⟨n, .done (.error (.lookup n source))⟩
  /-- Before the end of the clock a call that found a record returns its list, and leaves it under the
  name of the call, for a life time, in place of what others wrote in between. No other entry changes. -/
  completes : ∀ i n record, s.calls[i]? = some ⟨n, .storing record⟩ →
    s.now + ttl.nanos < Instant.horizon →
    (s.step (.proceed i)).calls[i]? = some ⟨n, .done (.ok record.clientIds)⟩ ∧
      ∀ k, (s.step (.proceed i)).resolver.cache.cache.find? k =
        if k = n then some ⟨record.clientIds, s.now + ttl.nanos⟩
        else s.resolver.cache.cache.find? k
  /-- A call changes live entries only when it stores what it found. -/
  undisturbed : ∀ i c, s.calls[i]? = some c → (∀ record, c.stage ≠ .storing record) → ∀ n,
    (s.step (.proceed i)).resolver.cache.live? n = s.resolver.cache.live? n
  /-- A call whose lookup failed has stored nothing. -/
  failed : ∀ i c source, s.calls[i]? = some c → .failed source ∈ deeds s.log i c.application →
    c.stage = .done (.error (.lookup c.application source)) ∧
      ∀ ids, .stored ids ∉ deeds s.log i c.application
  /-- A call moves no other call. -/
  others : ∀ i j, i ≠ j → (s.step (.proceed i)).calls[j]? = s.calls[j]?
  /-- A new call whose three steps have nothing in between is a resolution. -/
  alone : ∀ n,
    let i := s.calls.length
    let after := s.run [.call n, .proceed i, .proceed i, .proceed i]
    after.resolver = (s.resolver.resolve n).2 ∧
      after.calls[i]? = some ⟨n, .done (s.resolver.resolve n).1.answer⟩

/-! ### Single steps -/

/-- `Traffic.step` moves a call as `advance?` says. -/
theorem Traffic.step_proceed (s : Traffic) (i : Nat) (c : Call) (hcall : s.calls[i]? = some c)
    (deed : Deed) (next : Stage) (r' : Resolver)
    (hnext : advance? s.resolver c.application c.stage = some (deed, next, r')) :
    (s.step (.proceed i)).resolver = r' ∧
      (s.step (.proceed i)).calls[i]? = some ⟨c.application, next⟩ := by
  have hi : i < s.calls.length := (List.getElem?_eq_some_iff.1 hcall).1
  simp only [step, hcall, hnext, true_and]
  exact List.getElem?_set_self hi

/-- `Traffic.step` moves a call by `proceed`, whether it has a next step or is done. -/
theorem Traffic.step_proceed_eq (s : Traffic) (i : Nat) (n : String) (state : Stage × Resolver)
    (hcall : s.calls[i]? = some ⟨n, state.1⟩) (hresolver : s.resolver = state.2) :
    (s.step (.proceed i)).calls[i]? = some ⟨n, (Resolver.proceed n state).1⟩ ∧
      (s.step (.proceed i)).resolver = (Resolver.proceed n state).2 := by
  cases hnext : advance? state.2 n state.1 with
  | none =>
    -- a call that is done stays where it is, and so does `proceed`
    rw [← hresolver] at hnext
    simp only [step, hcall, hnext, Resolver.proceed, ← hresolver, Option.map_none, Option.getD_none,
      and_self]
  | some after =>
    obtain ⟨deed, next, r'⟩ := after
    rw [← hresolver] at hnext
    obtain ⟨hr', hcalls⟩ := s.step_proceed i ⟨n, state.1⟩ hcall deed next r' hnext
    simp only [Resolver.proceed, ← hresolver, hnext, Option.map_some, Option.getD_some]
    exact ⟨hcalls, hr'⟩

/-- `Move.call` puts a new call behind all others, and it has yet to read. -/
theorem Traffic.step_call (s : Traffic) (n : String) :
    (s.step (.call n)).calls[s.calls.length]? = some ⟨n, .reading⟩ ∧
      (s.step (.call n)).resolver = s.resolver :=
  ⟨List.getElem?_concat_length, rfl⟩

/-- `Traffic.step` moves no call but the one that proceeds. -/
theorem Traffic.calls_step_proceed_of_ne (s : Traffic) (i j : Nat) (hne : i ≠ j) :
    (s.step (.proceed i)).calls[j]? = s.calls[j]? := by
  simp only [step]
  split
  · -- no such call
    rfl
  · split
    · -- a call that is done
      rfl
    · exact List.getElem?_set_ne hne

/-- A new call that is never interrupted does what `resolve` does. -/
theorem Traffic.run_alone (s : Traffic) (n : String) :
    let i := s.calls.length
    let after := s.run [.call n, .proceed i, .proceed i, .proceed i]
    after.resolver = (s.resolver.resolve n).2 ∧
      after.calls[i]? = some ⟨n, .done (s.resolver.resolve n).1.answer⟩ := by
  intro i after
  obtain ⟨hnew, hresolver⟩ := s.step_call n
  -- each step of the call is one `proceed`
  obtain ⟨hread, hread'⟩ := (s.step (.call n)).step_proceed_eq i n (.reading, s.resolver) hnew hresolver
  obtain ⟨hask, hask'⟩ := ((s.step (.call n)).step (.proceed i)).step_proceed_eq i n _ hread hread'
  obtain ⟨hstore, hstore'⟩ :=
    (((s.step (.call n)).step (.proceed i)).step (.proceed i)).step_proceed_eq i n _ hask hask'
  rw [resolve_eq_proceed] at hstore hstore'
  exact ⟨hstore', hstore⟩

section

variable {ttl : Duration} {s : Traffic} (h : Sound ttl s)

include h

/-- A record among the `deeds` of a call was `Found` by a lookup of its application. -/
theorem Sound.found_of_mem_deeds (log : List Note) (hlog : log <:+ s.log) (i : Nat) (n : String)
    (record : Application) (hmem : .found record ∈ deeds log i n) : Found log n record.clientIds := by
  obtain ⟨note, earlier, hsuffix, -, rfl, hdeed⟩ := exists_of_mem_deeds log i n _ hmem
  have hlookup := h.backed note earlier (hsuffix.trans hlog)
  rw [Note.Backed, hdeed] at hlookup
  exact ⟨note, hsuffix.subset List.mem_cons_self, rfl, record, hdeed, hlookup, rfl⟩

/-- What was written had been `Found`. -/
theorem Sound.found_of_stored (note : Note) (earlier : List Note) (hsuffix : note :: earlier <:+ s.log)
    (ids : Identity) (hdeed : note.deed = .stored ids) : Found earlier note.application ids := by
  have hbacked := h.backed note earlier hsuffix
  rw [Note.Backed, hdeed] at hbacked
  obtain ⟨record, hfound, rfl⟩ := hbacked
  exact h.found_of_mem_deeds earlier ((List.suffix_cons note earlier).trans hsuffix) note.call
    note.application record hfound

/-- What `lastStored?` gives had been `Found`, by the writer. -/
theorem Sound.found_of_lastStored? (log : List Note) (hlog : log <:+ s.log) (n : String)
    (time : Instant) (ids : Identity) (hstored : lastStored? log n = some (time, ids)) :
    Found s.log n ids := by
  obtain ⟨note, earlier, hsuffix, rfl, -, hdeed⟩ := exists_of_lastStored? log n time ids hstored
  have hfound := h.found_of_stored note earlier (hsuffix.trans hlog) ids hdeed
  exact hfound.mono ((List.suffix_cons note earlier).trans (hsuffix.trans hlog)).subset

/-- What a call was told by a lookup is what `note.directory` had under its name. -/
theorem Sound.told (note : Note) (hmem : note ∈ s.log) :
    (∀ record, note.deed = .found record → note.directory.get note.application = .ok record) ∧
      ∀ source, note.deed = .failed source →
        note.directory.get note.application = .error source := by
  obtain ⟨later, earlier, hlog⟩ := List.append_of_mem hmem
  have hbacked := h.backed note earlier ⟨later, hlog.symm⟩
  constructor
  · intro record hdeed
    rwa [Note.Backed, hdeed] at hbacked
  · intro source hdeed
    rwa [Note.Backed, hdeed] at hbacked

/-- What a call read had been written last, less than `ttl` earlier. -/
theorem Sound.fresh_of_hit (i : Nat) (n : String) (ids : Identity) (hhit : .hit ids ∈ deeds s.log i n) :
    ∃ note earlier time, note :: earlier <:+ s.log ∧ note.call = i ∧ note.deed = .hit ids ∧
      lastStored? earlier n = some (time, ids) ∧ time ≤ note.time ∧ note.time < time + ttl.nanos := by
  obtain ⟨note, earlier, hsuffix, hcall, rfl, hdeed⟩ := exists_of_mem_deeds s.log i n _ hhit
  have hbacked := h.backed note earlier hsuffix
  rw [Note.Backed, hdeed] at hbacked
  obtain ⟨time, hstored, hle, hlt⟩ := hbacked
  exact ⟨note, earlier, time, hsuffix, hcall, hdeed, hstored, hle, hlt⟩

/-- A list that was returned had been `Found`, by the call itself or by the writer of the entry that it
read. -/
theorem Sound.returned (i : Nat) (c : Call) (hcall : s.calls[i]? = some c) (ids : Identity)
    (hdone : c.stage = .done (.ok ids)) : Found s.log c.application ids := by
  have hstory := hdone ▸ h.calls i c hcall
  obtain hhit | ⟨record, rfl, hstored⟩ := hstory.of_ok
  · -- what was read had been written, and what was written had been found
    obtain ⟨note, earlier, time, hsuffix, -, -, hlast, -⟩ :=
      h.fresh_of_hit i c.application ids (by simp [hhit])
    have hearlier := (List.suffix_cons note earlier).trans hsuffix
    exact h.found_of_lastStored? earlier hearlier c.application time ids hlast
  · exact h.found_of_mem_deeds s.log List.suffix_rfl i c.application record (by simp [hstored])

/-- A call that found `record` is done with its list, or the list was lost at the end of the clock. -/
theorem Sound.own (i : Nat) (c : Call) (record : Application) (answer : Except ResolveError Identity)
    (hcall : s.calls[i]? = some c) (hfound : .found record ∈ deeds s.log i c.application)
    (hdone : c.stage = .done answer) : answer = .ok record.clientIds ∨
      answer = .error (.cache .deadlineOverflow) ∧ Instant.horizon ≤ s.now + ttl.nanos := by
  have hstory := hdone ▸ h.calls i c hcall
  obtain hok | ⟨hlost, hdeed⟩ := hstory.of_found hfound
  · exact Or.inl hok
  · -- the clock has only gone on since the list was lost
    obtain ⟨note, earlier, hsuffix, -, -, hdeed⟩ := exists_of_mem_deeds s.log i c.application _ hdeed
    have hhorizon := h.backed note earlier hsuffix
    rw [Note.Backed, hdeed] at hhorizon
    have htime := h.times note (hsuffix.subset List.mem_cons_self)
    exact Or.inr ⟨hlost, Nat.le_trans hhorizon (Nat.add_le_add_right htime ttl.nanos)⟩

/-- Before the end of the clock `proceed` finishes a call that found a record, and stores its list. -/
theorem Sound.completes (i : Nat) (n : String) (record : Application)
    (hcall : s.calls[i]? = some ⟨n, .storing record⟩) (hfit : s.now + ttl.nanos < Instant.horizon) :
    (s.step (.proceed i)).calls[i]? = some ⟨n, .done (.ok record.clientIds)⟩ ∧
      ∀ k, (s.step (.proceed i)).resolver.cache.cache.find? k =
        if k = n then some ⟨record.clientIds, s.now + ttl.nanos⟩
        else s.resolver.cache.cache.find? k := by
  rw [← h.ttl_eq] at hfit ⊢
  obtain ⟨t, hset⟩ := s.resolver.cache.exists_set_eq_ok n record.clientIds hfit
  have hnext : advance? s.resolver n (.storing record) =
      some (.stored record.clientIds, .done (.ok record.clientIds), { s.resolver with cache := t }) := by
    simp only [advance?, hset]
  obtain ⟨hresolver, hdone⟩ := s.step_proceed i _ hcall _ _ _ hnext
  refine ⟨hdone, fun k => ?_⟩
  obtain ⟨hcache, -⟩ := s.resolver.cache.cache_set_eq_ok t n record.clientIds hset
  rw [hresolver]
  exact s.resolver.cache.cache.find?_set t.cache s.now n k record.clientIds hcache

/-- As long as the invariant `Sound` holds, identities are kept apart. -/
theorem Sound.identitiesApart : IdentitiesApart ttl s where
  returned c hmem := by
    obtain ⟨i, hcall⟩ := List.mem_iff_getElem?.1 hmem
    exact h.returned i c hcall
  held n e hfind := by
    obtain ⟨time, hstored, -⟩ := h.entries n e hfind
    exact h.found_of_lastStored? s.log List.suffix_rfl n time e.value hstored
  written := h.found_of_stored
  told := h.told
  fresh i c ids hcall hdone hunasked := by
    have hstory := hdone ▸ h.calls i c hcall
    obtain hhit | ⟨record, -, hstored⟩ := hstory.of_ok
    · -- the list was read from an entry
      exact h.fresh_of_hit i c.application ids (by simp [hhit])
    · -- the list is of a lookup after all
      exact absurd (by simp [hstored]) (hunasked record)
  own := h.own
  reads i n hcall :=
    ⟨fun e hlive => (s.step_proceed i _ hcall _ _ _ (advance?_of_live s.resolver n e hlive)).2,
      fun hdead => (s.step_proceed i _ hcall _ _ _ (advance?_of_dead s.resolver n hdead)).2⟩
  finding i n record hcall hlookup := by
    refine s.step_proceed i _ hcall (.found record) _ _ ?_
    simp only [advance?, hlookup]
  failing i n source hcall hlookup := by
    refine s.step_proceed i _ hcall (.failed source) _ _ ?_
    simp only [advance?, hlookup]
  completes := h.completes
  undisturbed i c hcall hstage n := by
    cases hnext : advance? s.resolver c.application c.stage with
    | none => simp only [Traffic.step, hcall, hnext]
    | some after =>
      obtain ⟨deed, next, r'⟩ := after
      rw [(s.step_proceed i c hcall deed next r' hnext).1]
      exact (advances_of_advance? _ _ _ _ _ _ hnext).live? hstage n
  failed i c source hcall hfailed := by
    obtain ⟨hdone, hdeeds⟩ := (h.calls i c hcall).of_failed hfailed
    exact ⟨hdone, fun ids => by simp [hdeeds]⟩
  others := s.calls_step_proceed_of_ne
  alone := s.run_alone

end

/-- Calls whose steps fall between each other, in any order, with changes of `directory`, failures,
sweeps and time between them, keep to the records of their own applications. -/
theorem identitiesApart_run (ttl : Duration) (directory : FaultyDirectory) (now : Instant)
    (janitors : List Janitor) (moves : List Move) :
    IdentitiesApart ttl ((Traffic.start ttl directory now janitors).run moves) :=
  (sound_run ttl _ (sound_start ttl directory now janitors) moves).identitiesApart

/-- The list that a call returned, if it is `Stage.done` and did not fail. -/
def Call.returned? (c : Call) : Option Identity :=
  match c.stage with
  | .done answer => answer.toOption
  | _ => none

/-- Calls 0 and 1 for one application and call 2 for another one overlap. The record changes between the
lookups of the first two. Call 1 stores what it found, and a janitor sweeps it; only then does call 0
store its older record. Call 3 reads it, a life time later the lookup of call 4 fails, and call 5 is
still to read. -/
def overlappingMoves : List Move :=
  [.call "app1", .call "app1", .call "app2", .proceed 0, .proceed 1, .proceed 2, .proceed 0,
    .world (.setApplication (.ofClientIds "app1" (some ["new"]))), .proceed 2, .proceed 1, .proceed 1,
    .world (.advance (.ofMillis 1000)), .proceed 0, .proceed 2, .world (.advance (.ofMillis 600)),
    .call "app1", .proceed 3, .world (.fail "app1" (.config "down")),
    .world (.advance (.ofMillis 400)), .sweep, .call "app1", .proceed 4, .proceed 4, .call "app2"]

/-- After `overlappingMoves` the late writer has returned and stored its own record, which call 3 read
from it, and nothing of one application has come to the other. -/
theorem identitiesApart_run_overlapping :
    let directory : FaultyDirectory :=
      ⟨.ofClientIds [("app1", some ["old"]), ("app2", some ["two"])], []⟩
    let s := (Traffic.start (.ofSeconds 1) directory 5 [.start 300000000 5]).run overlappingMoves
    IdentitiesApart (.ofSeconds 1) s ∧
      s.calls.map (fun c => (c.application, c.returned?)) =
        [("app1", some ["old"]), ("app1", some ["new"]), ("app2", some ["two"]),
          ("app1", some ["old"]), ("app1", none), ("app2", none)] ∧
      lastStored? s.log "app1" = some (1000000005, ["old"]) ∧
      deeds s.log 4 "app1" = [.failed (.config "down"), .missed] ∧
      s.resolver.cache.cache.entries = [] := by
  intro directory s
  exact ⟨identitiesApart_run (.ofSeconds 1) directory 5 [.start 300000000 5] overlappingMoves,
    by decide +kernel, by decide +kernel, by decide +kernel, by decide +kernel⟩

end Resolver

end CertGate
