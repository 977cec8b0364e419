import CertGate.Cache
import CertGate.Error

/-!
# Identities of applications

The identity of an application is the list of client IDs that may call it. It is looked up in a
directory and remembered in a cache; a failed lookup is not remembered. `Identity.resolve` is a whole
resolution, and `Resolver.advance?` one step of it: between the steps other resolutions may run.
-/

namespace CertGate

/-- The client IDs that may call an application, which `Application.clientIds` reads off its record. -/
abbrev Identity := List String

/-- Why `resolve` could not give an identity. -/
inductive ResolveError where
  | lookup (application : String) (source : DirectoryError)
  | cache (error : CacheError)
  deriving DecidableEq, Repr

/-- The error that an answer reports where `resolve` failed. For a `CacheError` there is none. -/
def ResolveError.toGateError : ResolveError → Except CacheError GateError
  | lookup application source => .ok (.identity application source)
  | cache error => .error error

/-- What one call of `resolve` did: its answer, and the names that the directory was asked for. -/
structure Resolution where
  answer : Except ResolveError Identity
  lookups : List String

namespace Identity

/-- Resolves an application: from the cache if it holds a live entry, else by a `lookup`, whose answer
is stored. -/
def resolve (lookup : Lookup) (cache : TendedCache Identity) (application : String) :
    Resolution × TendedCache Identity :=
  match cache.get application with
  | (some identity, cache) => (⟨.ok identity, []⟩, cache)
  | (none, cache) =>
    match lookup application with
    | .error source => (⟨.error (.lookup application source), [application]⟩, cache)
    | .ok record =>
      match cache.set application record.clientIds with
      | .error e => (⟨.error (.cache e), [application]⟩, cache)
      | .ok cache => (⟨.ok record.clientIds, [application]⟩, cache)

end Identity

/-! ## Runs -/

/-- A `FaultyDirectory`, whose records come and go, and the cache in front of it. -/
structure Resolver where
  directory : FaultyDirectory
  cache : TendedCache Identity

/-- What can happen to a `Resolver`, its directory and its cache, between requests. -/
inductive WorldEvent where
  | setApplication (record : Application)
  | fail (application : String) (error : DirectoryError)
  | restore (application : String)
  | advance (span : Duration)
  deriving Repr

namespace Resolver

/-- A directory whose records have not been asked for yet, and the janitors that are to sweep the
cache. -/
def start (ttl : Duration) (directory : FaultyDirectory) (now : Instant := 0)
    (janitors : List Janitor := []) : Resolver :=
  ⟨directory, { cache := { ttl }, now, janitors }⟩

/-- Lets a `WorldEvent` happen. -/
def after (r : Resolver) : WorldEvent → Resolver
  | .setApplication record => { r with directory := r.directory.insert record }
  | .fail application error => { r with directory := r.directory.fail application error }
  | .restore application => { r with directory := r.directory.restore application }
  | .advance span => { r with cache := r.cache.advance span }

/-- Resolves an application in one go, by `Identity.resolve`, with nothing happening in between. -/
def resolve (r : Resolver) (application : String) : Resolution × Resolver :=
  let (resolution, cache) := Identity.resolve r.directory.get r.cache application
  (resolution, { r with cache })

/-! ## The steps of a resolution -/

/-- How far a call of `resolve` has come. Between its steps it waits, and other calls may run. -/
inductive Stage where
  | reading
  | asking
  | storing (record : Application)
  | done (answer : Except ResolveError Identity)

/-- What a step of a call came to, at one `Stage` of it. -/
inductive Deed where
  | hit (ids : Identity)
  | missed
  | failed (source : DirectoryError)
  | found (record : Application)
  | stored (ids : Identity)
  | lost (error : CacheError)
  deriving DecidableEq, Repr

/-- The next step of a call for `application`: what it comes to, and what it leaves. Each is one call
of the cache or the directory. -/
def advance? (r : Resolver) (application : String) : Stage → Option (Deed × Stage × Resolver)
  | .reading =>
    match r.cache.get application with
    | (some ids, cache) => some (.hit ids, .done (.ok ids), { r with cache })
    | (none, cache) => some (.missed, .asking, { r with cache })
  | .asking =>
    match r.directory.get application with
    | .error source => some (.failed source, .done (.error (.lookup application source)), r)
    | .ok record => some (.found record, .storing record, r)
  | .storing record =>
    match r.cache.set application record.clientIds with
    | .error e => some (.lost e, .done (.error (.cache e)), r)
    | .ok cache => some (.stored record.clientIds, .done (.ok record.clientIds), { r with cache })
  | .done _ => none

/-- A call and the resolver after what `advance?` says is the next step of the call, if there is one. -/
def proceed (application : String) (state : Stage × Resolver) : Stage × Resolver :=
  ((advance? state.2 application state.1).map (·.2)).getD state

end Resolver

end CertGate
